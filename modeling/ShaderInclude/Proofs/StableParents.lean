import ShaderInclude.Proofs.Nesting

/-!
# ShaderInclude.Proofs.StableParents

The parent of a segment is settled when the segment is added. A buffer stores no parents: it looks for
them among the ranges it has at the time of the question, and every edit changes ranges. All the same
no later edit changes an answer.

* `ParentsKept b b'`: the segments of `b` are segments of `b'`, at the same indices and with the same
  parents. One edit keeps them (`parentsKept_grafted`, `parentsKept_blanked`), and so does every
  continuation of a history (`History.Extends.parentsKept`).
* `History.parents_fixed_at_insertion`: the same of the edits themselves, with the parents of the
  segments that an edit adds.
-/

namespace ShaderInclude
namespace Buffer

/-- An index from the end names a segment that nothing stands before. -/
theorem parentIndex_of_neg {b : Buffer} {j : Int} (hj : -(b.segments.length : Int) ≤ j)
    (hneg : j < 0) : b.parentIndex j = .ok none := by
  have hnot : ¬ 0 ≤ j := by omega
  simp [parentIndex, position?, hnot, hj]

/-- The segments of a buffer are there after an edit, and each has the parent it had. -/
structure ParentsKept (b b' : Buffer) : Prop where
  count : b.segments.length ≤ b'.segments.length
  parent : ∀ j : Int, -(b.segments.length : Int) ≤ j → j < b.segments.length →
    b'.parentIndex j = b.parentIndex j

namespace ParentsKept

theorem refl (b : Buffer) : ParentsKept b b :=
  ⟨Nat.le_refl _, fun _ _ _ => rfl⟩

theorem trans {b b' b'' : Buffer} (h : ParentsKept b b') (h' : ParentsKept b' b'') :
    ParentsKept b b'' := by
  have hcount := h.count
  refine ⟨Nat.le_trans hcount h'.count, ?_⟩
  intro j hlow hhigh
  rw [h'.parent j (by omega) (by omega), h.parent j hlow hhigh]

end ParentsKept

/-! ## One edit -/

theorem parentsKept_grafted (b nested : Buffer) (line : Int) :
    ParentsKept b (b.grafted line nested) := by
  have hlength := length_segments_grafted b nested line
  refine ⟨by omega, ?_⟩
  intro j hlow hhigh
  by_cases hneg : j < 0
  · rw [parentIndex_of_neg (by omega) hneg, parentIndex_of_neg hlow hneg]
  · obtain ⟨k, rfl⟩ := Int.eq_ofNat_of_zero_le (Int.not_lt.1 hneg)
    have hk : k < b.segments.length := by omega
    rw [parentIndex_of_lt (by omega), parentIndex_of_lt hk, parent?_grafted_old hk]

/-- Parents are a matter of the segments, and emptying a line leaves them alone. -/
theorem parentsKept_blanked (b : Buffer) (i : Nat) : ParentsKept b (b.blanked i) :=
  ⟨Nat.le_refl _, fun _ _ _ => rfl⟩

theorem parentIndex_grafted_root {b nested : Buffer} (hn : nested.Laminar) (line : Int) :
    (b.grafted line nested).parentIndex b.segments.length = .ok (b.ownerIndex? line) := by
  have hlength := length_segments_grafted b nested line
  obtain ⟨root, rest, hroot, -, -⟩ := hn.first
  rw [hroot, List.length_cons] at hlength
  rw [parentIndex_of_lt (by omega), parent?_grafted_root hn]

theorem parentIndex_grafted_inner {b nested : Buffer} (hn : nested.Laminar) (line : Int) {j : Nat}
    (hj : 1 ≤ j) (hlt : j < nested.segments.length) :
    ∃ p, nested.parentIndex j = .ok (some p) ∧
      (b.grafted line nested).parentIndex (b.segments.length + j : Nat) =
        .ok (some (b.segments.length + p)) := by
  have hlength := length_segments_grafted b nested line
  obtain ⟨p, -, hp⟩ := hn.exists_parent hj hlt
  refine ⟨p, ?_, ?_⟩
  · rw [parentIndex_of_lt hlt, hp]
  · rw [parentIndex_of_lt (by omega), parent?_grafted_inner hn hj hlt, hp, Option.map_some]

/-! ## Histories that go on -/

/-- A history goes on by edits, which may fail. -/
inductive History.Extends (h : History) : History → Prop where
  | refl : Extends h h
  | replace {later : History} (line : Int) (text file : String) :
      Extends h later → Extends h (.replace later line text file)
  | splice {later : History} (line : Int) (nested : History) :
      Extends h later → Extends h (.splice later line nested)
  | blank {later : History} (line : Int) : Extends h later → Extends h (.blank later line)

theorem parentsKept_settle_splice (b : Buffer) {nested : Buffer} (hn : nested.Laminar) (line : Int) :
    ParentsKept b (b.settle (b.splice line nested)) := by
  rcases settle_splice b hn line with ⟨-, heq⟩ | heq
  · rw [heq]
    exact parentsKept_grafted b nested line
  · rw [heq]
    exact .refl b

theorem History.Extends.parentsKept {h later : History} (he : h.Extends later) :
    ParentsKept h.buffer later.buffer := by
  induction he with
  | refl => exact .refl _
  | @replace later line text file _ ih =>
    rw [buffer, replaceLine_eq_splice]
    exact ih.trans (parentsKept_settle_splice _ (laminar_ofText text file) line)
  | @splice later line nested _ ih =>
    exact ih.trans (parentsKept_settle_splice _ nested.laminar_buffer line)
  | @blank later line _ ih =>
    rw [buffer]
    rcases settle_blankLine later.buffer line with ⟨i, heq⟩ | heq
    · rw [heq]
      exact ih.trans (parentsKept_blanked _ i)
    · rw [heq]
      exact ih

/-- An edit at a line of a buffer leaves the parents of its segments alone and makes what it adds a
child of the owner of the line; within an added buffer the parents stay. What comes later changes none
of it. -/
theorem History.parents_fixed_at_insertion (h : History) (line : Int)
    (hline : 0 ≤ line ∧ line < h.buffer.size) :
    (∀ text file, ∃ b', h.buffer.replaceLine line text file = .ok b' ∧ ParentsKept h.buffer b' ∧
      b'.parentIndex h.buffer.segments.length = .ok (h.buffer.ownerIndex? line)) ∧
    (∀ nested : History, ∃ b', h.buffer.splice line nested.buffer = .ok b' ∧
      ParentsKept h.buffer b' ∧
      b'.parentIndex h.buffer.segments.length = .ok (h.buffer.ownerIndex? line) ∧
      ∀ j : Nat, 1 ≤ j → j < nested.buffer.segments.length →
        ∃ p, nested.buffer.parentIndex j = .ok (some p) ∧
          b'.parentIndex (h.buffer.segments.length + j : Nat) =
            .ok (some (h.buffer.segments.length + p))) ∧
    ∀ later, h.Extends later → ParentsKept h.buffer later.buffer := by
  refine ⟨?_, ?_, fun later he => he.parentsKept⟩
  · intro text file
    have hn := laminar_ofText text file
    refine ⟨h.buffer.grafted line (ofText text file), ?_, parentsKept_grafted _ _ line,
      parentIndex_grafted_root hn line⟩
    rw [replaceLine_eq_splice, splice_eq _ _ _ hline hn.size_pos]
  · intro nested
    have hn := nested.laminar_buffer
    exact ⟨h.buffer.grafted line nested.buffer, splice_eq _ _ _ hline hn.size_pos,
      parentsKept_grafted _ _ line, parentIndex_grafted_root hn line,
      fun j hj hlt => parentIndex_grafted_inner hn line hj hlt⟩

/-- A buffer with a block of its own, put in at the last line of a block that covers the whole root. -/
theorem History.parents_fixed_at_insertion_covering :
    let h : History := .replace (.load "a" "root") 0 "p\nq" "block"
    let nested : History := .replace (.load "x\ny" "inner") 1 "u" "other"
    ((0 : Int) ≤ 1 ∧ (1 : Int) < h.buffer.size) ∧
      ∃ b', h.buffer.splice 1 nested.buffer = .ok b' ∧ ParentsKept h.buffer b' ∧
        b'.parentIndex 2 = .ok (some 1) ∧ b'.parentIndex 3 = .ok (some 2) := by
  intro h nested
  have hline : (0 : Int) ≤ 1 ∧ (1 : Int) < h.buffer.size := by decide +kernel
  have hcount : h.buffer.segments.length = 2 := by decide +kernel
  have howner : h.buffer.ownerIndex? 1 = some 1 := by decide +kernel
  have hparent : nested.buffer.parentIndex 1 = .ok (some 0) := by decide +kernel
  obtain ⟨-, hsplice, -⟩ := h.parents_fixed_at_insertion 1 hline
  obtain ⟨b', hb', hkept, hroot, hinner⟩ := hsplice nested
  obtain ⟨p, hp, hp'⟩ := hinner 1 (Nat.le_refl 1) (by decide +kernel)
  rw [hcount, howner] at hroot
  obtain rfl : (0 : Nat) = p := by simpa using hparent.symm.trans hp
  rw [hcount] at hp'
  exact ⟨hline, b', hb', hkept, hroot, hp'⟩

end Buffer
end ShaderInclude
