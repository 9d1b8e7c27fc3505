import ShaderInclude.Proofs.IncludeTree

/-!
# ShaderInclude.Proofs.Elision

A directive that names a file used before leaves an empty line. The used files are only names; that
their contents stand above the empty line follows from the order of the expansion. `Begun` is what that
order keeps true: every used file has a segment that begins at or before the current line.

* `Unfolds.target_begun`: wherever an expansion leaves an empty line, the named file has begun.
* `resolve_elided_target`: the same for a resolved buffer, where the named file has either ended by
  then, or is one of the files that are just being included.
-/

namespace ShaderInclude

open Expansion

namespace Expansion

open Segment

/-- Each of the files has a segment that begins at or before a line. -/
def Begun (files : Finset String) (segments : List Segment) (line : Nat) : Prop :=
  ∀ f ∈ files, ∃ s ∈ segments, s.file = f ∧ s.start ≤ line

namespace Begun

variable {files : Finset String} {segments : List Segment} {line : Nat}

theorem skip (h : Begun files segments line) : Begun files segments (line + 1) := by
  intro f hf
  obtain ⟨s, hs, hsf, hstart⟩ := h f hf
  exact ⟨s, hs, hsf, by omega⟩

theorem enter (h : Begun files segments line) (file : String) (count : Nat) :
    Begun (insert file files) (segments ++ [ofBlock file line count]) line := by
  intro f hf
  rcases Finset.mem_insert.1 hf with rfl | hf
  · exact ⟨ofBlock f line count, by simp, rfl, by simp⟩
  · obtain ⟨s, hs, hsf, hstart⟩ := h f hf
    exact ⟨s, by simp [hs], hsf, hstart⟩

/-- After the lines of an expansion its files have begun too. -/
theorem leave (h : Begun files segments line) (o : Outline) :
    Begun (files ∪ o.files.toFinset) (segments ++ o.segments line) (line + o.lines.length) := by
  intro f hf
  rcases Finset.mem_union.1 hf with hf | hf
  · obtain ⟨s, hs, hsf, hstart⟩ := h f hf
    exact ⟨s, by simp [hs], hsf, by omega⟩
  · rw [List.mem_toFinset, ← o.files_segments line] at hf
    obtain ⟨s, hs, rfl⟩ := List.mem_map.1 hf
    have hwithin := o.segments_within line s hs
    have hle := s.start_le_stop
    exact ⟨s, by simp [hs], rfl, by omega⟩

end Begun

/-- Where a merged line comes from a directive, the file that it names has begun. -/
theorem Unfolds.target_begun {load : String → Except Raised String} {file : String}
    {ls : List String} {used used' : Finset String} {o : Outline}
    (h : Unfolds load file ls used o used') {segments : List Segment} {k start : Nat}
    (hr : Reads load file k ls) (hbegun : Begun used segments start) {i : Nat} {a : Origin}
    {source target : String} (ha : (o.origins file k)[i]? = some a)
    (hsource : sourceLine? load a = some source)
    (htarget : Directive.target? source = some target) :
    ∃ s ∈ segments ++ o.segments start, s.file = targetOf a.1 target ∧ s.start ≤ start + i := by
  induction h generalizing segments k start i with
  | done => simp [Outline.origins] at ha
  | @keep file line rest used used' o hline _ ih =>
    cases i with
    | zero =>
      obtain rfl : (file, (k : Int)) = a := by simpa [Outline.origins] using ha
      rw [hr.head] at hsource
      cases hsource
      rw [hline] at htarget
      cases htarget
    | succ i =>
      obtain ⟨s, hs, hsf, hstart⟩ := ih hr.tail hbegun.skip ha
      exact ⟨s, hs, hsf, by omega⟩
  | @elide file line named rest used used' o hline hused _ ih =>
    cases i with
    | zero =>
      -- the line itself: the file is used, so it has begun
      obtain rfl : (file, (k : Int)) = a := by simpa [Outline.origins] using ha
      rw [hr.head] at hsource
      cases hsource
      rw [hline] at htarget
      cases htarget
      obtain ⟨s, hs, hsf, hstart⟩ := hbegun _ hused
      exact ⟨s, by simp [hs], hsf, by omega⟩
    | succ i =>
      obtain ⟨s, hs, hsf, hstart⟩ := ih hr.tail hbegun.skip ha
      exact ⟨s, hs, hsf, by omega⟩
  | @nest file line named text rest used used₁ used' inner o _ _ hload hinner _ ihi ihr =>
    have hlen := inner.length_origins (targetOf file named) 0
    have hentered := hbegun.enter (targetOf file named) inner.lines.length
    rw [Outline.origins] at ha
    by_cases hin : i < inner.lines.length
    · rw [List.getElem?_append_left (by omega)] at ha
      obtain ⟨s, hs, hsf, hstart⟩ := ihi (reads_lines hload) hentered ha
      refine ⟨s, ?_, hsf, hstart⟩
      simp only [Outline.segments, List.mem_append, List.mem_cons, List.not_mem_nil,
        or_false] at hs ⊢
      tauto
    · -- below the inner file: it has left its own files begun, and they are used now
      rw [List.getElem?_append_right (by omega), hlen] at ha
      have hleft := hentered.leave inner
      rw [← hinner.used_eq] at hleft
      obtain ⟨s, hs, hsf, hstart⟩ := ihr hr.tail hleft ha
      refine ⟨s, ?_, hsf, by omega⟩
      simpa [Outline.segments] using hs

end Expansion

namespace Resolver

/-- A merged line that comes from a directive is empty, and the file that the directive names begins
at or before it. Either that file has ended by then, or it is on the chain of the file with the
directive. -/
theorem resolve_elided_target (r : Resolver) (w : World) (path : String) (b : Buffer)
    (h : (r.resolve w path).1 = .ok b) (i : Int) (f : String) (k : Int) (source target : String)
    (hi : b.locate? i = some (f, k)) (hsource : sourceLine? (r.load w) (f, k) = some source)
    (htarget : Directive.target? source = some target) :
    b.lines[i.toNat]? = some "" ∧
      ∃ t, targetPath f target = .ok t ∧ t ∈ b.files ∧
        ∀ s ∈ b.segments, s.file = t → s.start ≤ i ∧
          (s.stop ≤ i ∨ ∃ chain, ⟨chain, f⟩ ∈ r.calls w path ∧ t ∈ chain) := by
  obtain ⟨sites, hancestry, -⟩ := resolve_ancestry h
  obtain ⟨-, hfiles⟩ := resolve_files h
  obtain ⟨o, text, hload, hunfolds, hlines, htracks, -, hsegments, -⟩ := resolve_layout h
  generalize r.rootPath w path = root at *
  obtain ⟨hrange, horigin⟩ := (htracks.locate_iff i (f, k)).1 hi
  have hbegun : Begun {root} [Segment.ofBlock root 0 b.size] 0 := by simp [Begun]
  obtain ⟨s₀, hs₀, hfile, hstart⟩ :=
    hunfolds.target_begun (reads_lines hload) hbegun horigin hsource htarget
  have hs₀ : s₀ ∈ b.segments := by simpa [hsegments] using hs₀
  refine ⟨?_, targetOf f target, targetPath_eq f target, ?_, ?_⟩
  · obtain ⟨line, hline, source', hsource', rfl⟩ :=
      hunfolds.shows_at (reads_lines hload) horigin
    rw [hsource] at hsource'
    cases hsource'
    simpa [hlines, htarget] using hline
  · rw [Buffer.files, List.mem_eraseDups, ← hfile]
    exact List.mem_map_of_mem hs₀
  · intro s hs hsf
    obtain rfl : s = s₀ := List.inj_on_of_nodup_map hfiles hs hs₀ (hsf.trans hfile.symm)
    have hstart : s.start ≤ i := by omega
    refine ⟨hstart, ?_⟩
    by_cases hended : s.stop ≤ i
    · exact .inl hended
    · -- a file that has begun and not ended has a segment around the line
      obtain ⟨j, owner, ho, hj, rfl⟩ := Buffer.owner_of_locate? hi
      have hchain := (hancestry.chain_iff htracks.laminar hfiles ho hj _).2 rfl
      refine .inr ⟨_, hchain, List.mem_map.2 ⟨s, ?_, hsf⟩⟩
      rw [Buffer.segmentsAt, List.mem_filter, Segment.contains_iff]
      exact ⟨hs, by omega⟩

/-- The third of the files includes the first, which is around it. -/
theorem resolve_elided_target_cyclic :
    (cyclicResolver.resolve {} "a").1 = .ok cyclicMerged ∧
      cyclicMerged.locate? 1 = some ("c", 0) ∧
      sourceLine? (cyclicResolver.load {}) ("c", 0) = some "#include_once \"a\"" ∧
      Directive.target? "#include_once \"a\"" = some "a" ∧
      cyclicMerged.lines[(1 : Int).toNat]? = some "" ∧
      ∃ t, targetPath "c" "a" = .ok t ∧ t ∈ cyclicMerged.files ∧
        ∀ s ∈ cyclicMerged.segments, s.file = t → s.start ≤ 1 ∧
          (s.stop ≤ 1 ∨ ∃ chain, ⟨chain, "c"⟩ ∈ cyclicResolver.calls {} "a" ∧ t ∈ chain) := by
  have hi : cyclicMerged.locate? 1 = some ("c", 0) := by decide +kernel
  have hsource : sourceLine? (cyclicResolver.load {}) ("c", 0) = some "#include_once \"a\"" := by
    decide +kernel
  have htarget : Directive.target? "#include_once \"a\"" = some "a" := by decide +kernel
  exact ⟨resolve_cyclic, hi, hsource, htarget,
    resolve_elided_target cyclicResolver {} "a" cyclicMerged resolve_cyclic 1 "c" 0 _ "a" hi hsource
      htarget⟩

end Resolver
end ShaderInclude
