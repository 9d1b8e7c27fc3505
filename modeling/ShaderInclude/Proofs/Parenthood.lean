import ShaderInclude.Proofs.Laminar

/-!
# ShaderInclude.Proofs.Parenthood

Owners, parents and children after one buffer has been grafted into another at a line.

* `ownerIndex?_grafted_before`, `ownerIndex?_grafted_inside`, `ownerIndex?_grafted_after`: a line
  outside the block keeps its owner, and a line of the block has the owner it had in the block.
* `parent?_grafted_old`, `parent?_grafted_root`, `parent?_grafted_inner`: the parents of the old
  segments stay, the block as a whole becomes a child of the owner of the line it replaces, and
  within the block nothing changes.
* `children_grafted_old`, `children_grafted_new`: the same, read from the parents.
* `children_unique`, `exists_child_containing`: a line of a segment that the segment does not own
  lies in exactly one of its children.
-/

namespace ShaderInclude
namespace Buffer

open Segment

/-! ## The last index with a property -/

theorem lastIndex?_append {α : Type} (p : α → Bool) (xs ys : List α) :
    lastIndex? p (xs ++ ys) =
      match lastIndex? p ys with
      | some j => some (xs.length + j)
      | none => lastIndex? p xs := by
  induction xs with
  | nil => cases h : lastIndex? p ys <;> simp [h, lastIndex?]
  | cons x xs ih =>
    rw [List.cons_append, lastIndex?, ih]
    cases h : lastIndex? p ys with
    | none => simp [lastIndex?]
    | some j =>
      simp only [List.length_cons]
      congr 1
      omega

theorem lastIndex?_map {α β : Type} (f : α → β) (p : β → Bool) (xs : List α) :
    lastIndex? p (xs.map f) = lastIndex? (fun x => p (f x)) xs := by
  induction xs with
  | nil => rfl
  | cons x xs ih => simp [lastIndex?, ih]

theorem lastIndex?_congr {α : Type} {p q : α → Bool} {xs : List α} (h : ∀ x ∈ xs, p x = q x) :
    lastIndex? p xs = lastIndex? q xs := by
  induction xs with
  | nil => rfl
  | cons x xs ih => simp [lastIndex?, ih fun y hy => h y (by simp [hy]), h x (by simp)]

/-- What stands at the last index has the property, and nothing after it has. -/
theorem lastIndex?_spec {α : Type} {p : α → Bool} {xs : List α} {i : Nat}
    (h : lastIndex? p xs = some i) :
    (∃ x, xs[i]? = some x ∧ p x = true) ∧ ∀ j x, i < j → xs[j]? = some x → p x = false := by
  induction xs generalizing i with
  | nil => cases h
  | cons x xs ih =>
    rw [lastIndex?] at h
    cases hrest : lastIndex? p xs with
    | some k =>
      rw [hrest] at h
      cases h
      obtain ⟨hat, hlast⟩ := ih hrest
      refine ⟨hat, ?_⟩
      intro j z hj hz
      obtain ⟨j, rfl⟩ : ∃ m, j = m + 1 := ⟨j - 1, by omega⟩
      exact hlast j z (by omega) hz
    | none =>
      simp only [hrest] at h
      split at h
      · next hx =>
        cases h
        refine ⟨⟨x, rfl, hx⟩, ?_⟩
        intro j z hj hz
        obtain ⟨j, rfl⟩ : ∃ m, j = m + 1 := ⟨j - 1, by omega⟩
        exact (lastIndex?_eq_none_iff p xs).1 hrest z (List.mem_of_getElem? hz)
      · cases h

theorem le_lastIndex? {α : Type} {p : α → Bool} {xs : List α} {i : Nat} {x : α}
    (hx : xs[i]? = some x) (hp : p x = true) : ∃ k, lastIndex? p xs = some k ∧ i ≤ k := by
  cases h : lastIndex? p xs with
  | none =>
    have hno := (lastIndex?_eq_none_iff p xs).1 h x (List.mem_of_getElem? hx)
    rw [hp] at hno
    cases hno
  | some k =>
    refine ⟨k, rfl, ?_⟩
    by_cases hik : i ≤ k
    · exact hik
    · have hno := (lastIndex?_spec h).2 i x (by omega) hx
      rw [hp] at hno
      cases hno

theorem lastIndex?_eq_some {α : Type} {p : α → Bool} {xs : List α} {i : Nat} {x : α}
    (hx : xs[i]? = some x) (hp : p x = true)
    (hlast : ∀ j y, i < j → xs[j]? = some y → p y = false) : lastIndex? p xs = some i := by
  obtain ⟨k, hk, hik⟩ := le_lastIndex? hx hp
  by_cases heq : i = k
  · rw [hk, heq]
  · obtain ⟨y, hy, hpy⟩ := (lastIndex?_spec hk).1
    rw [hlast k y (by omega) hy] at hpy
    cases hpy

/-! ## Segments of a graft -/

section Graft

variable (b nested : Buffer) (line : Int)

theorem segments_grafted_old {j : Nat} (hj : j < b.segments.length) :
    (b.grafted line nested).segments[j]? =
      (b.segments[j]?).map (·.grown line (nested.size - 1)) := by
  rw [grafted, List.getElem?_append_left (by simpa using hj), List.getElem?_map]

theorem segments_grafted_new (k : Nat) :
    (b.grafted line nested).segments[b.segments.length + k]? =
      (nested.segments[k]?).map (·.shifted line) := by
  rw [grafted, List.getElem?_append_right (by simp), List.getElem?_map]
  simp

theorem length_segments_grafted :
    (b.grafted line nested).segments.length = b.segments.length + nested.segments.length := by
  simp [grafted]

/-! ## Owners -/

/-- The old segments that own a line before the block own it still. -/
theorem contains_grown_before (s : Segment) (extra : Nat) {i : Int} (hi : i < line) :
    (s.grown line extra).contains i = s.contains i := by
  rw [Bool.eq_iff_iff, contains_iff, contains_iff]
  simp only [grown_start, grown_stop, moveBound]
  split <;> split <;> omega

/-- The old segments that own a line after the block own it where it stood before. -/
theorem contains_grown_after (s : Segment) (extra : Nat) {i : Int} (hi : line + extra < i) :
    (s.grown line extra).contains i = s.contains (i - extra) := by
  rw [Bool.eq_iff_iff, contains_iff, contains_iff]
  simp only [grown_start, grown_stop, moveBound]
  split <;> split <;> omega

theorem contains_shifted (s : Segment) (i : Int) :
    (s.shifted line).contains i = s.contains (i - line) := by
  rw [Bool.eq_iff_iff, contains_iff, contains_iff]
  simp only [shifted_start, shifted_stop]
  omega

/-- A line outside the buffer belongs to no segment. -/
theorem ownerIndex?_eq_none {b : Buffer} (h : b.Laminar) {i : Int} (hi : i < 0 ∨ b.size ≤ i) :
    b.ownerIndex? i = none := by
  rw [ownerIndex?, lastIndex?_eq_none_iff]
  intro s hs
  have := h.within s hs
  rw [Bool.eq_false_iff, ne_eq, contains_iff]
  omega

theorem ownerIndex?_isSome {b : Buffer} (h : b.Laminar) {i : Int} (hi : 0 ≤ i ∧ i < b.size) :
    ∃ p, b.ownerIndex? i = some p := by
  obtain ⟨s, rest, hs, h0, h1⟩ := h.first
  have hroot : b.segments[0]? = some s := by simp [hs]
  have hsi : s.contains i = true := by
    rw [contains_iff]
    omega
  obtain ⟨p, hp, -⟩ := le_lastIndex? (p := (·.contains i)) hroot hsi
  exact ⟨p, hp⟩

theorem ownerIndex?_grafted (i : Int) :
    (b.grafted line nested).ownerIndex? i =
      match nested.ownerIndex? (i - line) with
      | some k => some (b.segments.length + k)
      | none => lastIndex? (fun s => (s.grown line (nested.size - 1)).contains i) b.segments := by
  simp only [ownerIndex?, grafted, lastIndex?_append, lastIndex?_map, contains_shifted,
    List.length_map]

variable {b nested line}

theorem ownerIndex?_grafted_before (hn : nested.Laminar) {i : Int} (hi : i < line) :
    (b.grafted line nested).ownerIndex? i = b.ownerIndex? i := by
  rw [ownerIndex?_grafted, ownerIndex?_eq_none hn (by omega)]
  exact lastIndex?_congr fun s _ => contains_grown_before line s _ hi

theorem ownerIndex?_grafted_inside (hn : nested.Laminar) {i : Int}
    (hi : line ≤ i ∧ i < line + nested.size) :
    (b.grafted line nested).ownerIndex? i =
      (nested.ownerIndex? (i - line)).map (b.segments.length + ·) := by
  obtain ⟨k, hk⟩ := ownerIndex?_isSome hn (i := i - line) (by omega)
  rw [ownerIndex?_grafted, hk]
  rfl

theorem ownerIndex?_grafted_after (hn : nested.Laminar) {i : Int} (hi : line + nested.size ≤ i) :
    (b.grafted line nested).ownerIndex? i = b.ownerIndex? (i - (nested.size - 1 : Nat)) := by
  have hpos := hn.size_pos
  rw [ownerIndex?_grafted, ownerIndex?_eq_none hn (by omega)]
  exact lastIndex?_congr fun s _ => contains_grown_after line s _ (by omega)

/-! ## Parents -/

/-- Segments that enclose the whole block are those that contained the replaced line. -/
theorem block_isInside_grown (s root : Segment) {extra : Nat} (h0 : root.start = 0)
    (h1 : root.stop = extra + 1) :
    (root.shifted line).isInside (s.grown line extra) = s.contains line := by
  rw [Bool.eq_iff_iff, isInside_iff, contains_iff]
  simp only [shifted_start, shifted_stop, grown_start, grown_stop, moveBound, h0, h1]
  split <;> split <;> omega

theorem parent?_lt {b : Buffer} {j p : Nat} (h : b.parent? j = some p) : p < j := by
  unfold parent? at h
  split at h
  · cases h
  · have := lastIndex?_lt _ _ _ h
    simp only [List.length_take] at this
    omega

theorem parent?_zero (b : Buffer) : b.parent? 0 = none := by
  cases h : b.parent? 0 with
  | none => rfl
  | some p => exact absurd (parent?_lt h) (Nat.not_lt_zero p)

theorem parentIndex_of_lt {b : Buffer} {j : Nat} (hj : j < b.segments.length) :
    b.parentIndex j = .ok (b.parent? j) := by
  have hpos : position? b.segments.length (j : Int) = some j := by
    simp [position?, hj]
  simp [parentIndex, hpos]

theorem parent?_grafted_old {j : Nat} (hj : j < b.segments.length) :
    (b.grafted line nested).parent? j = b.parent? j := by
  obtain ⟨s, hs⟩ : ∃ s, b.segments[j]? = some s := ⟨_, List.getElem?_eq_getElem hj⟩
  have htake : (b.grafted line nested).segments.take j =
      (b.segments.take j).map (·.grown line (nested.size - 1)) := by
    rw [grafted, List.take_append_of_le_length (by simpa using Nat.le_of_lt hj), List.map_take]
  rw [parent?, parent?, segments_grafted_old b nested line hj, hs, htake]
  simp only [Option.map_some, lastIndex?_map, isInside_grown]

theorem parent?_grafted_root (hn : nested.Laminar) :
    (b.grafted line nested).parent? b.segments.length = b.ownerIndex? line := by
  obtain ⟨root, rest, hroot, h0, h1⟩ := hn.first
  have hpos := hn.size_pos
  have hs : (b.grafted line nested).segments[b.segments.length]? = some (root.shifted line) := by
    have := segments_grafted_new b nested line 0
    simpa [hroot] using this
  have htake : (b.grafted line nested).segments.take b.segments.length =
      b.segments.map (·.grown line (nested.size - 1)) := by
    rw [grafted, List.take_append_of_le_length (by simp), List.take_of_length_le (by simp)]
  rw [parent?, hs, htake]
  simp only [lastIndex?_map]
  exact lastIndex?_congr fun s _ => block_isInside_grown s root h0 (by omega)

theorem parent?_grafted_inner (hn : nested.Laminar) {k : Nat} (hk : 0 < k)
    (hlt : k < nested.segments.length) :
    (b.grafted line nested).parent? (b.segments.length + k) =
      (nested.parent? k).map (b.segments.length + ·) := by
  obtain ⟨t, ht⟩ : ∃ t, nested.segments[k]? = some t := ⟨_, List.getElem?_eq_getElem hlt⟩
  have htake : (b.grafted line nested).segments.take (b.segments.length + k) =
      b.segments.map (·.grown line (nested.size - 1)) ++
        (nested.segments.take k).map (·.shifted line) := by
    rw [grafted, List.take_append, List.take_of_length_le (by simp)]
    simp [List.map_take]
  -- the root of the block encloses the segment, so the search ends within the block
  obtain ⟨root, rest, hroot, h0, h1⟩ := hn.first
  have hfirst : (nested.segments.take k)[0]? = some root := by
    rw [List.getElem?_take_of_lt hk, hroot]
    rfl
  have hin : t.isInside root = true := by
    have hw := hn.within t (List.mem_of_getElem? ht)
    rw [isInside_iff]
    omega
  obtain ⟨p, hp, -⟩ := le_lastIndex? (p := (t.isInside ·)) hfirst hin
  rw [parent?, parent?, segments_grafted_new, ht, htake]
  simp only [Option.map_some, lastIndex?_append, lastIndex?_map, isInside_shifted, hp,
    List.length_map]

/-! ## Children -/

theorem mem_children (b : Buffer) (p c : Nat) :
    c ∈ b.children p ↔ c < b.segments.length ∧ b.parent? c = some p := by
  simp only [children, List.mem_filter, List.mem_range, Bool.and_eq_true, decide_eq_true_eq,
    beq_iff_eq]
  constructor
  · rintro ⟨hlt, -, hp⟩
    exact ⟨hlt, hp⟩
  · rintro ⟨hlt, hp⟩
    exact ⟨hlt, parent?_lt hp, hp⟩

theorem children_eq_filter (b : Buffer) (p : Nat) :
    b.children p = (List.range b.segments.length).filter fun c => b.parent? c == some p := by
  apply List.filter_congr
  intro c _
  cases h : b.parent? c == some p with
  | false => simp
  | true =>
    have := parent?_lt (beq_iff_eq.1 h)
    simp [this]

theorem children_grafted (p : Nat) :
    (b.grafted line nested).children p =
      (List.range b.segments.length).filter
          (fun c => (b.grafted line nested).parent? c == some p) ++
        ((List.range nested.segments.length).filter fun k =>
          (b.grafted line nested).parent? (b.segments.length + k) == some p).map
            (b.segments.length + ·) := by
  rw [children_eq_filter, length_segments_grafted, List.range_add, List.filter_append,
    List.filter_map]
  rfl

/-- The range of the segments of a block, its root apart. -/
theorem range_segments (hn : nested.Laminar) :
    List.range nested.segments.length =
      0 :: (List.range (nested.segments.length - 1)).map Nat.succ := by
  obtain ⟨root, rest, hroot, -, -⟩ := hn.first
  rw [hroot, List.length_cons, Nat.add_sub_cancel, List.range_succ_eq_map]

theorem children_grafted_old (hn : nested.Laminar) {p : Nat} (hp : p < b.segments.length) :
    (b.grafted line nested).children p =
      b.children p ++ if b.ownerIndex? line = some p then [b.segments.length] else [] := by
  rw [children_grafted, children_eq_filter b]
  congr 1
  · apply List.filter_congr
    intro c hc
    rw [parent?_grafted_old (List.mem_range.1 hc)]
  · have hinner : ((List.range (nested.segments.length - 1)).map Nat.succ).filter (fun k =>
        (b.grafted line nested).parent? (b.segments.length + k) == some p) = [] := by
      rw [List.filter_eq_nil_iff]
      intro k hk
      obtain ⟨m, hm, rfl⟩ := List.mem_map.1 hk
      have hm := List.mem_range.1 hm
      rw [parent?_grafted_inner hn (by omega) (by omega), beq_iff_eq]
      intro h
      obtain ⟨q, -, hq⟩ := Option.map_eq_some_iff.1 h
      omega
    rw [range_segments hn, List.filter_cons, hinner, Nat.add_zero, parent?_grafted_root hn]
    by_cases h : b.ownerIndex? line = some p <;> simp [h]

theorem children_grafted_new (hn : nested.Laminar) (k : Nat) :
    (b.grafted line nested).children (b.segments.length + k) =
      (nested.children k).map (b.segments.length + ·) := by
  have hold : (List.range b.segments.length).filter (fun c =>
      (b.grafted line nested).parent? c == some (b.segments.length + k)) = [] := by
    rw [List.filter_eq_nil_iff]
    intro c hc h
    have := parent?_lt (beq_iff_eq.1 h)
    have := List.mem_range.1 hc
    omega
  rw [children_grafted, hold, List.nil_append, children_eq_filter nested]
  congr 1
  apply List.filter_congr
  intro c hc
  have hc := List.mem_range.1 hc
  rw [Bool.eq_iff_iff, beq_iff_eq, beq_iff_eq]
  cases c with
  | zero =>
    -- the root of a block is a child outside it, and of nothing inside it
    rw [Nat.add_zero, parent?_grafted_root hn]
    constructor
    · intro h
      have := lastIndex?_lt _ _ _ h
      omega
    · intro h
      have := parent?_lt h
      omega
  | succ c =>
    rw [parent?_grafted_inner hn (by omega) hc, Option.map_eq_some_iff]
    constructor
    · rintro ⟨q, hq, hqk⟩
      rw [hq, Nat.add_left_cancel hqk]
    · intro h
      exact ⟨k, h, rfl⟩

end Graft

/-! ## The child that contains a line -/

theorem parent?_encloses {b : Buffer} {q r : Nat} (h : b.parent? q = some r) :
    ∃ t u, b.segments[q]? = some t ∧ b.segments[r]? = some u ∧ t.isInside u = true := by
  unfold parent? at h
  split at h
  · cases h
  · next t ht =>
    obtain ⟨⟨u, hu, htu⟩, -⟩ := lastIndex?_spec h
    rw [List.getElem?_take] at hu
    split at hu
    · exact ⟨t, u, ht, hu, htu⟩
    · cases hu

/-- A segment that lies within an earlier one has a parent, and not before that one. -/
theorem le_parent?_of_isInside {b : Buffer} {p q : Nat} {s t : Segment} (hpq : p < q)
    (hs : b.segments[p]? = some s) (ht : b.segments[q]? = some t) (hin : t.isInside s = true) :
    ∃ r, b.parent? q = some r ∧ p ≤ r := by
  have hs' : (b.segments.take q)[p]? = some s := by rw [List.getElem?_take_of_lt hpq, hs]
  rw [parent?, ht]
  exact le_lastIndex? (p := (t.isInside ·)) hs' hin

theorem contains_of_isInside {s t : Segment} {line : Int} (hin : t.isInside s = true)
    (ht : t.contains line = true) : s.contains line = true := by
  rw [isInside_iff] at hin
  rw [contains_iff] at ht ⊢
  omega

/-- No line lies in two children of one segment. -/
theorem children_unique {b : Buffer} (h : b.Laminar) {p c d : Nat} {s t : Segment} {line : Int}
    (hc : c ∈ b.children p) (hd : d ∈ b.children p) (hs : b.segments[c]? = some s)
    (ht : b.segments[d]? = some t) (hsl : s.contains line = true) (htl : t.contains line = true) :
    ¬ c < d := by
  intro hcd
  have hin := h.isInside_of_common hcd hs ht hsl htl
  obtain ⟨r, hr, hcr⟩ := le_parent?_of_isInside hcd hs ht hin
  have hp := ((mem_children b p d).1 hd).2
  have hpc := parent?_lt ((mem_children b p c).1 hc).2
  rw [hp] at hr
  cases hr
  omega

/-- Below a segment that contains a line but does not own it, a child contains the line. The walk
from the owner up the parents ends at that child. -/
theorem exists_child_containing {b : Buffer} (h : b.Laminar) {p : Nat} {s : Segment} {line : Int}
    (hs : b.segments[p]? = some s) (hsl : s.contains line = true) :
    ∀ (q : Nat) (t : Segment), p < q → b.segments[q]? = some t → t.contains line = true →
      ∃ c u, c ∈ b.children p ∧ b.segments[c]? = some u ∧ u.contains line = true := by
  -- every step of the walk goes to an earlier segment, so the induction is on the index
  intro q
  induction q using Nat.strongRecOn with
  | ind q ih =>
    intro t hpq ht htl
    have hin := h.isInside_of_common hpq hs ht hsl htl
    obtain ⟨r, hr, hpr⟩ := le_parent?_of_isInside hpq hs ht hin
    by_cases heq : p = r
    · subst heq
      obtain ⟨hq, -⟩ := List.getElem?_eq_some_iff.1 ht
      exact ⟨q, t, (mem_children b p q).2 ⟨hq, hr⟩, ht, htl⟩
    · obtain ⟨t', u, ht', hu, htu⟩ := parent?_encloses hr
      rw [ht] at ht'
      cases ht'
      exact ih r (parent?_lt hr) u (by omega) hu (contains_of_isInside htu htl)

end Buffer
end ShaderInclude
