import Mathlib.Data.List.Basic
import Mathlib.Tactic.SplitIfs
import ShaderInclude.Proofs.Parenthood

/-!
# ShaderInclude.Proofs.Provenance

Where a line comes from, told by an oracle and found by the buffer. An `Origin` is a file and a line
of it. Written beside the lines and edited along with them, origins say where each line was first
put; a buffer stores none of them and works them out from its segments.

* `Tracks b origins`: the segments of `b` are nested, and `b.locate?` answers every question as
  `origins` does.
* `tracks_ofText`, `Tracks.grafted`, `Tracks.blanked`: what one edit preserves.
* `locate?_build`: the same for whole histories of edits, with histories for the spliced buffers.

The heart is `locate?_grafted_after`. When a block takes the place of a line, the lines below it
move down, and each owner that encloses the block must account for the move: through the one child
that contains the line (`countP_childSegments`), or through the block itself.
-/

namespace ShaderInclude

/-- A file and the number of a line in it. -/
abbrev Origin := String × Int

namespace Buffer

open Segment

/-! ## Children as segments -/

/-- The segments of the direct children of the segment at an index. -/
def childSegments (b : Buffer) (p : Nat) : List Segment :=
  (b.children p).filterMap (b.segments[·]?)

theorem locate?_eq (b : Buffer) (i : Int) (p : Nat) (s : Segment) (ho : b.ownerIndex? i = some p)
    (hs : b.segments[p]? = some s) :
    b.locate? i = some (s.file, i - s.start - totalSurplus i (b.childSegments p)) := by
  simp [locate?, ho, hs, childSegments]

theorem owner_contains {b : Buffer} {i : Int} {p : Nat} (ho : b.ownerIndex? i = some p) :
    ∃ s, b.segments[p]? = some s ∧ s.contains i = true :=
  (lastIndex?_spec ho).1

/-- Nothing after the owner of a line contains it. -/
theorem not_contains_of_owner_lt {b : Buffer} {i : Int} {p q : Nat} {t : Segment}
    (ho : b.ownerIndex? i = some p) (hpq : p < q) (ht : b.segments[q]? = some t) :
    t.contains i = false :=
  (lastIndex?_spec ho).2 q t hpq ht

/-- The segments that contain a line end with its owner. -/
theorem segmentsAt_of_owner {b : Buffer} {i : Int} {j : Nat} (ho : b.ownerIndex? i = some j) :
    b.segmentsAt i = (b.segments.take (j + 1)).filter (·.contains i) := by
  have hrest : (b.segments.drop (j + 1)).filter (·.contains i) = [] := by
    rw [List.filter_eq_nil_iff]
    intro t ht
    obtain ⟨m, hm⟩ := List.mem_iff_getElem?.1 ht
    rw [List.getElem?_drop] at hm
    rw [not_contains_of_owner_lt ho (by omega) hm]
    exact Bool.false_ne_true
  conv_lhs => rw [segmentsAt, ← List.take_append_drop (j + 1) b.segments, List.filter_append, hrest,
    List.append_nil]

theorem mem_childSegments (b : Buffer) (p : Nat) (t : Segment) :
    t ∈ b.childSegments p ↔ ∃ c, c ∈ b.children p ∧ b.segments[c]? = some t := by
  simp [childSegments]

theorem childSegments_grafted_old {b nested : Buffer} {line : Int} (hn : nested.Laminar) {p : Nat}
    (hp : p < b.segments.length) (root : Segment) (hroot : nested.segments[0]? = some root) :
    (b.grafted line nested).childSegments p =
      (b.childSegments p).map (·.grown line (nested.size - 1)) ++
        if b.ownerIndex? line = some p then [root.shifted line] else [] := by
  rw [childSegments, children_grafted_old hn hp, List.filterMap_append, childSegments,
    List.map_filterMap]
  congr 1
  · apply List.filterMap_congr
    intro c hc
    exact segments_grafted_old b nested line ((mem_children b p c).1 hc).1
  · have hs := segments_grafted_new b nested line 0
    rw [hroot, Nat.add_zero] at hs
    split <;> simp [hs]

theorem childSegments_grafted_new {b nested : Buffer} {line : Int} (hn : nested.Laminar) (k : Nat) :
    (b.grafted line nested).childSegments (b.segments.length + k) =
      (nested.childSegments k).map (·.shifted line) := by
  rw [childSegments, children_grafted_new hn, List.filterMap_map, childSegments, List.map_filterMap]
  apply List.filterMap_congr
  intro c _
  exact segments_grafted_new b nested line c

/-- A segment contains the lines of its children. -/
theorem contains_of_mem_childSegments {b : Buffer} {p : Nat} {s t : Segment} {line : Int}
    (hs : b.segments[p]? = some s) (ht : t ∈ b.childSegments p) (htl : t.contains line = true) :
    s.contains line = true := by
  obtain ⟨c, hc, hct⟩ := (mem_childSegments b p t).1 ht
  obtain ⟨t', s', ht', hs', hin⟩ := parent?_encloses ((mem_children b p c).1 hc).2
  rw [hct] at ht'
  rw [hs] at hs'
  cases ht'
  cases hs'
  exact contains_of_isInside hin htl

theorem not_contains_of_mem_childSegments {b : Buffer} {p : Nat} {t : Segment} {line : Int}
    (ho : b.ownerIndex? line = some p) (ht : t ∈ b.childSegments p) : t.contains line = false := by
  obtain ⟨c, hc, hct⟩ := (mem_childSegments b p t).1 ht
  exact not_contains_of_owner_lt ho (parent?_lt ((mem_children b p c).1 hc).2) hct

theorem countP_childSegments_eq_one {b : Buffer} (h : b.Laminar) {p c : Nat} {u : Segment}
    {line : Int} (hc : c ∈ b.children p) (hu : b.segments[c]? = some u)
    (hul : u.contains line = true) : (b.childSegments p).countP (·.contains line) = 1 := by
  rw [childSegments, List.countP_filterMap, List.countP_eq_length_filter]
  have hperm : ((b.children p).filter fun d =>
      ((b.segments[d]?).map (·.contains line)).getD false).Perm [c] := by
    have hnodup : (b.children p).Nodup := List.nodup_range.filter _
    rw [List.perm_ext_iff_of_nodup (hnodup.filter _) (by simp)]
    intro d
    rw [List.mem_filter, List.mem_singleton]
    constructor
    · rintro ⟨hd, hdl⟩
      cases ht : b.segments[d]? with
      | none => simp [ht] at hdl
      | some v =>
        rw [ht] at hdl
        have h1 := children_unique h hc hd hu ht hul hdl
        have h2 := children_unique h hd hc ht hu hdl hul
        omega
    · rintro rfl
      exact ⟨hc, by simp [hu, hul]⟩
  exact hperm.length_eq

/-- Of a segment that contains a line, either it owns the line or exactly one child contains it; of
any other segment, neither. -/
theorem countP_childSegments {b : Buffer} (h : b.Laminar) {p : Nat} {s : Segment}
    (hs : b.segments[p]? = some s) (line : Int) :
    (b.childSegments p).countP (·.contains line) +
        (if b.ownerIndex? line = some p then 1 else 0) =
      if s.contains line = true then 1 else 0 := by
  by_cases hsl : s.contains line = true
  · obtain ⟨q, hq, hpq⟩ : ∃ q, b.ownerIndex? line = some q ∧ p ≤ q := le_lastIndex? hs hsl
    by_cases heq : p = q
    · subst heq
      rw [if_pos hq, if_pos hsl, List.countP_eq_zero.2]
      intro t ht
      rw [not_contains_of_mem_childSegments hq ht]
      exact Bool.false_ne_true
    · -- a child on the way to the owner contains the line
      have ho : b.ownerIndex? line ≠ some p := by
        rw [hq]
        rintro ⟨⟩
        exact heq rfl
      obtain ⟨t, ht, htl⟩ := owner_contains hq
      obtain ⟨c, u, hc, hu, hul⟩ := exists_child_containing h hs hsl q t (by omega) ht htl
      rw [if_neg ho, if_pos hsl, countP_childSegments_eq_one h hc hu hul]
  · have ho : b.ownerIndex? line ≠ some p := by
      intro ho
      obtain ⟨t, ht, htl⟩ := owner_contains ho
      rw [hs] at ht
      cases ht
      exact hsl htl
    rw [if_neg ho, if_neg hsl, List.countP_eq_zero.2]
    intro t ht htl
    exact hsl (contains_of_mem_childSegments hs ht htl)

/-! ## The surplus of the children -/

theorem surplusBefore_grown_before (c : Segment) (line : Int) (extra : Nat) {i : Int}
    (hi : i < line) : surplusBefore i (c.grown line extra) = surplusBefore i c := by
  have hle := c.start_le_stop
  simp only [surplusBefore, Segment.length, grown_start, grown_stop, moveBound]
  split_ifs <;> omega

/-- A child below which a line has moved down makes up for the move if it contains the block. -/
theorem surplusBefore_grown_after (c : Segment) (line : Int) (extra : Nat) {i : Int}
    (hi : line + extra < i) (hc : c.contains (i - extra) = false) :
    surplusBefore i (c.grown line extra) =
      surplusBefore (i - extra) c + if c.contains line = true then (extra : Int) else 0 := by
  have hle := c.start_le_stop
  rw [Bool.eq_false_iff, ne_eq, contains_iff] at hc
  simp only [surplusBefore, Segment.length, grown_start, grown_stop, moveBound, contains_iff]
  split_ifs <;> omega

theorem surplusBefore_shifted (c : Segment) (line i : Int) :
    surplusBefore i (c.shifted line) = surplusBefore (i - line) c := by
  simp only [surplusBefore, Segment.length, shifted_start, shifted_stop]
  split_ifs <;> omega

@[simp] theorem totalSurplus_nil (i : Int) : totalSurplus i [] = 0 := rfl

@[simp] theorem totalSurplus_cons (i : Int) (c : Segment) (cs : List Segment) :
    totalSurplus i (c :: cs) = surplusBefore i c + totalSurplus i cs := rfl

theorem totalSurplus_append (i : Int) (cs ds : List Segment) :
    totalSurplus i (cs ++ ds) = totalSurplus i cs + totalSurplus i ds := by
  induction cs with
  | nil => simp
  | cons c cs ih => rw [List.cons_append, totalSurplus_cons, ih, totalSurplus_cons, Int.add_assoc]

theorem totalSurplus_map {i j : Int} {f : Segment → Segment}
    (hf : ∀ c, surplusBefore i (f c) = surplusBefore j c) (cs : List Segment) :
    totalSurplus i (cs.map f) = totalSurplus j cs := by
  induction cs with
  | nil => rfl
  | cons c cs ih => rw [List.map_cons, totalSurplus_cons, hf, ih, totalSurplus_cons]

theorem totalSurplus_grown_after (cs : List Segment) (line : Int) (extra : Nat) {i : Int}
    (hi : line + extra < i) (hcs : ∀ c ∈ cs, c.contains (i - extra) = false) :
    totalSurplus i (cs.map (·.grown line extra)) =
      totalSurplus (i - extra) cs + extra * cs.countP (·.contains line) := by
  induction cs with
  | nil => simp
  | cons c cs ih =>
    have ih := ih fun d hd => hcs d (by simp [hd])
    have hc := surplusBefore_grown_after c line extra hi (hcs c (by simp))
    rw [List.map_cons, totalSurplus_cons, totalSurplus_cons, ih, hc, List.countP_cons,
      Int.natCast_add, Int.mul_add]
    split_ifs <;> simp <;> omega

/-! ## Locating lines of a graft -/

section Graft

variable {b nested : Buffer} {line : Int}

/-- No line is located outside the buffer. -/
theorem locate?_eq_none (h : b.Laminar) {i : Int} (hi : i < 0 ∨ b.size ≤ i) :
    b.locate? i = none := by
  rw [locate?, ownerIndex?_eq_none h hi]

theorem locate?_eq_none_of_owner {i : Int} (h : b.ownerIndex? i = none) : b.locate? i = none := by
  rw [locate?, h]

/-- A located line has an owner, of the file it is located in. -/
theorem owner_of_locate? {i : Int} {a : Origin} (h : b.locate? i = some a) :
    ∃ j s, b.ownerIndex? i = some j ∧ b.segments[j]? = some s ∧ s.file = a.1 := by
  cases ho : b.ownerIndex? i with
  | none =>
    rw [locate?_eq_none_of_owner ho] at h
    cases h
  | some j =>
    obtain ⟨s, hs, -⟩ := owner_contains ho
    rw [locate?_eq b i j s ho hs] at h
    cases h
    exact ⟨j, s, rfl, hs, rfl⟩

/-- A line that an old segment owns: the segment has grown, its children have, and the block is a new
child of it if it owned the line that the block replaces. -/
theorem locate?_grafted_old (hn : nested.Laminar) {root : Segment}
    (hroot : nested.segments[0]? = some root) {i : Int} {p : Nat} {s : Segment}
    (ho : (b.grafted line nested).ownerIndex? i = some p) (hs : b.segments[p]? = some s) :
    (b.grafted line nested).locate? i =
      some (s.file, i - moveBound line (nested.size - 1 : Nat) s.start -
        (totalSurplus i ((b.childSegments p).map (·.grown line (nested.size - 1))) +
          totalSurplus i (if b.ownerIndex? line = some p then [root.shifted line] else []))) := by
  obtain ⟨hp, -⟩ := List.getElem?_eq_some_iff.1 hs
  have hs' := segments_grafted_old b nested line hp
  rw [hs, Option.map_some] at hs'
  rw [locate?_eq _ _ _ _ ho hs', childSegments_grafted_old hn hp root hroot, totalSurplus_append,
    grown_start, grown_file]

theorem locate?_grafted_before (hn : nested.Laminar) {i : Int} (hi : i < line) :
    (b.grafted line nested).locate? i = b.locate? i := by
  have howner := ownerIndex?_grafted_before (b := b) hn hi
  cases ho : b.ownerIndex? i with
  | none =>
    rw [ho] at howner
    rw [locate?_eq_none_of_owner howner, locate?_eq_none_of_owner ho]
  | some p =>
    obtain ⟨s, hs, hsi⟩ := owner_contains ho
    obtain ⟨root, rest, hsegments, h0, h1⟩ := hn.first
    have hroot : nested.segments[0]? = some root := by rw [hsegments, List.getElem?_cons_zero]
    -- the block ends after the line, so as a child it takes nothing away
    have hblock : surplusBefore i (root.shifted line) = 0 := by
      have := hn.size_pos
      rw [surplusBefore, shifted_stop, if_neg (by omega)]
    have hstart : moveBound line (nested.size - 1 : Nat) s.start = s.start := by
      rw [contains_iff] at hsi
      rw [moveBound, if_neg (by omega)]
    rw [locate?_grafted_old hn hroot (howner.trans ho) hs, locate?_eq _ _ _ _ ho hs,
      totalSurplus_map (fun c => surplusBefore_grown_before c line _ hi), hstart]
    split_ifs <;> simp [hblock]

theorem locate?_grafted_inside (hn : nested.Laminar) {i : Int}
    (hi : line ≤ i ∧ i < line + nested.size) :
    (b.grafted line nested).locate? i = nested.locate? (i - line) := by
  obtain ⟨k, hk⟩ := ownerIndex?_isSome hn (i := i - line) (by omega)
  have howner := ownerIndex?_grafted_inside (b := b) hn hi
  rw [hk, Option.map_some] at howner
  obtain ⟨t, ht, -⟩ := owner_contains hk
  have ht' := segments_grafted_new b nested line k
  rw [ht, Option.map_some] at ht'
  rw [locate?_eq _ _ _ _ howner ht', locate?_eq _ _ _ _ hk ht, childSegments_grafted_new hn,
    totalSurplus_map (fun c => surplusBefore_shifted c line i)]
  simp only [shifted_start, shifted_file, Option.some.injEq, Prod.mk.injEq, true_and]
  omega

theorem locate?_grafted_after (h : b.Laminar) (hn : nested.Laminar) {i : Int}
    (hi : line + nested.size ≤ i) :
    (b.grafted line nested).locate? i = b.locate? (i - (nested.size - 1 : Nat)) := by
  have howner := ownerIndex?_grafted_after (b := b) hn hi
  have hpos := hn.size_pos
  generalize hextra : nested.size - 1 = extra at *
  cases ho : b.ownerIndex? (i - extra) with
  | none =>
    rw [ho] at howner
    rw [locate?_eq_none_of_owner howner, locate?_eq_none_of_owner ho]
  | some p =>
    obtain ⟨s, hs, hsi⟩ := owner_contains ho
    obtain ⟨root, rest, hsegments, h0, h1⟩ := hn.first
    have hroot : nested.segments[0]? = some root := by rw [hsegments, List.getElem?_cons_zero]
    have hchildren := totalSurplus_grown_after (b.childSegments p) line extra (by omega)
      fun c hc => not_contains_of_mem_childSegments ho hc
    -- the block lies above the line, and as a child it takes its surplus away
    have hblock :
        totalSurplus i (if b.ownerIndex? line = some p then [root.shifted line] else []) =
          extra * if b.ownerIndex? line = some p then 1 else 0 := by
      have hle : root.stop + line ≤ i := by omega
      split_ifs
      · simp only [totalSurplus_cons, totalSurplus_nil, surplusBefore, shifted_start, shifted_stop,
          Segment.length]
        omega
      · simp
    have hstart : i - moveBound line extra s.start =
        i - extra - s.start + extra * if s.contains line = true then 1 else 0 := by
      rw [contains_iff] at hsi
      simp only [moveBound, contains_iff]
      split_ifs <;> omega
    have hcount : (extra : Int) * (b.childSegments p).countP (·.contains line) +
        extra * (if b.ownerIndex? line = some p then 1 else 0) =
        extra * if s.contains line = true then 1 else 0 := by
      have := countP_childSegments h hs line
      rw [← Int.mul_add]
      congr 1
      split_ifs at this ⊢ <;> omega
    rw [locate?_grafted_old hn hroot (howner.trans ho) hs, locate?_eq _ _ _ _ ho hs,
      hextra, hchildren, hblock, hstart, ← hcount]
    congr 2
    omega

end Graft

/-! ## Origins beside the lines -/

/-- What a list of origins says of a line. -/
def originAt (origins : List Origin) (i : Int) : Option Origin :=
  if 0 ≤ i then origins[i.toNat]? else none

/-- The origins of `count` lines of a file from line `first` on. -/
def fileOrigins (file : String) (first count : Nat) : List Origin :=
  (List.range' first count).map fun (k : Nat) => (file, (k : Int))

/-- The origins with those of a block in place of one. -/
def graftOrigins (origins : List Origin) (line : Int) (block : List Origin) : List Origin :=
  origins.take line.toNat ++ block ++ origins.drop (line.toNat + 1)

/-- The buffer finds, for each line, what the origins say. -/
structure Tracks (b : Buffer) (origins : List Origin) : Prop where
  laminar : b.Laminar
  length : origins.length = b.size
  locate : ∀ i, b.locate? i = originAt origins i

theorem locate?_ofText (text file : String) (i : Int) :
    (ofText text file).locate? i =
      if 0 ≤ i ∧ i < (ofText text file).size then some (file, i) else none := by
  by_cases hi : 0 ≤ i ∧ i < (ofText text file).size
  · have ho : (ofText text file).ownerIndex? i = some 0 := by
      have : 0 ≤ i ∧ i < (Text.lines text).length := hi
      simp [ownerIndex?, ofText, lastIndex?, contains, this]
    rw [if_pos hi, locate?_eq _ i 0 _ ho rfl]
    simp [childSegments, children, parent?, ofText]
  · rw [if_neg hi]
    exact locate?_eq_none (laminar_ofText text file) (by omega)

theorem tracks_ofText (text file : String) :
    (ofText text file).Tracks (fileOrigins file 0 (ofText text file).size) := by
  refine ⟨laminar_ofText text file, by simp [fileOrigins], ?_⟩
  intro i
  rw [locate?_ofText, originAt]
  by_cases hi : 0 ≤ i
  · obtain ⟨k, rfl⟩ := Int.eq_ofNat_of_zero_le hi
    rw [if_pos hi, fileOrigins, List.getElem?_map, Int.toNat_natCast]
    by_cases hk : k < (ofText text file).size
    · rw [if_pos (by omega), List.getElem?_range' hk]
      simp
    · rw [if_neg (by omega), List.getElem?_eq_none (by simpa using hk)]
      rfl
  · rw [if_neg (by omega), if_neg hi]

theorem Tracks.blanked {b : Buffer} {origins : List Origin} (h : b.Tracks origins) (i : Nat) :
    (b.blanked i).Tracks origins := by
  refine ⟨h.laminar.blanked i, by rw [size_blanked, h.length], h.locate⟩

theorem Tracks.grafted {b nested : Buffer} {origins block : List Origin} {line : Int}
    (h : b.Tracks origins) (hn : nested.Tracks block) (hline : 0 ≤ line ∧ line < b.size) :
    (b.grafted line nested).Tracks (graftOrigins origins line block) := by
  obtain ⟨l, rfl⟩ := Int.eq_ofNat_of_zero_le hline.1
  have hlen := h.length
  have hblock := hn.length
  have hpos := hn.laminar.size_pos
  have hl : (origins.take l).length = l := by
    rw [List.length_take]
    omega
  refine ⟨h.laminar.grafted hn.laminar hline, ?_, ?_⟩
  · rw [size_grafted b _ nested hline]
    simp only [graftOrigins, Int.toNat_natCast, List.length_append, List.length_drop, hl]
    omega
  · -- the line stands before the block, inside it or after it, and so does its origin
    intro i
    rw [graftOrigins, Int.toNat_natCast]
    by_cases hneg : i < 0
    · rw [locate?_grafted_before hn.laminar (by omega), h.locate, originAt, originAt,
        if_neg (by omega), if_neg (by omega)]
    obtain ⟨k, rfl⟩ := Int.eq_ofNat_of_zero_le (Int.not_lt.1 hneg)
    by_cases hbefore : k < l
    · rw [locate?_grafted_before hn.laminar (by omega), h.locate]
      simp only [originAt, Int.natCast_nonneg, if_true, Int.toNat_natCast, List.append_assoc]
      rw [List.getElem?_append_left (by omega), List.getElem?_take_of_lt hbefore]
    by_cases hinside : k < l + nested.size
    · rw [locate?_grafted_inside hn.laminar (by omega), hn.locate]
      have hk : ((k : Int) - l).toNat = k - l := by omega
      simp only [originAt, Int.natCast_nonneg, if_true, Int.toNat_natCast, List.append_assoc]
      rw [if_pos (by omega), hk, List.getElem?_append_right (by omega), hl,
        List.getElem?_append_left (by omega)]
    · rw [locate?_grafted_after h.laminar hn.laminar (by omega), h.locate]
      have hk : ((k : Int) - (nested.size - 1 : Nat)).toNat = k - (nested.size - 1) := by omega
      simp only [originAt, Int.natCast_nonneg, if_true, Int.toNat_natCast, List.append_assoc]
      rw [if_pos (by omega), hk, List.getElem?_append_right (by omega), hl,
        List.getElem?_append_right (by omega), List.getElem?_drop]
      congr 1
      omega

/-! ## Histories of edits -/

/-- How a buffer came about: by loading a text, or by an edit of a buffer. A spliced buffer has a
history of its own. -/
inductive History where
  | load (text file : String)
  | replace (h : History) (line : Int) (text file : String)
  | splice (h : History) (line : Int) (nested : History)
  | blank (h : History) (line : Int)

namespace History

/-- The buffer that a history leaves, if none of its edits fails. -/
def build : History → Except BufferError Buffer
  | .load text file => .ok (ofText text file)
  | .replace h line text file => h.build.bind (·.replaceLine line text file)
  | .splice h line nested => h.build.bind fun b => nested.build.bind (b.splice line ·)
  | .blank h line => h.build.bind (·.blankLine line)

/-- The origins of the lines: each line has the origin it was put in with. -/
def origins : History → List Origin
  | .load text file => fileOrigins file 0 (Text.lines text).length
  | .replace h line text file =>
    graftOrigins h.origins line (fileOrigins file 0 (Text.lines text).length)
  | .splice h line nested => graftOrigins h.origins line nested.origins
  | .blank h _ => h.origins

/-- Every edit is at a line that is there. A line to be emptied may be counted from the end. -/
def InRange : History → Prop
  | .load _ _ => True
  | .replace h line _ _ => h.InRange ∧ 0 ≤ line ∧ line < h.origins.length
  | .splice h line nested => h.InRange ∧ nested.InRange ∧ 0 ≤ line ∧ line < h.origins.length
  | .blank h line => h.InRange ∧ -(h.origins.length : Int) ≤ line ∧ line < h.origins.length

/-- A history of edits at lines that are there leaves a buffer that knows the origins. -/
theorem build_tracks (h : History) (hr : h.InRange) :
    ∃ b, h.build = .ok b ∧ b.Tracks h.origins := by
  induction h with
  | load text file => exact ⟨_, rfl, tracks_ofText text file⟩
  | replace h line text file ih =>
    obtain ⟨hr, hline⟩ := hr
    obtain ⟨b, hb, ht⟩ := ih hr
    have hline : 0 ≤ line ∧ line < b.size := by rw [← ht.length]; exact hline
    have hn := tracks_ofText text file
    refine ⟨b.grafted line (ofText text file), ?_, ht.grafted hn hline⟩
    rw [build, hb]
    exact (replaceLine_eq_splice b line text file).trans
      (splice_eq b line _ hline hn.laminar.size_pos)
  | splice h line nested ih ihn =>
    obtain ⟨hr, hrn, hline⟩ := hr
    obtain ⟨b, hb, ht⟩ := ih hr
    obtain ⟨n, hn, htn⟩ := ihn hrn
    have hline : 0 ≤ line ∧ line < b.size := by rw [← ht.length]; exact hline
    refine ⟨b.grafted line n, ?_, ht.grafted htn hline⟩
    rw [build, hb, hn]
    exact splice_eq b line n hline htn.laminar.size_pos
  | blank h line ih =>
    obtain ⟨hr, hline⟩ := hr
    obtain ⟨b, hb, ht⟩ := ih hr
    rw [ht.length] at hline
    obtain ⟨i, -, hi⟩ := blankLine_eq b line hline
    refine ⟨b.blanked i, ?_, ht.blanked i⟩
    rw [build, hb]
    exact hi

end History

/-- After any history of edits a buffer locates every line by the origin the line was put in with,
and locates nothing outside its lines. -/
theorem locate?_build (h : History) (hr : h.InRange) :
    ∃ b, h.build = .ok b ∧ h.origins.length = b.size ∧
      ∀ i : Int, b.locate? i =
        if 0 ≤ i ∧ i < b.size then h.origins[i.toNat]? else none := by
  obtain ⟨b, hb, ht⟩ := h.build_tracks hr
  refine ⟨b, hb, ht.length, ?_⟩
  intro i
  by_cases hi : 0 ≤ i ∧ i < b.size
  · rw [if_pos hi, ht.locate, originAt, if_pos hi.1]
  · rw [if_neg hi]
    exact locate?_eq_none ht.laminar (by omega)

/-- A block that takes the place of the whole text, edited at its second line by a spliced buffer
which has an edit of its own, and emptied at the end. -/
theorem locate?_build_nested :
    let inner : History := .replace (.load "x\ny" "inner") 0 "u\nv" "other"
    let h : History := .blank (.splice (.replace (.load "a" "root") 0 "p\nq\nr" "block") 1 inner) (-1)
    let b : Buffer := ⟨["p", "u", "v", "y", ""],
      [⟨0, 5, "root", by decide⟩, ⟨0, 5, "block", by decide⟩, ⟨1, 4, "inner", by decide⟩,
        ⟨1, 3, "other", by decide⟩]⟩
    let origins : List Origin :=
      [("block", 0), ("other", 0), ("other", 1), ("inner", 1), ("block", 2)]
    h.InRange ∧ h.build = .ok b ∧ h.origins = origins ∧
      ∀ i : Int, b.locate? i = if 0 ≤ i ∧ i < 5 then origins[i.toNat]? else none := by
  intro inner h b origins
  have hr : h.InRange := by
    simp only [h, inner, History.InRange, History.origins]
    decide +kernel
  have hb : h.build = .ok b := by decide +kernel
  have horigins : h.origins = origins := by decide +kernel
  obtain ⟨b', hb', -, hlocate⟩ := locate?_build h hr
  cases hb.symm.trans hb'
  rw [horigins] at hlocate
  exact ⟨hr, hb, horigins, hlocate⟩

end Buffer
end ShaderInclude
