import ShaderInclude.Proofs.Nesting

/-!
# ShaderInclude.Proofs.SpliceLaws

Splices compose like the files they stand for. Buffers nested in one another may be put together from
the inside or from the outside, and the result is the same down to the order of the segments
(`History.splice_assoc`). Buffers at two lines may be spliced in either order, if the lower line is
counted anew when the upper splice comes first (`History.splice_comm`).

Lines, origins and segments obey the two laws one by one:
* `putAt_putAt_within`, `putAt_comm`: lists with a block in place of an item, for lines and origins.
* `grown_grown_within`, `grown_shifted`, `shifted_shifted` and `grown_comm`, `grown_shifted_below`: the
  segments of the buffer and of the blocks.

After splices at two lines the segments of the two blocks stand in either order. The segments around a
line come out the same, because no line lies in both blocks (`segmentsAt_comm`). So does the place that a
line is from, because its origin settles it and not the order of the segments (`Tracks.locate?_comm`).
-/

namespace ShaderInclude

/-! ## A block in place of an item -/

section PutAt

variable {α : Type}

def putAt (xs : List α) (i : Nat) (block : List α) : List α :=
  xs.take i ++ block ++ xs.drop (i + 1)

theorem putAt_append_cons (left : List α) (x : α) (right block : List α) :
    putAt (left ++ x :: right) left.length block = left ++ block ++ right := by
  simp [putAt, List.drop_append]

theorem exists_split {xs : List α} {i : Nat} (h : i < xs.length) :
    ∃ left x right, xs = left ++ x :: right ∧ left.length = i :=
  ⟨xs.take i, xs[i], xs.drop (i + 1), by simp, by simp; omega⟩

theorem putAt_putAt_within {xs ys : List α} {i j : Nat} (hi : i < xs.length) (hj : j < ys.length)
    (zs : List α) : putAt xs i (putAt ys j zs) = putAt (putAt xs i ys) (i + j) zs := by
  obtain ⟨l, x, r, rfl, rfl⟩ := exists_split hi
  obtain ⟨l', y, r', rfl, rfl⟩ := exists_split hj
  have hsplit : l ++ (l' ++ y :: r') ++ r = (l ++ l') ++ y :: (r' ++ r) := by simp
  rw [putAt_append_cons, putAt_append_cons, putAt_append_cons, hsplit, ← List.length_append,
    putAt_append_cons]
  simp

theorem putAt_comm {xs : List α} {i j : Nat} (hij : i < j) (hj : j < xs.length) (ys zs : List α) :
    putAt (putAt xs j zs) i ys = putAt (putAt xs i ys) (j + ys.length - 1) zs := by
  obtain ⟨l, x, r, rfl, rfl⟩ := exists_split (Nat.lt_trans hij hj)
  have hbelow : j - l.length - 1 < r.length := by
    simp only [List.length_append, List.length_cons] at hj
    omega
  obtain ⟨m, y, r, rfl, hm⟩ := exists_split hbelow
  have hj : j = (l ++ x :: m).length := by simp; omega
  have hlow : (l ++ x :: m).length + ys.length - 1 = (l ++ ys ++ m).length := by simp; omega
  have hleft : l ++ x :: (m ++ y :: r) = (l ++ x :: m) ++ y :: r := by simp
  have hright : l ++ ys ++ (m ++ y :: r) = (l ++ ys ++ m) ++ y :: r := by simp
  calc putAt (putAt (l ++ x :: (m ++ y :: r)) j zs) l.length ys
      = putAt (l ++ x :: (m ++ zs ++ r)) l.length ys := by
        rw [hleft, hj, putAt_append_cons]; simp
    _ = l ++ ys ++ m ++ zs ++ r := by rw [putAt_append_cons]; simp
    _ = putAt (l ++ ys ++ (m ++ y :: r)) (j + ys.length - 1) zs := by
        rw [hright, hj, hlow, putAt_append_cons]
    _ = putAt (putAt (l ++ x :: (m ++ y :: r)) l.length ys) (j + ys.length - 1) zs := by
        rw [putAt_append_cons]

end PutAt

/-! ## Bounds and segments -/

namespace Segment

theorem moveBound_within {i j : Int} {m : Nat} (hj : 0 ≤ j ∧ j ≤ m) (n : Nat) (bound : Int) :
    moveBound (i + j) n (moveBound i m bound) = moveBound i (m + n : Nat) bound := by
  unfold moveBound
  split <;> split <;> omega

theorem moveBound_comm {i j : Int} (hij : i < j) (m n : Nat) (bound : Int) :
    moveBound i m (moveBound j n bound) = moveBound (j + m) n (moveBound i m bound) := by
  unfold moveBound
  split <;> split <;> split <;> omega

theorem moveBound_add (i j bound : Int) (n : Nat) :
    moveBound (i + j) n (bound + i) = moveBound j n bound + i := by
  unfold moveBound
  split <;> split <;> omega

theorem grown_grown_within (s : Segment) {i j : Int} {m : Nat} (hj : 0 ≤ j ∧ j ≤ m) (n : Nat) :
    (s.grown i m).grown (i + j) n = s.grown i (m + n) :=
  eq_of_bounds (moveBound_within hj n s.start) (moveBound_within hj n s.stop) rfl

theorem grown_comm (s : Segment) {i j : Int} (hij : i < j) (m n : Nat) :
    (s.grown j n).grown i m = (s.grown i m).grown (j + m) n :=
  eq_of_bounds (moveBound_comm hij m n s.start) (moveBound_comm hij m n s.stop) rfl

theorem grown_shifted (s : Segment) (i j : Int) (n : Nat) :
    (s.shifted i).grown (i + j) n = (s.grown j n).shifted i :=
  eq_of_bounds (moveBound_add i j s.start n) (moveBound_add i j s.stop n) rfl

theorem shifted_shifted (s : Segment) (i j : Int) :
    (s.shifted j).shifted i = s.shifted (i + j) := by
  apply eq_of_bounds
  · simp only [shifted_start]
    omega
  · simp only [shifted_stop]
    omega
  · rfl

/-- A block above a spliced segment moves it as a whole. -/
theorem grown_shifted_below {s : Segment} (hs : 0 ≤ s.start) {i j : Int} (hij : i < j) (m : Nat) :
    (s.shifted j).grown i m = s.shifted (j + m) := by
  have hle := s.start_le_stop
  apply eq_of_bounds
  · rw [grown_start, shifted_start, shifted_start, moveBound, if_pos (by omega)]
    omega
  · rw [grown_stop, shifted_stop, shifted_stop, moveBound, if_pos (by omega)]
    omega
  · rfl

end Segment

namespace Buffer

open Segment

theorem lines_grafted (b nested : Buffer) (line : Int) :
    (b.grafted line nested).lines = putAt b.lines line.toNat nested.lines := rfl

theorem segments_grafted (b nested : Buffer) (line : Int) :
    (b.grafted line nested).segments =
      b.segments.map (·.grown line (nested.size - 1)) ++ nested.segments.map (·.shifted line) := rfl

theorem graftOrigins_eq (origins block : List Origin) (line : Int) :
    graftOrigins origins line block = putAt origins line.toNat block := rfl

theorem eq_of_parts {b b' : Buffer} (hlines : b.lines = b'.lines)
    (hsegments : b.segments = b'.segments) : b = b' := by
  cases b
  cases b'
  cases hlines
  cases hsegments
  rfl

/-! ## Splices in one another -/

theorem grafted_grafted_within {a b c : Buffer} {i j : Int} (hi : 0 ≤ i ∧ i < a.size)
    (hj : 0 ≤ j ∧ j < b.size) (hc : 0 < c.size) :
    a.grafted i (b.grafted j c) = (a.grafted i b).grafted (i + j) c := by
  have hsize : (b.grafted j c).size - 1 = b.size - 1 + (c.size - 1) := by
    rw [size_grafted b j c hj]
    omega
  apply eq_of_parts
  · have hline : (i + j).toNat = i.toNat + j.toNat := by omega
    rw [lines_grafted, lines_grafted, lines_grafted, lines_grafted, hline]
    exact putAt_putAt_within (by simp only [size] at hi; omega) (by simp only [size] at hj; omega) _
  · simp only [segments_grafted, List.map_append, List.map_map, Function.comp_def, hsize,
      grown_grown_within _ (show 0 ≤ j ∧ j ≤ (b.size - 1 : Nat) by omega), grown_shifted,
      shifted_shifted, List.append_assoc]

/-- Splicing a buffer that was spliced into before is splicing twice, the second time further down. -/
theorem History.splice_assoc (a b c : History) (i j : Int) (hi : 0 ≤ i ∧ i < a.buffer.size)
    (hj : 0 ≤ j ∧ j < b.buffer.size) :
    ∃ inner outer whole, b.buffer.splice j c.buffer = .ok inner ∧
      a.buffer.splice i inner = .ok whole ∧ a.buffer.splice i b.buffer = .ok outer ∧
      outer.splice (i + j) c.buffer = .ok whole := by
  have hb := b.laminar_buffer
  have hc := c.laminar_buffer
  have hinner := hb.grafted hc hj
  have hsize := size_grafted a.buffer i b.buffer hi
  refine ⟨_, _, _, splice_eq _ j _ hj hc.size_pos, splice_eq _ i _ hi hinner.size_pos,
    splice_eq _ i _ hi hb.size_pos, ?_⟩
  rw [grafted_grafted_within hi hj hc.size_pos]
  exact splice_eq _ (i + j) _ (by omega) hc.size_pos

/-- A block of one line at the border of a block with an edit of its own. -/
theorem History.splice_assoc_border :
    let a : History := .replace (.load "a\nb" "root") 1 "p\nq" "block"
    let b : History := .replace (.load "x\ny" "outer") 0 "u\nv" "other"
    let c : History := .load "z" "inner"
    let inner : Buffer := ⟨["u", "z", "y"],
      [⟨0, 3, "outer", by decide⟩, ⟨0, 2, "other", by decide⟩, ⟨1, 2, "inner", by decide⟩]⟩
    let outer : Buffer := ⟨["a", "p", "u", "v", "y"],
      [⟨0, 5, "root", by decide⟩, ⟨1, 5, "block", by decide⟩, ⟨2, 5, "outer", by decide⟩,
        ⟨2, 4, "other", by decide⟩]⟩
    let whole : Buffer := ⟨["a", "p", "u", "z", "y"],
      [⟨0, 5, "root", by decide⟩, ⟨1, 5, "block", by decide⟩, ⟨2, 5, "outer", by decide⟩,
        ⟨2, 4, "other", by decide⟩, ⟨3, 4, "inner", by decide⟩]⟩
    ((0 : Int) ≤ 2 ∧ (2 : Int) < a.buffer.size) ∧ ((0 : Int) ≤ 1 ∧ (1 : Int) < b.buffer.size) ∧
      b.buffer.splice 1 c.buffer = .ok inner ∧ a.buffer.splice 2 inner = .ok whole ∧
      a.buffer.splice 2 b.buffer = .ok outer ∧ outer.splice (2 + 1) c.buffer = .ok whole := by
  intro a b c inner outer whole
  have hi : (0 : Int) ≤ 2 ∧ (2 : Int) < a.buffer.size := by decide +kernel
  have hj : (0 : Int) ≤ 1 ∧ (1 : Int) < b.buffer.size := by decide +kernel
  have hinner : b.buffer.splice 1 c.buffer = .ok inner := by decide +kernel
  have houter : a.buffer.splice 2 b.buffer = .ok outer := by decide +kernel
  have hwhole : a.buffer.splice 2 inner = .ok whole := by decide +kernel
  obtain ⟨inner', outer', whole', hinner', hwhole', houter', htwice⟩ :=
    History.splice_assoc a b c 2 1 hi hj
  cases hinner.symm.trans hinner'
  cases houter.symm.trans houter'
  cases hwhole.symm.trans hwhole'
  exact ⟨hi, hj, hinner, hwhole, houter, htwice⟩

/-! ## Splices beside one another -/

/-- Buffers with the same lines, each from the same place and in the same chain of segments. -/
structure Alike (b b' : Buffer) : Prop where
  lines : b.lines = b'.lines
  segments : b.segments.Perm b'.segments
  locate : ∀ i : Int, b.locate? i = b'.locate? i
  segmentsAt : ∀ i : Int, b.segmentsAt i = b'.segmentsAt i

section Beside

variable {b x y : Buffer} {i j : Int}

theorem upper_in_range (hy : 0 < y.size) (hi : 0 ≤ i) (hij : i < j) (hj : j < b.size) :
    0 ≤ i ∧ i < (b.grafted j y).size := by
  rw [size_grafted b j y (by omega)]
  omega

theorem lower_in_range (hx : 0 < x.size) (hi : 0 ≤ i) (hij : i < j) (hj : j < b.size) :
    0 ≤ j + x.size - 1 ∧ j + x.size - 1 < (b.grafted i x).size := by
  rw [size_grafted b i x (by omega)]
  omega

theorem lines_comm (hi : 0 ≤ i) (hij : i < j) (hj : j < b.size) :
    ((b.grafted j y).grafted i x).lines = ((b.grafted i x).grafted (j + x.size - 1) y).lines := by
  have hline : (j + x.size - 1).toNat = j.toNat + x.lines.length - 1 := by
    simp only [size]
    omega
  rw [lines_grafted, lines_grafted, lines_grafted, lines_grafted, hline]
  exact putAt_comm (by omega) (by simp only [size] at hj; omega) _ _

/-- The segments of the buffer, moved by the block at `i` and the block at `j`. -/
def movedByBoth (b x y : Buffer) (i j : Int) : List Segment :=
  b.segments.map fun s => (s.grown j (y.size - 1)).grown i (x.size - 1)

theorem segments_lower_first (hy : y.Laminar) (hij : i < j) :
    ((b.grafted j y).grafted i x).segments =
      movedByBoth b x y i j ++ (y.segments.map (·.shifted (j + (x.size - 1 : Nat))) ++
        x.segments.map (·.shifted i)) := by
  have hmoved : (y.segments.map (·.shifted j)).map (·.grown i (x.size - 1)) =
      y.segments.map (·.shifted (j + (x.size - 1 : Nat))) := by
    rw [List.map_map]
    exact List.map_congr_left fun s hs => grown_shifted_below (hy.within s hs).1 hij _
  rw [segments_grafted, segments_grafted, List.map_append, hmoved, List.map_map, List.append_assoc]
  rfl

theorem segments_upper_first (hx : x.Laminar) (hij : i < j) :
    ((b.grafted i x).grafted (j + x.size - 1) y).segments =
      movedByBoth b x y i j ++ (x.segments.map (·.shifted i) ++
        y.segments.map (·.shifted (j + (x.size - 1 : Nat)))) := by
  have hpos := hx.size_pos
  have hline : j + x.size - 1 = j + (x.size - 1 : Nat) := by omega
  have hkept : (x.segments.map (·.shifted i)).map (·.grown (j + (x.size - 1 : Nat)) (y.size - 1)) =
      x.segments.map (·.shifted i) := by
    rw [List.map_map]
    apply List.map_congr_left
    intro s hs
    have := hx.within s hs
    exact grown_of_stop_le _ (by rw [shifted_stop]; omega)
  rw [hline, segments_grafted, segments_grafted, List.map_append, hkept, List.map_map,
    List.append_assoc, movedByBoth]
  simp only [Function.comp_def, grown_comm _ hij]

/-- No segment of a spliced buffer contains a line outside its block. -/
theorem filter_shifted_eq_nil (hx : x.Laminar) {line k : Int} (hk : k < line ∨ line + x.size ≤ k) :
    (x.segments.map (·.shifted line)).filter (·.contains k) = [] := by
  rw [List.filter_eq_nil_iff]
  intro t ht
  obtain ⟨s, hs, rfl⟩ := List.mem_map.1 ht
  have := hx.within s hs
  rw [contains_iff, shifted_start, shifted_stop]
  omega

theorem segmentsAt_comm (hx : x.Laminar) (hy : y.Laminar) (hij : i < j) (k : Int) :
    ((b.grafted j y).grafted i x).segmentsAt k =
      ((b.grafted i x).grafted (j + x.size - 1) y).segmentsAt k := by
  have hpos := hx.size_pos
  simp only [segmentsAt, segments_lower_first hy hij, segments_upper_first hx hij,
    List.filter_append]
  congr 1
  -- the upper block ends where the lower one has not begun
  by_cases hk : i + x.size ≤ k
  · rw [filter_shifted_eq_nil hx (.inr hk), List.append_nil, List.nil_append]
  · rw [filter_shifted_eq_nil hy (.inl (by omega)), List.append_nil, List.nil_append]

theorem Tracks.locate?_comm {origins upper lower : List Origin} (hb : b.Tracks origins)
    (hx : x.Tracks upper) (hy : y.Tracks lower) (hi : 0 ≤ i) (hij : i < j) (hj : j < b.size)
    (k : Int) :
    ((b.grafted j y).grafted i x).locate? k =
      ((b.grafted i x).grafted (j + x.size - 1) y).locate? k := by
  have hxpos := hx.laminar.size_pos
  have hypos := hy.laminar.size_pos
  have hi' : 0 ≤ i ∧ i < b.size := by omega
  have hj' : 0 ≤ j ∧ j < b.size := by omega
  have hlower := (hb.grafted hy hj').grafted hx (upper_in_range hypos hi hij hj)
  have hupper := (hb.grafted hx hi').grafted hy (lower_in_range hxpos hi hij hj)
  have hline : (j + x.size - 1).toNat = j.toNat + upper.length - 1 := by
    rw [hx.length]
    omega
  have hcomm : graftOrigins (graftOrigins origins j lower) i upper =
      graftOrigins (graftOrigins origins i upper) (j + x.size - 1) lower := by
    have hlength := hb.length
    rw [graftOrigins_eq, graftOrigins_eq, graftOrigins_eq, graftOrigins_eq, hline]
    exact putAt_comm (by omega) (by omega) _ _
  rw [hlower.locate, hupper.locate, hcomm]

end Beside

theorem History.tracks_buffer (h : History) : ∃ origins, h.buffer.Tracks origins := by
  apply buffer_induction (P := fun b => ∃ origins, b.Tracks origins)
  · intro text file
    exact ⟨_, tracks_ofText text file⟩
  · rintro b nested line - - hline ⟨origins, hb⟩ ⟨block, hn⟩
    exact ⟨_, hb.grafted hn hline⟩
  · rintro b i ⟨origins, hb⟩
    exact ⟨origins, hb.blanked i⟩

/-- Splices at two lines may come in either order. The upper one moves the lower line down by the lines
it adds. -/
theorem History.splice_comm (b x y : History) (i j : Int) (hi : 0 ≤ i) (hij : i < j)
    (hj : j < b.buffer.size) :
    ∃ lower upper whole whole', b.buffer.splice j y.buffer = .ok lower ∧
      lower.splice i x.buffer = .ok whole ∧ b.buffer.splice i x.buffer = .ok upper ∧
      upper.splice (j + x.buffer.size - 1) y.buffer = .ok whole' ∧ Alike whole whole' := by
  obtain ⟨origins, hb⟩ := b.tracks_buffer
  obtain ⟨upper, hx⟩ := x.tracks_buffer
  obtain ⟨lower, hy⟩ := y.tracks_buffer
  have hxpos := hx.laminar.size_pos
  have hypos := hy.laminar.size_pos
  refine ⟨_, _, _, _, splice_eq _ j _ (by omega) hypos,
    splice_eq _ i _ (upper_in_range hypos hi hij hj) hxpos, splice_eq _ i _ (by omega) hxpos,
    splice_eq _ _ _ (lower_in_range hxpos hi hij hj) hypos, ?_, ?_, ?_, ?_⟩
  · exact lines_comm hi hij hj
  · rw [segments_lower_first hy.laminar hij, segments_upper_first hx.laminar hij]
    exact List.perm_append_comm.append_left _
  · exact hb.locate?_comm hx hy hi hij hj
  · exact segmentsAt_comm hx.laminar hy.laminar hij

/-- Neighbouring lines, the upper one in a block of its own. The segments come out in two orders. -/
theorem History.splice_comm_neighbours :
    let b : History := .replace (.load "a\nb" "root") 0 "p\nq" "block"
    let x : History := .replace (.load "x\ny" "above") 1 "u\nv" "other"
    let y : History := .load "z\nw" "below"
    let whole : Buffer := ⟨["p", "x", "u", "v", "z", "w"],
      [⟨0, 6, "root", by decide⟩, ⟨0, 4, "block", by decide⟩, ⟨4, 6, "below", by decide⟩,
        ⟨1, 4, "above", by decide⟩, ⟨2, 4, "other", by decide⟩]⟩
    let whole' : Buffer := ⟨["p", "x", "u", "v", "z", "w"],
      [⟨0, 6, "root", by decide⟩, ⟨0, 4, "block", by decide⟩, ⟨1, 4, "above", by decide⟩,
        ⟨2, 4, "other", by decide⟩, ⟨4, 6, "below", by decide⟩]⟩
    ((0 : Int) ≤ 1 ∧ (1 : Int) < 2 ∧ (2 : Int) < b.buffer.size) ∧
      (∃ lower, b.buffer.splice 2 y.buffer = .ok lower ∧ lower.splice 1 x.buffer = .ok whole) ∧
      (∃ upper, b.buffer.splice 1 x.buffer = .ok upper ∧
        upper.splice (2 + x.buffer.size - 1) y.buffer = .ok whole') ∧
      Alike whole whole' := by
  intro b x y whole whole'
  have hj : (2 : Int) < b.buffer.size := by decide +kernel
  obtain ⟨lower, upper, w, w', hlower, hwhole, hupper, hwhole', halike⟩ :=
    History.splice_comm b x y 1 2 (by decide) (by decide) hj
  have hw : (b.buffer.splice 2 y.buffer).bind (·.splice 1 x.buffer) = .ok whole := by decide +kernel
  have hw' : (b.buffer.splice 1 x.buffer).bind (·.splice (2 + x.buffer.size - 1) y.buffer) =
      .ok whole' := by decide +kernel
  obtain rfl : w = whole := by simpa [hlower, Except.bind, hwhole] using hw
  obtain rfl : w' = whole' := by simpa [hupper, Except.bind, hwhole'] using hw'
  exact ⟨⟨by decide, by decide, hj⟩, ⟨lower, hlower, hwhole⟩, ⟨upper, hupper, hwhole'⟩, halike⟩

end Buffer
end ShaderInclude
