import ShaderInclude.Proofs.Nesting

/-!
# ShaderInclude.Proofs.Atomicity

An edit changes a buffer as a whole or not at all. `replaceLine` and `splice` return a new buffer, so a
failure cannot leave half of a change behind. Edits of one buffer in place could: they put the lines in
first and make the segments afterwards, and `Segment.make` may refuse. `replaceLineInPlace` and
`SplicesInPlace` are the edits in that order, with the buffer as they leave it also when they fail.

A splice in place reads its `Source` while it writes the buffer. Where the source is another buffer, that
makes no difference. Where it is the buffer itself, every segment that is added is one more to be read,
and the splice has no end. So `SplicesInPlace` is a relation: it holds of the ends that there are.

* `moveBound_mono`: a block in place of a line, be it empty, keeps bounds in order. So no segment that an
  edit makes is refused (`resizeAll_ok`, `addsSegments_other`).
* `replaceLineInPlace_eq`, `splicesInPlace_other_iff`: an edit in place ends like the edit that returns a
  buffer, and with the old buffer if that one fails. So a history may go on after a failure as `settle`
  says.
* `not_addsSegments_itself`: the loop over its own segments never ends.
* `edits_atomic`: when edits fail, why, and what they leave.
-/

namespace ShaderInclude

namespace Segment

theorem moveBound_mono (line : Int) {delta : Int} (hdelta : -1 ≤ delta) {low high : Int}
    (h : low ≤ high) : moveBound line delta low ≤ moveBound line delta high := by
  unfold moveBound
  split <;> split <;> omega

theorem resized_ok (s : Segment) (line : Int) {delta : Int} (hdelta : -1 ≤ delta) :
    ∃ moved, s.resized line delta = .ok moved :=
  (make_ok_iff _ _ _).2 (moveBound_mono line hdelta s.start_le_stop)

theorem grown_zero (s : Segment) (line : Int) : s.grown line 0 = s := by
  apply eq_of_bounds
  · simp [moveBound]
  · simp [moveBound]
  · rfl

theorem make_shifted (s : Segment) (offset : Int) :
    make (s.start + offset) (s.stop + offset) s.file = .ok (s.shifted offset) := by
  have h := (s.shifted offset).start_le_stop
  rw [shifted_start, shifted_stop] at h
  simp [make, shifted, h]

end Segment

namespace Buffer

open Segment

/-! ## Edits in place -/

/-- The end of an edit in place, and the buffer as the edit leaves it. -/
structure Edited where
  result : Except BufferError Unit
  buffer : Buffer

/-- The lines go in first; a block of one line moves no segment. The block is read from the buffer as it
is at the time, once for its lines and again for their number. -/
def putBlockInPlace (b : Buffer) (line : Int) (block : Buffer → List String) : Edited :=
  if 0 ≤ line ∧ line < b.size then
    let b := { b with lines := b.lines.take line.toNat ++ block b ++ b.lines.drop (line.toNat + 1) }
    let delta := ((block b).length : Int) - 1
    if delta = 0 then ⟨.ok (), b⟩
    else
      match resizeAll line delta b.segments with
      | .error e => ⟨.error (.inverted e), b⟩
      | .ok segments => ⟨.ok (), { b with segments := segments }⟩
  else ⟨.error (.outOfRange line b.size), b⟩

def replaceLineInPlace (b : Buffer) (line : Int) (text file : String) : Edited :=
  let block := Text.lines text
  match b.putBlockInPlace line fun _ => block with
  | ⟨.error e, b⟩ => ⟨.error e, b⟩
  | ⟨.ok (), b⟩ =>
    match Segment.make line (line + block.length) file with
    | .error e => ⟨.error (.inverted e), b⟩
    | .ok s => ⟨.ok (), { b with segments := b.segments ++ [s] }⟩

/-- What is spliced into a buffer: another one, or the buffer itself. -/
inductive Source where
  | other (nested : Buffer)
  | itself

/-- The source while the buffer is `b`. -/
def Source.now (b : Buffer) : Source → Buffer
  | .other nested => nested
  | .itself => b

/-- Adding the segments of the source from the one at `i` on, moved down to `line`, has this end. -/
inductive AddsSegments (source : Source) (line : Int) : Nat → Buffer → Edited → Prop where
  | finished {i : Nat} {b : Buffer} : (source.now b).segments[i]? = none →
      AddsSegments source line i b ⟨.ok (), b⟩
  | refused {i : Nat} {b : Buffer} {s : Segment} {e : InvertedBounds} :
      (source.now b).segments[i]? = some s →
      Segment.make (s.start + line) (s.stop + line) s.file = .error e →
      AddsSegments source line i b ⟨.error (.inverted e), b⟩
  | added {i : Nat} {b : Buffer} {s s' : Segment} {done : Edited} :
      (source.now b).segments[i]? = some s →
      Segment.make (s.start + line) (s.stop + line) s.file = .ok s' →
      AddsSegments source line (i + 1) { b with segments := b.segments ++ [s'] } done →
      AddsSegments source line i b done

/-- A splice in place has this end. -/
inductive SplicesInPlace (b : Buffer) (line : Int) (source : Source) : Edited → Prop where
  | failed {e : BufferError} {b' : Buffer} :
      b.putBlockInPlace line (fun b => (source.now b).lines) = ⟨.error e, b'⟩ →
      SplicesInPlace b line source ⟨.error e, b'⟩
  | wentIn {b' : Buffer} {done : Edited} :
      b.putBlockInPlace line (fun b => (source.now b).lines) = ⟨.ok (), b'⟩ →
      AddsSegments source line 0 b' done → SplicesInPlace b line source done

/-! ## No segment is refused -/

theorem resizeAll_ok (line : Int) {delta : Int} (hdelta : -1 ≤ delta) (segments : List Segment) :
    ∃ moved, resizeAll line delta segments = .ok moved ∧ moved.length = segments.length := by
  induction segments with
  | nil => exact ⟨[], rfl, rfl⟩
  | cons s rest ih =>
    obtain ⟨s', hs⟩ := s.resized_ok line hdelta
    obtain ⟨rest', hrest, hlength⟩ := ih
    exact ⟨s' :: rest', by simp [resizeAll, hs, hrest], by simp [hlength]⟩

theorem resizeAll_zero (line : Int) (segments : List Segment) :
    resizeAll line 0 segments = .ok segments := by
  have h := resizeAll_eq line 0 segments
  simpa [grown_zero] using h

theorem addsSegments_other (nested : Buffer) (line : Int) (i : Nat) (b : Buffer) :
    AddsSegments (.other nested) line i b
      ⟨.ok (), { b with segments := b.segments ++ (nested.segments.drop i).map (·.shifted line) }⟩ := by
  -- the induction is on the segments that are still to be read
  generalize hrest : nested.segments.drop i = rest
  induction rest generalizing i b with
  | nil =>
    rw [List.map_nil, List.append_nil]
    exact .finished (List.getElem?_eq_none (List.drop_eq_nil_iff.1 hrest))
  | cons s rest ih =>
    have hs : nested.segments[i]? = some s := by rw [← List.head?_drop, hrest, List.head?_cons]
    have htail : nested.segments.drop (i + 1) = rest := by rw [← List.tail_drop, hrest, List.tail_cons]
    refine .added hs (s.make_shifted line) ?_
    simpa using ih (i + 1) { b with segments := b.segments ++ [s.shifted line] } htail

theorem AddsSegments.deterministic {source : Source} {line : Int} {i : Nat} {b : Buffer}
    {done done' : Edited} (h : AddsSegments source line i b done)
    (h' : AddsSegments source line i b done') : done = done' := by
  induction h with
  | finished hs =>
    cases h' with
    | finished _ => rfl
    | refused hs' _ => cases hs.symm.trans hs'
    | added hs' _ _ => cases hs.symm.trans hs'
  | @refused _ _ s _ hs hmake => cases (s.make_shifted line).symm.trans hmake
  | added hs hmake _ ih =>
    cases h' with
    | finished hs' => cases hs.symm.trans hs'
    | refused hs' hmake' =>
      cases hs.symm.trans hs'
      cases hmake.symm.trans hmake'
    | added hs' hmake' hrest' =>
      cases hs.symm.trans hs'
      cases hmake.symm.trans hmake'
      exact ih hrest'

/-- A loop that reads the list it adds to has always one more segment to read. -/
theorem not_addsSegments_itself {line : Int} {i : Nat} {b : Buffer} (hi : i < b.segments.length)
    (done : Edited) : ¬ AddsSegments .itself line i b done := by
  intro h
  induction h with
  | finished hs => exact absurd (List.getElem?_eq_none_iff.1 hs) (Nat.not_le.2 hi)
  | @refused _ _ s _ _ hmake => cases (s.make_shifted line).symm.trans hmake
  | added _ _ _ ih => exact ih (by simpa using hi)

/-! ## The same edits -/

/-- The end of an edit in place that leaves the buffer an edit returned, or the old one if it failed. -/
def Edited.of (b : Buffer) (returned : Except BufferError Buffer) : Edited :=
  ⟨returned.map fun _ => (), b.settle returned⟩

@[simp] theorem Edited.of_ok (b b' : Buffer) : Edited.of b (.ok b') = ⟨.ok (), b'⟩ := rfl

@[simp] theorem Edited.of_error (b : Buffer) (e : BufferError) :
    Edited.of b (.error e) = ⟨.error e, b⟩ := rfl

/-- Lines that go in leave as many segments as there were. -/
theorem putBlockInPlace_in_range (b : Buffer) {line : Int} (hline : 0 ≤ line ∧ line < b.size)
    (block : Buffer → List String) :
    ∃ b', b.putBlockInPlace line block = ⟨.ok (), b'⟩ ∧
      b'.segments.length = b.segments.length := by
  rw [putBlockInPlace, if_pos hline]
  simp only
  generalize hdelta : ((block _).length : Int) - 1 = delta
  split
  · exact ⟨_, rfl, rfl⟩
  · obtain ⟨moved, hmoved, hlength⟩ := resizeAll_ok line (by omega : -1 ≤ delta) b.segments
    rw [hmoved]
    exact ⟨_, rfl, hlength⟩

theorem putBlockInPlace_out_of_range (b : Buffer) {line : Int}
    (hline : ¬ (0 ≤ line ∧ line < b.size)) (block : Buffer → List String) :
    b.putBlockInPlace line block = ⟨.error (.outOfRange line b.size), b⟩ := by
  rw [putBlockInPlace, if_neg hline]

theorem putBlockInPlace_eq (b : Buffer) (line : Int) (block : List String) :
    (b.putBlockInPlace line fun _ => block) = .of b (b.putBlock line block) := by
  unfold putBlockInPlace putBlock
  by_cases hline : 0 ≤ line ∧ line < b.size
  · rw [if_pos hline, if_pos hline]
    by_cases hdelta : (block.length : Int) - 1 = 0
    · simp only [hdelta, if_true, resizeAll_zero, Edited.of_ok]
    · have hlow : -1 ≤ (block.length : Int) - 1 := by omega
      obtain ⟨moved, hmoved, -⟩ := resizeAll_ok line hlow b.segments
      simp only [hdelta, if_false, hmoved, Edited.of_ok]
  · rw [if_neg hline, if_neg hline]
    rfl

theorem replaceLineInPlace_eq (b : Buffer) (line : Int) (text file : String) :
    b.replaceLineInPlace line text file = .of b (b.replaceLine line text file) := by
  obtain ⟨s, hs⟩ := (make_ok_iff line (line + (Text.lines text).length) file).2 (by omega)
  unfold replaceLineInPlace replaceLine
  simp only [putBlockInPlace_eq]
  cases b.putBlock line (Text.lines text) with
  | error e => rfl
  | ok b' => simp only [Edited.of_ok, hs]

/-- A splice whose lines do not go in ends there. -/
theorem splicesInPlace_iff_of_failed {b b' : Buffer} {line : Int} {source : Source} {e : BufferError}
    (hput : b.putBlockInPlace line (fun b => (source.now b).lines) = ⟨.error e, b'⟩)
    (done : Edited) : b.SplicesInPlace line source done ↔ done = ⟨.error e, b'⟩ := by
  constructor
  · intro h
    cases h with
    | failed hput' => exact hput'.symm.trans hput
    | wentIn hput' _ => cases hput'.symm.trans hput
  · rintro rfl
    exact .failed hput

theorem splicesInPlace_other_iff (b : Buffer) (line : Int) (nested : Buffer) (done : Edited) :
    b.SplicesInPlace line (.other nested) done ↔ done = .of b (b.splice line nested) := by
  have hput : (b.putBlockInPlace line fun b => ((Source.other nested).now b).lines) =
      .of b (b.putBlock line nested.lines) := putBlockInPlace_eq b line nested.lines
  unfold splice
  cases hblock : b.putBlock line nested.lines with
  | error e =>
    rw [hblock, Edited.of_error] at hput
    exact splicesInPlace_iff_of_failed hput done
  | ok b' =>
    rw [hblock, Edited.of_ok] at hput
    have hadds := addsSegments_other nested line 0 b'
    constructor
    · intro h
      cases h with
      | failed hput' => cases hput'.symm.trans hput
      | wentIn hput' hrun =>
        cases hput'.symm.trans hput
        exact hrun.deterministic hadds
    · rintro rfl
      exact .wentIn hput hadds

theorem splicesInPlace_out_of_range (b : Buffer) {line : Int} (source : Source)
    (hline : ¬ (0 ≤ line ∧ line < b.size)) (done : Edited) :
    b.SplicesInPlace line source done ↔ done = ⟨.error (.outOfRange line b.size), b⟩ :=
  splicesInPlace_iff_of_failed (b.putBlockInPlace_out_of_range hline _) done

theorem not_splicesInPlace_itself (b : Buffer) {line : Int} (hline : 0 ≤ line ∧ line < b.size)
    (hsegments : b.segments ≠ []) (done : Edited) : ¬ b.SplicesInPlace line .itself done := by
  obtain ⟨b', hput, hlength⟩ := b.putBlockInPlace_in_range hline fun b => (Source.itself.now b).lines
  have hpos := List.length_pos_iff.2 hsegments
  intro h
  cases h with
  | failed hput' => cases hput'.symm.trans hput
  | wentIn hput' hadds =>
    cases hput'.symm.trans hput
    exact not_addsSegments_itself (by omega) done hadds

/-! ## All or nothing -/

/-- The edit is done if the line is there. Otherwise that is the error, as far as its numbers can be
written, and the buffer is as it was. -/
structure Edited.Atomic (done : Edited) (b : Buffer) (line : Int) : Prop where
  ok_iff : done.result = .ok () ↔ 0 ≤ line ∧ line < b.size
  error_iff : ∀ e, done.result = .error e ↔ ¬ (0 ≤ line ∧ line < b.size) ∧
    e = if Text.Writable line ∧ Text.Writable (b.size - 1) then .lineOutOfRange line b.size
      else .unwritable .tooLongToWrite
  unchanged : ∀ e, done.result = .error e → done.buffer = b

theorem exists_splice (b : Buffer) {line : Int} (hline : 0 ≤ line ∧ line < b.size) (nested : Buffer) :
    ∃ b', b.splice line nested = .ok b' := by
  have hlow : -1 ≤ (nested.lines.length : Int) - 1 := by omega
  obtain ⟨moved, hmoved, -⟩ := resizeAll_ok line hlow b.segments
  rw [splice, putBlock, if_pos hline, hmoved]
  exact ⟨_, rfl⟩

theorem atomic_out_of_range (b : Buffer) {line : Int} (hline : ¬ (0 ≤ line ∧ line < b.size)) :
    Edited.Atomic ⟨.error (.outOfRange line b.size), b⟩ b line := by
  rw [BufferError.outOfRange_eq]
  exact ⟨by simp [hline], by simp [hline, eq_comm], by simp⟩

theorem atomic_splice (b : Buffer) (line : Int) (nested : Buffer) :
    (Edited.of b (b.splice line nested)).Atomic b line := by
  by_cases hline : 0 ≤ line ∧ line < b.size
  · obtain ⟨b', hb'⟩ := b.exists_splice hline nested
    rw [hb']
    exact ⟨by simp [hline], by simp [hline], by simp⟩
  · rw [splice_out_of_range b nested hline]
    exact b.atomic_out_of_range hline

/-- Edits in place of any buffer, with any text or other buffer, fail only for a line that is not there,
and before they have changed anything. They leave what the edits that return a buffer return. A splice
of a buffer into itself ends only if it fails so. -/
theorem edits_atomic (b : Buffer) (line : Int) :
    (∀ text file, (b.replaceLineInPlace line text file).Atomic b line ∧
      b.replaceLineInPlace line text file = .of b (b.replaceLine line text file)) ∧
    (∀ nested, (Edited.of b (b.splice line nested)).Atomic b line ∧
      ∀ done, b.SplicesInPlace line (.other nested) done ↔ done = .of b (b.splice line nested)) ∧
    (b.segments ≠ [] →
      ((∃ done, b.SplicesInPlace line .itself done) ↔ ¬ (0 ≤ line ∧ line < b.size)) ∧
      ∀ done, b.SplicesInPlace line .itself done → done.Atomic b line) := by
  refine ⟨?_, ?_, ?_⟩
  · intro text file
    refine ⟨?_, replaceLineInPlace_eq b line text file⟩
    rw [replaceLineInPlace_eq, replaceLine_eq_splice]
    exact b.atomic_splice line _
  · intro nested
    exact ⟨b.atomic_splice line nested, b.splicesInPlace_other_iff line nested⟩
  · intro hsegments
    by_cases hline : 0 ≤ line ∧ line < b.size
    · have hnone := b.not_splicesInPlace_itself hline hsegments
      exact ⟨by simp [hline, hnone], fun done hdone => absurd hdone (hnone done)⟩
    · have hends := b.splicesInPlace_out_of_range .itself hline
      refine ⟨by simp [hline, hends], ?_⟩
      intro done hdone
      rw [(hends done).1 hdone]
      exact b.atomic_out_of_range hline

theorem edits_atomic_two_lines :
    let b := ofText "a\nb" "f"
    let nested := ofText "x\ny" "g"
    (∀ done, b.SplicesInPlace 1 (.other nested) done ↔
        done = ⟨.ok (), ⟨["a", "x", "y"], [⟨0, 3, "f", by decide⟩, ⟨1, 3, "g", by decide⟩]⟩⟩) ∧
      (∀ done, b.SplicesInPlace 2 (.other nested) done ↔
        done = ⟨.error (.lineOutOfRange 2 2), b⟩) ∧
      b.segments ≠ [] ∧ ¬ ∃ done, b.SplicesInPlace 0 .itself done := by
  intro b nested
  have hsegments : b.segments ≠ [] := by decide
  refine ⟨?_, ?_, hsegments, ?_⟩
  · exact ((edits_atomic b 1).2.1 nested).2
  · have hout : b.splice 2 nested = .error (.lineOutOfRange 2 2) := by decide +kernel
    intro done
    rw [((edits_atomic b 2).2.1 nested).2, hout, Edited.of_error]
  · rw [((edits_atomic b 0).2.2 hsegments).1]
    decide

/-- A line that is far out of range is not reported as such, and a buffer can be spliced into itself at
a line that is there without ever coming to an end. -/
theorem edits_miss_out_of_range :
    let b := ofText "a" "f"
    let line : Int := (Nat.pow 10 Text.digitLimit : Nat)
    ¬ (0 ≤ line ∧ line < b.size) ∧
      (∀ l count, (b.replaceLineInPlace line "x" "g").result ≠ .error (.lineOutOfRange l count)) ∧
      (b.replaceLineInPlace line "x" "g").result = .error (.unwritable .tooLongToWrite) ∧
      ((0 : Int) ≤ 0 ∧ (0 : Int) < b.size) ∧ ¬ ∃ done, b.SplicesInPlace 0 .itself done := by
  intro b line
  have hresult : (b.replaceLineInPlace line "x" "g").result = .error (.unwritable .tooLongToWrite) := by
    decide +kernel
  refine ⟨by decide +kernel, ?_, hresult, by decide, ?_⟩
  · intro l count h
    cases hresult.symm.trans h
  · rintro ⟨done, hdone⟩
    exact b.not_splicesInPlace_itself (by decide) (by decide) done hdone

end Buffer
end ShaderInclude
