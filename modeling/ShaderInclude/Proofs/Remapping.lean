import Mathlib
import ShaderInclude.Diagnostic.Compile
import ShaderInclude.Proofs.MarkerGrammar
import ShaderInclude.Proofs.Nesting

/-!
# ShaderInclude.Proofs.Remapping

What becomes of the lines of a compiler log. `LineOutcome` lists what can become of one line, told by the
grammar of markers and by the lines of the buffer. Two of its cases are failures, and one of them does
not happen: a number that was short enough to be read leads to a number that is short enough to be
written, because a line of a file is never further down than the line of the buffer that shows it
(`History.locate?_bounds`).

* `chainAt_eq`: every line of a buffer has an include chain, from its owner to the first segment.
* `remapLine_outcome`: the outcome of a line, for buffers with nested segments.
* `remapLine_names_origin`: a line is left alone, or gets the place it is about in front.
* `remap_fails_iff_overlong`: only numbers that are too long to be read make a log fail.
-/

namespace ShaderInclude
namespace Buffer

open Segment

/-! ## Located lines -/

theorem Laminar.exists_located {b : Buffer} (h : b.Laminar) {i : Int} (hi : 0 ≤ i ∧ i < b.size) :
    ∃ s k, b.owner? i = some s ∧ b.locate? i = some (s.file, k) := by
  obtain ⟨p, hp⟩ := ownerIndex?_isSome h hi
  obtain ⟨s, hs, -⟩ := owner_contains hp
  exact ⟨s, _, by rw [owner?, hp, Option.bind_some, hs], locate?_eq b i p s hp hs⟩

theorem Laminar.in_range_of_located {b : Buffer} (h : b.Laminar) {i : Int} {o : Origin}
    (hl : b.locate? i = some o) : 0 ≤ i ∧ i < b.size := by
  by_contra hout
  rw [locate?_eq_none h (by omega)] at hl
  cases hl

/-- The first segment is the outermost one that contains a line. -/
theorem Laminar.head?_segmentsAt {b : Buffer} (h : b.Laminar) {i : Int} (hi : 0 ≤ i ∧ i < b.size) :
    (b.segmentsAt i).head? = b.segments[0]? := by
  obtain ⟨root, rest, hsegments, h0, h1⟩ := h.first
  have hroot : root.contains i = true := by
    rw [contains_iff]
    omega
  simp [segmentsAt, hsegments, hroot]

/-- A line shows a line of its file that is not further down. -/
theorem History.locate?_bounds (h : History) {i k : Int} {f : String}
    (hl : h.buffer.locate? i = some (f, k)) : 0 ≤ k ∧ k ≤ i := by
  revert i k f
  refine h.buffer_induction (P := fun b => ∀ {i k : Int} {f : String},
    b.locate? i = some (f, k) → 0 ≤ k ∧ k ≤ i) ?_ ?_ ?_
  · intro text file i k f hl
    rw [locate?_ofText] at hl
    split at hl
    · cases hl
      omega
    · cases hl
  · intro b nested line hb hn hline ihb ihn i k f hl
    have hpos := hn.size_pos
    by_cases hbefore : i < line
    · rw [locate?_grafted_before hn hbefore] at hl
      exact ihb hl
    by_cases hinside : i < line + nested.size
    · rw [locate?_grafted_inside hn (by omega)] at hl
      have := ihn hl
      omega
    · rw [locate?_grafted_after hb hn (by omega)] at hl
      have := ihb hl
      omega
  · intro b j ih i k f hl
    exact ih hl

end Buffer

namespace Diagnostic

open Text Buffer

/-! ## Include chains -/

/-- The files whose segments contain a line, innermost first. -/
def chainFiles (b : Buffer) (line : Int) : List String :=
  (b.segmentsAt line).reverse.map Segment.file

def chainText (files : List String) : String :=
  " included from ".intercalate (files.map fun file => "File `" ++ file ++ "`")

theorem trail_eq (files : List String) (hne : files ≠ []) : trail files = .ok (chainText files) := by
  induction files with
  | nil => exact absurd rfl hne
  | cons file outer ih =>
    cases outer with
    | nil => simp [trail, chainText]
    | cons next outer =>
      have hsign : "` included from " = "`" ++ " included from " := rfl
      simp only [trail, ih (by simp), chainText, List.map_cons, String.intercalate_cons_cons, hsign,
        String.append_assoc]

theorem head?_chainFiles (b : Buffer) (line : Int) :
    (chainFiles b line).head? = (b.owner? line).map Segment.file := by
  rw [chainFiles, List.head?_map, List.head?_reverse, getLast?_segmentsAt]

theorem getLast?_chainFiles {b : Buffer} (h : b.Laminar) {line : Int}
    (hline : 0 ≤ line ∧ line < b.size) :
    (chainFiles b line).getLast? = (b.segments[0]?).map Segment.file := by
  rw [chainFiles, List.getLast?_map, List.getLast?_reverse, h.head?_segmentsAt hline]

theorem chainFiles_ne_nil {b : Buffer} (h : b.Laminar) {line : Int}
    (hline : 0 ≤ line ∧ line < b.size) : chainFiles b line ≠ [] := by
  intro hnil
  obtain ⟨s, k, hs, -⟩ := h.exists_located hline
  have hhead := head?_chainFiles b line
  rw [hnil, hs] at hhead
  cases hhead

theorem chainAt_eq {b : Buffer} (h : b.Laminar) {line : Int} (hline : 0 ≤ line ∧ line < b.size) :
    chainAt b line = .ok (chainText (chainFiles b line)) :=
  trail_eq _ (chainFiles_ne_nil h hline)

/-! ## One line -/

theorem writable_iff (n : Int) : Writable n ↔ n.natAbs < 10 ^ digitLimit := by
  rw [Writable, Nat.pow_eq]

/-- What can become of a line of a log. -/
inductive LineOutcome (b : Buffer) (base : Int) (line : String) : Except RemapError String → Prop where
  | unmarked : (∀ m : Marker, m.line ≠ line.toList) → LineOutcome b base line (.ok line)
  | overlong (m : Marker) : m.line = line.toList → digitLimit < m.number.length →
      LineOutcome b base line (.error (.numeral (.tooLongToRead m.number.length)))
  | outside (m : Marker) : m.line = line.toList → m.number.length ≤ digitLimit →
      ¬ (0 ≤ m.value - base ∧ m.value - base < b.size) → LineOutcome b base line (.ok line)
  | unwritable (m : Marker) {f : String} {k : Int} : m.line = line.toList →
      m.number.length ≤ digitLimit → b.locate? (m.value - base) = some (f, k) →
      10 ^ digitLimit ≤ (k + base).natAbs → LineOutcome b base line (.error (.numeral .tooLongToWrite))
  | located (m : Marker) {f : String} {k : Int} : m.line = line.toList →
      m.number.length ≤ digitLimit → b.locate? (m.value - base) = some (f, k) →
      (k + base).natAbs < 10 ^ digitLimit → LineOutcome b base line
        (.ok (placed (chainText (chainFiles b (m.value - base))) (toString (k + base)) line))

theorem remapLine_outcome {b : Buffer} (hb : b.Laminar) (base : Int) (line : String) :
    LineOutcome b base line (remapLine b base line) := by
  unfold remapLine
  cases hmarker : marker? line with
  | none => exact .unmarked ((marker?_eq_none_iff line).1 hmarker)
  | some digits =>
    obtain ⟨m, hm, rfl⟩ := (marker?_eq_some_iff _ _).1 hmarker
    by_cases hlong : digitLimit < m.number.length
    · simp only [m.ofDigits_number_overlong hlong]
      exact .overlong m hm hlong
    have hshort : m.number.length ≤ digitLimit := by omega
    simp only [m.ofDigits_number hshort]
    cases hl : b.locate? (m.value - base) with
    | none =>
      refine .outside m hm hshort fun hin => ?_
      obtain ⟨s, k, -, hk⟩ := hb.exists_located hin
      rw [hl] at hk
      cases hk
    | some o =>
      obtain ⟨f, k⟩ := o
      simp only [chainAt_eq hb (hb.in_range_of_located hl)]
      by_cases hwrite : (k + base).natAbs < 10 ^ digitLimit
      · simp only [writeInt_of_writable ((writable_iff _).2 hwrite)]
        exact .located m hm hshort hl hwrite
      · simp only [writeInt_of_not_writable (mt (writable_iff _).1 hwrite)]
        exact .unwritable m hm hshort hl (Nat.not_lt.1 hwrite)

/-- A number that was read is written again, moved by less than the size of the buffer. -/
theorem natAbs_lt_of_located (h : History) (hsize : h.buffer.size < 10 ^ digitLimit) {base k : Int}
    {m : Marker} {f : String} (hshort : m.number.length ≤ digitLimit)
    (hl : h.buffer.locate? (m.value - base) = some (f, k)) : (k + base).natAbs < 10 ^ digitLimit := by
  have hvalue : m.value < 10 ^ digitLimit :=
    m.value_lt.trans_le (Nat.pow_le_pow_right (by decide) hshort)
  have hin := h.laminar_buffer.in_range_of_located hl
  have hk := h.locate?_bounds hl
  generalize 10 ^ digitLimit = bound at *
  omega

/-- A line starts with a marker whose number has more digits than can be read. -/
def Overlong (line : String) (digits : Nat) : Prop :=
  ∃ m : Marker, m.line = line.toList ∧ m.number.length = digits ∧ digitLimit < digits

theorem not_overlong_of_short {m : Marker} {line : String} (hm : m.line = line.toList)
    (hshort : m.number.length ≤ digitLimit) (n : Nat) : ¬ Overlong line n := by
  rintro ⟨m', hm', rfl, hlong⟩
  rw [Marker.number_unique (hm'.trans hm.symm)] at hlong
  omega

theorem remapLine_eq_error_iff (h : History) (hsize : h.buffer.size < 10 ^ digitLimit) (base : Int)
    (line : String) (e : RemapError) :
    remapLine h.buffer base line = .error e ↔
      ∃ n, Overlong line n ∧ e = .numeral (.tooLongToRead n) := by
  have houtcome := remapLine_outcome h.laminar_buffer base line
  generalize remapLine h.buffer base line = result at houtcome
  cases houtcome with
  | unmarked hnone =>
    simp only [reduceCtorEq, false_iff]
    rintro ⟨n, ⟨m, hm, -⟩, -⟩
    exact hnone m hm
  | overlong m hm hlong =>
    constructor
    · rintro ⟨⟩
      exact ⟨_, ⟨m, hm, rfl, hlong⟩, rfl⟩
    · rintro ⟨n, ⟨m', hm', rfl, -⟩, rfl⟩
      rw [Marker.number_unique (hm.trans hm'.symm)]
  | outside m hm hshort _ =>
    simp only [reduceCtorEq, false_iff]
    rintro ⟨n, hn, -⟩
    exact not_overlong_of_short hm hshort n hn
  | unwritable m hm hshort hl hwrite =>
    exact absurd (natAbs_lt_of_located h hsize hshort hl) (Nat.not_lt.2 hwrite)
  | located m hm hshort hl _ =>
    simp only [reduceCtorEq, false_iff]
    rintro ⟨n, hn, -⟩
    exact not_overlong_of_short hm hshort n hn

theorem remapLine_located (h : History) (hsize : h.buffer.size < 10 ^ digitLimit) {base k : Int}
    {line f : String} {m : Marker} (hm : m.line = line.toList) (hshort : m.number.length ≤ digitLimit)
    (hl : h.buffer.locate? (m.value - base) = some (f, k)) :
    remapLine h.buffer base line =
      .ok (placed (chainText (chainFiles h.buffer (m.value - base))) (toString (k + base)) line) := by
  have houtcome := remapLine_outcome h.laminar_buffer base line
  generalize remapLine h.buffer base line = result at houtcome
  -- every marker of the line has the number of this one
  cases houtcome with
  | unmarked hnone => exact absurd hm (hnone m)
  | overlong m' hm' hlong => exact absurd ⟨m', hm', rfl, hlong⟩ (not_overlong_of_short hm hshort _)
  | outside m' hm' _ hout =>
    rw [Marker.value_unique (hm'.trans hm.symm)] at hout
    exact absurd (h.laminar_buffer.in_range_of_located hl) hout
  | unwritable m' hm' hshort' hl' hwrite =>
    exact absurd (natAbs_lt_of_located h hsize hshort' hl') (Nat.not_lt.2 hwrite)
  | located m' hm' _ hl' _ =>
    rw [Marker.value_unique (hm'.trans hm.symm)] at hl' ⊢
    rw [hl] at hl'
    cases hl'
    rfl

/-- A line whose marker is for a line of the buffer gets the include chain of that line in front, from
the file it comes from to the file of the first segment, and its number in the first of them. Any other
line stays as it is. -/
theorem remapLine_names_origin (h : History) (hsize : h.buffer.size < 10 ^ digitLimit) (base : Int)
    (line : String) (hshort : ∀ m : Marker, m.line = line.toList → m.number.length ≤ digitLimit) :
    ((¬ ∃ m : Marker, m.line = line.toList ∧ 0 ≤ m.value - base ∧ m.value - base < h.buffer.size) →
      remapLine h.buffer base line = .ok line) ∧
    ∀ m : Marker, m.line = line.toList → 0 ≤ m.value - base → m.value - base < h.buffer.size →
      ∃ f k root, h.buffer.locate? (m.value - base) = some (f, k) ∧
        h.buffer.segments[0]? = some root ∧
        remapLine h.buffer base line =
          .ok (chainText (chainFiles h.buffer (m.value - base)) ++ " | Line " ++ toString (k + base) ++
            " | " ++ line) ∧
        (h.buffer.segmentsAt (m.value - base)).reverse.Pairwise
          (fun inner outer => inner.isInside outer = true) ∧
        (chainFiles h.buffer (m.value - base)).head? = some f ∧
        (chainFiles h.buffer (m.value - base)).getLast? = some root.file := by
  have hb := h.laminar_buffer
  constructor
  · intro hnone
    have houtcome := remapLine_outcome hb base line
    generalize remapLine h.buffer base line = result at houtcome
    cases houtcome with
    | unmarked _ => rfl
    | overlong m hm hlong => exact absurd (hshort m hm) (Nat.not_le.2 hlong)
    | outside _ _ _ _ => rfl
    | unwritable m hm _ hl _ => exact absurd ⟨m, hm, hb.in_range_of_located hl⟩ hnone
    | located m hm _ hl _ => exact absurd ⟨m, hm, hb.in_range_of_located hl⟩ hnone
  · intro m hm hlow hhigh
    have hin : 0 ≤ m.value - base ∧ m.value - base < h.buffer.size := ⟨hlow, hhigh⟩
    obtain ⟨s, k, howner, hl⟩ := hb.exists_located hin
    obtain ⟨root, rest, hroot, -, -⟩ := hb.first
    have hroot : h.buffer.segments[0]? = some root := by rw [hroot, List.getElem?_cons_zero]
    refine ⟨s.file, k, root, hl, hroot, ?_, ?_, ?_, ?_⟩
    · exact remapLine_located h hsize hm (hshort m hm) hl
    · exact List.pairwise_reverse.2 (hb.segmentsAt_pairwise _)
    · rw [head?_chainFiles, howner, Option.map_some]
    · rw [getLast?_chainFiles hb hin, hroot, Option.map_some]

theorem lt_ten_pow_digitLimit {n : Nat} (h : n < 10) : n < 10 ^ digitLimit :=
  h.trans_le (Nat.le_self_pow (by decide) 10)

/-- A number in digits of another script, with lines counted from one. -/
theorem remapLine_names_origin_nested :
    let h : History := .splice (.load "a\ninclude\nb" "main") 1 (.load "x\ny" "util")
    let line := "\t0(٣)\t: bad"
    h.buffer.size < 10 ^ digitLimit ∧
      (∀ m : Marker, m.line = line.toList → m.number.length ≤ digitLimit) ∧
      remapLine h.buffer 1 line =
        .ok "File `util` included from File `main` | Line 2 | \t0(٣)\t: bad" := by
  intro h line
  let m : Marker := ⟨['\t'], ['0'], ['٣'], ['\t'], [' ', 'b', 'a', 'd'], List.all_eq_true.1 rfl, by simp,
    List.all_eq_true.1 rfl, by simp, List.all_eq_true.1 rfl, List.all_eq_true.1 rfl⟩
  have hm : m.line = line.toList := by decide +kernel
  have hvalue : m.value = 3 := by decide +kernel
  have hsize : h.buffer.size = 4 := by decide +kernel
  have hbound : h.buffer.size < 10 ^ digitLimit := lt_ten_pow_digitLimit (by omega)
  have hshort : ∀ m' : Marker, m'.line = line.toList → m'.number.length ≤ digitLimit := by
    intro m' hm'
    rw [Marker.number_unique (hm'.trans hm.symm)]
    decide
  have hlocated : h.buffer.locate? 2 = some ("util", 1) := by decide +kernel
  have hchain : chainFiles h.buffer 2 = ["util", "main"] := by decide +kernel
  obtain ⟨f, k, root, hl, -, hline, -⟩ :=
    (remapLine_names_origin h hbound 1 line hshort).2 m hm (by omega) (by omega)
  rw [hvalue] at hl hline
  obtain ⟨rfl, rfl⟩ : "util" = f ∧ (1 : Int) = k := by simpa using hlocated.symm.trans hl
  refine ⟨hbound, hshort, hline.trans ?_⟩
  rw [show ((3 : Nat) : Int) - 1 = 2 from rfl, hchain]
  decide +kernel

/-! ## Whole logs -/

theorem remapLines_eq_ok_iff (b : Buffer) (base : Int) (ls ls' : List String) :
    remapLines b base ls = .ok ls' ↔
      List.Forall₂ (fun line line' => remapLine b base line = .ok line') ls ls' := by
  induction ls generalizing ls' with
  | nil =>
    rw [remapLines, List.forall₂_nil_left_iff, Except.ok.injEq, eq_comm]
  | cons line rest ih =>
    rw [remapLines, List.forall₂_cons_left_iff]
    cases hline : remapLine b base line with
    | error e => simp
    | ok line' =>
      cases hrest : remapLines b base rest with
      | error e =>
        simp only [hrest, reduceCtorEq, false_iff] at ih ⊢
        rintro ⟨l', rest', -, hforall, -⟩
        exact ih rest' hforall
      | ok rest' =>
        simp only [hrest, Except.ok.injEq] at ih ⊢
        constructor
        · rintro rfl
          exact ⟨line', rest', rfl, (ih rest').1 rfl, rfl⟩
        · rintro ⟨l', r', rfl, hforall, rfl⟩
          rw [(ih r').2 hforall]

theorem getElem?_of_remapLines {b : Buffer} {base : Int} {ls ls' : List String}
    (h : remapLines b base ls = .ok ls') {i : Nat} {line : String} (hi : ls[i]? = some line) :
    ∃ line', ls'[i]? = some line' ∧ remapLine b base line = .ok line' := by
  obtain ⟨hlength, hlines⟩ := List.forall₂_iff_get.1 ((remapLines_eq_ok_iff b base ls ls').1 h)
  obtain ⟨hlt, rfl⟩ := List.getElem?_eq_some_iff.1 hi
  exact ⟨_, List.getElem?_eq_getElem (hlength ▸ hlt), hlines i hlt (hlength ▸ hlt)⟩

/-- The first line that fails ends the remapping. -/
theorem remapLines_eq_error_iff (b : Buffer) (base : Int) (ls : List String) (e : RemapError) :
    remapLines b base ls = .error e ↔
      ∃ before line after, ls = before ++ line :: after ∧
        (∀ l ∈ before, ∃ l', remapLine b base l = .ok l') ∧ remapLine b base line = .error e := by
  induction ls with
  | nil => simp [remapLines]
  | cons line rest ih =>
    cases hline : remapLine b base line with
    | error e' =>
      have hall : remapLines b base (line :: rest) = .error e' := by rw [remapLines, hline]
      rw [hall]
      constructor
      · rintro ⟨⟩
        exact ⟨[], line, rest, rfl, by simp, hline⟩
      · rintro ⟨before, l, after, hcut, hbefore, hl⟩
        cases before with
        | nil =>
          cases hcut
          rw [hline] at hl
          cases hl
          rfl
        | cons x before =>
          cases hcut
          obtain ⟨l', hl'⟩ := hbefore line (by simp)
          rw [hline] at hl'
          cases hl'
    | ok line' =>
      have hall : remapLines b base (line :: rest) = .error e ↔ remapLines b base rest = .error e := by
        rw [remapLines, hline]
        cases remapLines b base rest with
        | error e' => rfl
        | ok rest' => simp
      rw [hall, ih]
      constructor
      · rintro ⟨before, l, after, rfl, hbefore, hl⟩
        refine ⟨line :: before, l, after, rfl, ?_, hl⟩
        intro x hx
        rcases List.mem_cons.1 hx with rfl | hx
        · exact ⟨line', hline⟩
        · exact hbefore x hx
      · rintro ⟨before, l, after, hcut, hbefore, hl⟩
        cases before with
        | nil =>
          cases hcut
          rw [hline] at hl
          cases hl
        | cons x before =>
          cases hcut
          exact ⟨before, l, after, rfl, fun y hy => hbefore y (by simp [hy]), hl⟩

theorem remap_eq_error_iff (b : Buffer) (base : Int) (log : String) (e : RemapError) :
    remap b base log = .error e ↔ remapLines b base (logLines log) = .error e := by
  unfold remap
  cases remapLines b base (logLines log) with
  | error e' => simp
  | ok ls => simp

/-- A refusal holds the log as received, also an empty one, since there is nothing to remap then. -/
theorem compile_refused {α : Type} {compiler : String → Verdict α} {b : Buffer} {base : Int}
    {log mapped : String} (logger : Log.Logger) (hrefused : compiler b.text = .refused log)
    (hmapped : remap b base log = .ok mapped) :
    compile compiler b base logger = .ok (.error (.rejected mapped log), [refusalRecord logger b]) := by
  have hraw : Error.rejection mapped log = .rejected mapped log := by
    unfold Error.rejection
    split
    · next hempty =>
      subst hempty
      have hnothing : remap b base "" = .ok "" := rfl
      rw [hnothing] at hmapped
      cases hmapped
      rfl
    · rfl
  simp only [compile, hrefused, hmapped, hraw]

theorem first_overlong_of_error (h : History) (hsize : h.buffer.size < 10 ^ digitLimit) {base : Int}
    {log : String} {e : RemapError} (he : remap h.buffer base log = .error e) :
    ∃ before line after n, logLines log = before ++ line :: after ∧
      (∀ l ∈ before, ∀ k, ¬ Overlong l k) ∧ Overlong line n ∧ e = .numeral (.tooLongToRead n) := by
  rw [remap_eq_error_iff, remapLines_eq_error_iff] at he
  obtain ⟨before, line, after, hcut, hbefore, hline⟩ := he
  obtain ⟨n, hn, rfl⟩ := (remapLine_eq_error_iff h hsize base line e).1 hline
  refine ⟨before, line, after, n, hcut, ?_, hn, rfl⟩
  intro l hl k hk
  obtain ⟨l', hl'⟩ := hbefore l hl
  rw [(remapLine_eq_error_iff h hsize base l _).2 ⟨k, hk, rfl⟩] at hl'
  cases hl'

/-- A log cannot be remapped exactly when one of its lines has a marker with an overlong number, and the
first such line is what the error is about. Any other log is remapped, and a compiler that gave it is
reported with both logs. -/
theorem remap_fails_iff_overlong (h : History) (hsize : h.buffer.size < 10 ^ digitLimit) (base : Int)
    (log : String) :
    ((∃ e, remap h.buffer base log = .error e) ↔ ∃ line ∈ logLines log, ∃ n, Overlong line n) ∧
    (∀ e, remap h.buffer base log = .error e →
      ∃ before line after n, logLines log = before ++ line :: after ∧
        (∀ l ∈ before, ∀ k, ¬ Overlong l k) ∧ Overlong line n ∧
        e = .numeral (.tooLongToRead n)) ∧
    ((∀ line ∈ logLines log, ∀ n, ¬ Overlong line n) →
      ∃ mapped, remap h.buffer base log = .ok mapped ∧
        ∀ {α : Type} (compiler : String → Verdict α) (logger : Log.Logger),
          compiler h.buffer.text = .refused log →
          compile compiler h.buffer base logger =
            .ok (.error (.rejected mapped log), [refusalRecord logger h.buffer])) := by
  refine ⟨⟨?_, ?_⟩, fun e he => first_overlong_of_error h hsize he, ?_⟩
  · rintro ⟨e, he⟩
    obtain ⟨before, line, after, n, hcut, -, hn, -⟩ := first_overlong_of_error h hsize he
    exact ⟨line, by simp [hcut], n, hn⟩
  · rintro ⟨line, hline, n, hn⟩
    cases hremap : remapLines h.buffer base (logLines log) with
    | error e => exact ⟨e, (remap_eq_error_iff _ _ _ _).2 hremap⟩
    | ok ls =>
      obtain ⟨i, hi⟩ := List.mem_iff_getElem?.1 hline
      obtain ⟨line', -, hline'⟩ := getElem?_of_remapLines hremap hi
      rw [(remapLine_eq_error_iff h hsize base line _).2 ⟨n, hn, rfl⟩] at hline'
      cases hline'
  · intro hshort
    cases hremap : remap h.buffer base log with
    | error e =>
      obtain ⟨before, line, after, n, hcut, -, hn, -⟩ := first_overlong_of_error h hsize hremap
      exact absurd hn (hshort line (by simp [hcut]) n)
    | ok mapped => exact ⟨mapped, rfl, fun compiler logger hc => compile_refused logger hc hremap⟩

/-- A log that fails at its second line, and one whose second line is about a line of the buffer. -/
theorem remap_fails_iff_overlong_second :
    let h : History := .load "a" "main"
    let long := String.ofList ('0' :: '(' :: (List.replicate (digitLimit + 1) '7' ++ [')', ':']))
    let short := "note\n0(0) : bad"
    let mapped := "note\nFile `main` | Line 0 | 0(0) : bad\n"
    h.buffer.size < 10 ^ digitLimit ∧
      (∃ e, remap h.buffer 0 (String.join (["note", long].map (· ++ "\n"))) = .error e) ∧
      remap h.buffer 0 short = .ok mapped ∧
      compile (fun _ => (.refused short : Verdict Unit)) h.buffer 0 (.shared "compile") =
        .ok (.error (.rejected mapped short), [refusalRecord (.shared "compile") h.buffer]) := by
  intro h long short mapped
  have hsize : h.buffer.size = 1 := by decide +kernel
  have hbound : h.buffer.size < 10 ^ digitLimit := lt_ten_pow_digitLimit (by omega)
  have hdigits : ∀ c ∈ List.replicate (digitLimit + 1) '7', isDigit c = true := by
    intro c hc
    rw [List.eq_of_mem_replicate hc]
    rfl
  have hlong : Overlong long (digitLimit + 1) :=
    ⟨⟨[], ['0'], List.replicate (digitLimit + 1) '7', [], [], by simp, by simp, List.all_eq_true.1 rfl,
      by simp, hdigits, by simp⟩, by simp [Marker.line, long], by simp, Nat.lt_succ_self _⟩
  have hbreaks : ∀ l ∈ ["note", long], ∀ c ∈ l.toList, isLineBreak c = false := by
    have hchars : ∀ c ∈ long.toList, isLineBreak c = false := by
      intro c hc
      have hc : c = '0' ∨ c = '(' ∨ c = '7' ∨ c = ')' ∨ c = ':' := by
        simpa [long] using hc
      rcases hc with rfl | rfl | rfl | rfl | rfl <;> rfl
    intro l hl
    rcases List.mem_pair.1 hl with rfl | rfl
    · intro c hc
      have hall : "note".toList.all (!isLineBreak ·) = true := by decide +kernel
      simpa using List.all_eq_true.1 hall c hc
    · exact hchars
  refine ⟨hbound, (remap_fails_iff_overlong h hbound 0 _).1.2 ⟨long, ?_, _, hlong⟩, ?_⟩
  · rw [logLines_join _ hbreaks]
    simp
  · let m : Marker := ⟨[], ['0'], ['0'], [' '], [' ', 'b', 'a', 'd'], by simp, by simp,
      List.all_eq_true.1 rfl, by simp, List.all_eq_true.1 rfl, List.all_eq_true.1 rfl⟩
    have hlines : logLines short = ["note", "0(0) : bad"] := by decide +kernel
    have hshort : ∀ line ∈ logLines short, ∀ n, ¬ Overlong line n := by
      intro line hline n
      rw [hlines] at hline
      rcases List.mem_pair.1 hline with rfl | rfl
      · rintro ⟨m', hm', -⟩
        exact (marker?_eq_none_iff "note").1 (by decide +kernel) m' hm'
      · exact not_overlong_of_short (m := m) (by decide +kernel) (by decide) n
    obtain ⟨mapped', hmapped', hcompile⟩ := (remap_fails_iff_overlong h hbound 0 short).2.2 hshort
    have hmapped : remap h.buffer 0 short = .ok mapped := by decide +kernel
    cases hmapped.symm.trans hmapped'
    exact ⟨hmapped, hcompile _ _ rfl⟩

end Diagnostic
end ShaderInclude
