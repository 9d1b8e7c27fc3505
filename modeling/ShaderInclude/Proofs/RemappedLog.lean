import Mathlib
import ShaderInclude.Proofs.Remapping

/-!
# ShaderInclude.Proofs.RemappedLog

A remapped log has the lines of the log it was made from, one for one, and remapping it again changes
nothing. A line that was put after its place of origin starts with the word `File`, so it has no marker;
a line that was left alone is left alone again. No line break gets in, neither by the chain, if the names
of the files have none, nor by the number.

* `remapLine_ok_cases`: a remapped line is the line itself or the line after a place of origin.
* `remapLine_remapLine`, `breakFree_remapLine`: what one line keeps.
* `remapLines_logLines`: the lines of a remapped log are the remapped lines of the log.
* `remap_keeps_lines`: both, for whole logs.
-/

namespace ShaderInclude
namespace Text

/-! ## Texts on one line -/

def BreakFree (s : String) : Prop :=
  ∀ c ∈ s.toList, isLineBreak c = false

theorem BreakFree.append {s t : String} (hs : BreakFree s) (ht : BreakFree t) : BreakFree (s ++ t) := by
  intro c hc
  rw [String.toList_append, List.mem_append] at hc
  rcases hc with hc | hc
  · exact hs c hc
  · exact ht c hc

theorem isLineBreak_of_isDigit {c : Char} (h : c.isDigit = true) : isLineBreak c = false := by
  simp only [Char.isDigit, Bool.and_eq_true, decide_eq_true_eq, UInt32.le_iff_toNat_le] at h
  have hlow : 48 ≤ c.toNat := h.1
  have hhigh : c.toNat ≤ 57 := h.2
  simp only [isLineBreak, List.mem_cons, List.not_mem_nil, or_false, decide_eq_false_iff_not]
  omega

theorem breakFree_natRepr (n : Nat) : BreakFree n.repr := by
  intro c hc
  rw [Nat.repr, String.toList_ofList] at hc
  exact isLineBreak_of_isDigit (Nat.isDigit_of_mem_toDigits (by decide) (by decide) hc)

theorem breakFree_toString (n : Int) : BreakFree (toString n) := by
  cases n with
  | ofNat n => exact breakFree_natRepr n
  | negSucc n =>
    have hsign : BreakFree "-" := by simp [BreakFree, isLineBreak]
    exact hsign.append (breakFree_natRepr (n + 1))

end Text

namespace Diagnostic

open Text Buffer

theorem breakFree_chainText (files : List String) (h : ∀ f ∈ files, BreakFree f) :
    BreakFree (chainText files) := by
  have hword : ∀ f, BreakFree f → BreakFree ("File `" ++ f ++ "`") := by
    intro f hf
    have hfront : BreakFree "File `" := by simp [BreakFree, isLineBreak]
    exact (hfront.append hf).append (by simp [BreakFree, isLineBreak])
  induction files with
  | nil => simp [chainText, BreakFree]
  | cons f files ih =>
    have hf := hword f (h f (by simp))
    cases files with
    | nil => simpa [chainText] using hf
    | cons g files =>
      have hrest := ih fun f' hf' => h f' (by simp [hf'])
      have hsign : BreakFree " included from " := by simp [BreakFree, isLineBreak]
      rw [chainText, List.map_cons, List.map_cons, String.intercalate_cons_cons]
      exact (hf.append hsign).append hrest

/-! ## One line -/

theorem remapLine_ok_cases {b : Buffer} (hb : b.Laminar) {base : Int} {line line' : String}
    (h : remapLine b base line = .ok line') :
    line' = line ∨ ∃ i n : Int, chainFiles b i ≠ [] ∧
      line' = placed (chainText (chainFiles b i)) (toString n) line := by
  have houtcome := remapLine_outcome hb base line
  rw [h] at houtcome
  cases houtcome with
  | unmarked _ => exact .inl rfl
  | outside _ _ _ _ => exact .inl rfl
  | located m _ _ hl _ => exact .inr ⟨_, _, chainFiles_ne_nil hb (hb.in_range_of_located hl), rfl⟩

theorem remapLine_unmarked {line : String} (b : Buffer) (base : Int)
    (h : ∀ m : Marker, m.line ≠ line.toList) : remapLine b base line = .ok line := by
  rw [remapLine, (marker?_eq_none_iff line).2 h]

/-- A line after its place of origin has no marker. -/
theorem placed_unmarked {files : List String} (hne : files ≠ []) (number line : String) (m : Marker) :
    m.line ≠ (placed (chainText files) number line).toList := by
  intro hm
  obtain ⟨f, rest, rfl⟩ := List.exists_cons_of_ne_nil hne
  obtain ⟨c, cs, hcs, hc⟩ := m.head_line
  have hfirst : (placed (chainText (f :: rest)) number line).toList.head? = some 'F' := by
    cases rest with
    | nil => simp [placed, chainText]
    | cons g rest => simp [placed, chainText, String.intercalate_cons_cons]
  rw [← hm, hcs] at hfirst
  cases hfirst
  revert hc
  decide

theorem remapLine_remapLine {b : Buffer} (hb : b.Laminar) {base : Int} {line line' : String}
    (h : remapLine b base line = .ok line') : remapLine b base line' = .ok line' := by
  rcases remapLine_ok_cases hb h with rfl | ⟨i, n, hne, rfl⟩
  · exact h
  · exact remapLine_unmarked b base (placed_unmarked hne _ line)

theorem breakFree_remapLine {b : Buffer} (hb : b.Laminar) (hfiles : ∀ s ∈ b.segments, BreakFree s.file)
    {base : Int} {line line' : String} (hline : BreakFree line)
    (h : remapLine b base line = .ok line') : BreakFree line' := by
  rcases remapLine_ok_cases hb h with rfl | ⟨i, n, -, rfl⟩
  · exact hline
  · have hchain : BreakFree (chainText (chainFiles b i)) := by
      refine breakFree_chainText _ ?_
      intro f hf
      obtain ⟨s, hs, rfl⟩ := List.mem_map.1 hf
      exact hfiles s (List.mem_filter.1 (List.mem_reverse.1 hs)).1
    have hword : BreakFree " | Line " := by simp [BreakFree, isLineBreak]
    have hbar : BreakFree " | " := by simp [BreakFree, isLineBreak]
    exact (((hchain.append hword).append (breakFree_toString n)).append hbar).append hline

/-! ## Whole logs -/

theorem remap_eq_ok_iff (b : Buffer) (base : Int) (log mapped : String) :
    remap b base log = .ok mapped ↔
      ∃ ls, remapLines b base (logLines log) = .ok ls ∧ mapped = String.join (ls.map (· ++ "\n")) := by
  unfold remap
  cases remapLines b base (logLines log) with
  | error e => simp
  | ok ls => simp [eq_comm]

theorem exists_of_mem_remapLines {b : Buffer} {base : Int} {ls ls' : List String}
    (h : remapLines b base ls = .ok ls') {line' : String} (hline' : line' ∈ ls') :
    ∃ line ∈ ls, remapLine b base line = .ok line' := by
  obtain ⟨hlength, hlines⟩ := List.forall₂_iff_get.1 ((remapLines_eq_ok_iff b base ls ls').1 h)
  obtain ⟨i, hi, rfl⟩ := List.mem_iff_getElem.1 hline'
  exact ⟨_, List.getElem_mem (hlength ▸ hi), hlines i (hlength ▸ hi) hi⟩

/-- The lines of a remapped log are the remapped lines of the log. -/
theorem remapLines_logLines {b : Buffer} (hb : b.Laminar) (hfiles : ∀ s ∈ b.segments, BreakFree s.file)
    {base : Int} {log mapped : String} (h : remap b base log = .ok mapped) :
    remapLines b base (logLines log) = .ok (logLines mapped) ∧
      mapped = String.join ((logLines mapped).map (· ++ "\n")) := by
  obtain ⟨ls, hls, rfl⟩ := (remap_eq_ok_iff b base log mapped).1 h
  have hback : logLines (String.join (ls.map (· ++ "\n"))) = ls := by
    refine logLines_join ls ?_
    intro line' hline'
    obtain ⟨line, hline, hremap⟩ := exists_of_mem_remapLines hls hline'
    exact breakFree_remapLine hb hfiles (isLineBreak_eq_false_of_mem_logLines hline) hremap
  rw [hback]
  exact ⟨hls, rfl⟩

/-- A remapped log has as many lines as the log, each the remapped line of the log and ending with it,
and it is remapped to itself. -/
theorem remap_keeps_lines (h : History) (hfiles : ∀ s ∈ h.buffer.segments, BreakFree s.file) (base : Int)
    (log mapped : String) (hok : remap h.buffer base log = .ok mapped) :
    (logLines mapped).length = (logLines log).length ∧
    (∀ (i : Nat) (line : String), (logLines log)[i]? = some line →
      ∃ line' front, (logLines mapped)[i]? = some line' ∧
        remapLine h.buffer base line = .ok line' ∧ line' = front ++ line) ∧
    remap h.buffer base mapped = .ok mapped := by
  have hb := h.laminar_buffer
  obtain ⟨hlines, hjoin⟩ := remapLines_logLines hb hfiles hok
  refine ⟨((remapLines_eq_ok_iff _ _ _ _).1 hlines).length_eq.symm, ?_, ?_⟩
  · intro i line hi
    obtain ⟨line', hi', hremap⟩ := getElem?_of_remapLines hlines hi
    rcases remapLine_ok_cases hb hremap with rfl | ⟨j, n, -, rfl⟩
    · exact ⟨line', "", hi', hremap, by simp⟩
    · exact ⟨_, _, hi', hremap, rfl⟩
  · rw [remap_eq_ok_iff]
    refine ⟨logLines mapped, ?_, hjoin⟩
    rw [remapLines_eq_ok_iff, List.forall₂_same]
    intro line' hline'
    obtain ⟨line, -, hremap⟩ := exists_of_mem_remapLines hlines hline'
    exact remapLine_remapLine hb hremap

/-- A log with two kinds of line end: a line with a marker, one for a line that is not there, and one
without a marker. -/
theorem remap_keeps_lines_mixed :
    let h : History := .splice (.load "a\ninclude\nb" "main") 1 (.load "x\ny" "util")
    let log := "0(2) : bad\r\n0(9) : gone\u2028note"
    let mapped := "File `util` included from File `main` | Line 1 | 0(2) : bad\n0(9) : gone\nnote\n"
    (∀ s ∈ h.buffer.segments, BreakFree s.file) ∧ remap h.buffer 0 log = .ok mapped ∧
      (logLines mapped).length = (logLines log).length ∧ remap h.buffer 0 mapped = .ok mapped := by
  intro h log mapped
  have hsegments : h.buffer.segments.map Segment.file = ["main", "util"] := by decide +kernel
  have hfiles : ∀ s ∈ h.buffer.segments, BreakFree s.file := by
    intro s hs
    have hmem : s.file ∈ ["main", "util"] := hsegments ▸ List.mem_map_of_mem hs
    rcases List.mem_pair.1 hmem with hfile | hfile
    · rw [hfile]
      simp [BreakFree, isLineBreak]
    · rw [hfile]
      simp [BreakFree, isLineBreak]
  have hok : remap h.buffer 0 log = .ok mapped := by decide +kernel
  obtain ⟨hlength, -, hagain⟩ := remap_keeps_lines h hfiles 0 log mapped hok
  exact ⟨hfiles, hok, hlength, hagain⟩

end Diagnostic
end ShaderInclude
