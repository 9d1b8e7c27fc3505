import ShaderInclude.Diagnostic.Compile
import ShaderInclude.Proofs.Nesting

/-!
# ShaderInclude.Proofs.MergedText

The lines of a buffer are the lines of its text. A compiler sees the text alone and counts lines by its
newlines, so the numbers in its log name lines of the buffer only if no line holds a newline and there is
at least one line. Loading a text gives such lines, and every edit keeps them so, because what it puts in
is again such lines.

* `Text.toList_lines`: `Text.lines` cuts a text as the library's `List.splitOn` does.
* `newlineFree_ofText`, `NewlineFree.grafted`, `NewlineFree.blanked`: what one edit keeps;
  `History.newlineFree_buffer`: what a history keeps.
* `History.text_matches_lines`: text and lines agree, up to what the compiler reads.
-/

namespace ShaderInclude

namespace Text

theorem splitWhere_eq_splitOnP (sep : Char → Bool) (cs : List Char) :
    splitWhere sep cs = cs.splitOnP sep := by
  induction cs with
  | nil => rfl
  | cons c cs ih =>
    rw [splitWhere, List.splitOnP_cons_eq_if_modifyHead, ih]
    split
    · rfl
    · cases hpieces : cs.splitOnP sep with
      | nil => exact absurd hpieces (List.splitOnP_ne_nil sep cs)
      | cons piece pieces => rfl

theorem toList_lines (s : String) : (lines s).map String.toList = s.toList.splitOn '\n' := by
  rw [List.splitOn_eq_splitOnP, ← splitWhere_eq_splitOnP, lines, List.map_map]
  simp [Function.comp_def]

end Text

namespace Buffer

theorem text_ofText (text file : String) : (ofText text file).text = text :=
  Text.unlines_lines text

/-! ## Lines without newlines -/

def NewlineFree (b : Buffer) : Prop :=
  ∀ l ∈ b.lines, '\n' ∉ l.toList

theorem newlineFree_ofText (text file : String) : (ofText text file).NewlineFree := by
  intro l hl
  exact Text.no_newline_of_mem_lines hl

theorem NewlineFree.grafted {b nested : Buffer} (h : b.NewlineFree) (hn : nested.NewlineFree)
    (line : Int) : (b.grafted line nested).NewlineFree := by
  intro l hl
  simp only [Buffer.grafted, List.mem_append] at hl
  rcases hl with (hl | hl) | hl
  · exact h l (List.mem_of_mem_take hl)
  · exact hn l hl
  · exact h l (List.mem_of_mem_drop hl)

theorem NewlineFree.blanked {b : Buffer} (h : b.NewlineFree) (i : Nat) :
    (b.blanked i).NewlineFree := by
  intro l hl
  rcases List.mem_or_eq_of_mem_set hl with hl | rfl
  · exact h l hl
  · simp

theorem History.newlineFree_buffer (h : History) : h.buffer.NewlineFree := by
  apply buffer_induction newlineFree_ofText
  · intro b nested line _ _ _ hb hn
    exact hb.grafted hn line
  · intro b i hb
    exact hb.blanked i

theorem NewlineFree.lines_text {b : Buffer} (h : b.NewlineFree) (hpos : 0 < b.size) :
    Text.lines b.text = b.lines :=
  Text.lines_unlines b.lines (List.length_pos_iff.1 hpos) h

/-! ## What a compiler reads -/

/-- A text comes back from its buffer. After any history the text of a buffer has the lines of the buffer,
none with a newline in it, and a compiler that reads its text line by line reads those. -/
theorem History.text_matches_lines (h : History) :
    (∀ text file, (ofText text file).text = text) ∧
    (∀ l ∈ h.buffer.lines, '\n' ∉ l.toList) ∧
    Text.lines h.buffer.text = h.buffer.lines ∧
    h.buffer.text.toList.splitOn '\n' = h.buffer.lines.map String.toList ∧
    ∀ {α : Type} (read : List String → Diagnostic.Verdict α) (base : Int) (logger : Log.Logger),
      Diagnostic.compile (fun source => read (Text.lines source)) h.buffer base logger =
        Diagnostic.compile (fun _ => read h.buffer.lines) h.buffer base logger := by
  have hlines := h.newlineFree_buffer.lines_text h.laminar_buffer.size_pos
  refine ⟨text_ofText, h.newlineFree_buffer, hlines, ?_, ?_⟩
  · rw [← Text.toList_lines, hlines]
  · intro α read base logger
    simp only [Diagnostic.compile, hlines]

end Buffer
end ShaderInclude
