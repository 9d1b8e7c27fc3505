/-!
# ShaderInclude.Text.Split

Cutting a text at separator characters and putting the pieces together again. A text cut at
newlines always has at least one line; `unlines_lines` says that nothing is lost, and `lines_unlines`
that lines without a newline in them survive the way back.

Two more ways to read line ends stand beside it: `logLines` cuts a compiler log at every line
boundary of Unicode, with `logLines_join` for the way back from lines that end with a newline, and
`foldNewlines` reads the three common line ends as a newline.
-/

namespace ShaderInclude
namespace Text

/-- The pieces between the characters that satisfy `sep`, empty pieces included. -/
def splitWhere (sep : Char → Bool) : List Char → List (List Char)
  | [] => [[]]
  | c :: cs =>
    if sep c then [] :: splitWhere sep cs
    else
      match splitWhere sep cs with
      | [] => [[c]]
      | piece :: pieces => (c :: piece) :: pieces

/-- Pieces with `sep` between them. -/
def joinWith (sep : Char) : List (List Char) → List Char
  | [] => []
  | [piece] => piece
  | piece :: pieces => piece ++ sep :: joinWith sep pieces

/-- The lines of a text: the pieces between its newlines. -/
def lines (s : String) : List String :=
  (splitWhere (· == '\n') s.toList).map String.ofList

/-- Pieces joined by a separator. -/
def unsplit (sep : Char) (pieces : List String) : String :=
  String.ofList (joinWith sep (pieces.map String.toList))

/-- Lines joined by newlines. -/
def unlines (ls : List String) : String :=
  unsplit '\n' ls

/-- The characters, other than a carriage return before a newline, that end a line of a log. -/
def isLineBreak (c : Char) : Bool :=
  c.toNat ∈ [10, 11, 12, 13, 28, 29, 30, 133, 8232, 8233]

/-- The lines of a log, without their ends; a final line end opens no further line. -/
def splitLineBreaks : List Char → List (List Char)
  | [] => []
  | '\r' :: '\n' :: cs => [] :: splitLineBreaks cs
  | c :: cs =>
    if isLineBreak c then [] :: splitLineBreaks cs
    else
      match splitLineBreaks cs with
      | [] => [[c]]
      | piece :: pieces => (c :: piece) :: pieces

def logLines (s : String) : List String :=
  (splitLineBreaks s.toList).map String.ofList

/-- Carriage returns, with or without a newline after them, read as newlines. -/
def foldNewlineChars : List Char → List Char
  | [] => []
  | '\r' :: '\n' :: cs => '\n' :: foldNewlineChars cs
  | c :: cs => (if c = '\r' then '\n' else c) :: foldNewlineChars cs

def foldNewlines (s : String) : String :=
  String.ofList (foldNewlineChars s.toList)

theorem splitWhere_ne_nil (sep : Char → Bool) (cs : List Char) : splitWhere sep cs ≠ [] := by
  cases cs with
  | nil => simp [splitWhere]
  | cons c cs =>
    rw [splitWhere]
    split
    · simp
    · split <;> simp

theorem joinWith_cons (sep : Char) (piece : List Char) (pieces : List (List Char))
    (h : pieces ≠ []) : joinWith sep (piece :: pieces) = piece ++ sep :: joinWith sep pieces := by
  cases pieces with
  | nil => exact absurd rfl h
  | cons p ps => rfl

theorem mem_joinWith {sep c : Char} {pieces : List (List Char)} (h : c ∈ joinWith sep pieces) :
    c = sep ∨ ∃ piece ∈ pieces, c ∈ piece := by
  induction pieces with
  | nil => cases h
  | cons piece pieces ih =>
    by_cases hne : pieces = []
    · subst hne
      exact .inr ⟨piece, by simp, h⟩
    · rw [joinWith_cons sep piece pieces hne] at h
      rcases List.mem_append.1 h with h | h
      · exact .inr ⟨piece, by simp, h⟩
      · rcases List.mem_cons.1 h with h | h
        · exact .inl h
        · exact (ih h).imp id fun ⟨q, hq, hc⟩ => ⟨q, by simp [hq], hc⟩

theorem joinWith_splitWhere (sep : Char) (cs : List Char) :
    joinWith sep (splitWhere (· == sep) cs) = cs := by
  induction cs with
  | nil => rfl
  | cons c cs ih =>
    have hne := splitWhere_ne_nil (· == sep) cs
    rw [splitWhere]
    by_cases hc : c = sep
    · simp only [hc, beq_self_eq_true, if_true]
      rw [joinWith_cons _ _ _ hne, ih]
      rfl
    · simp only [beq_iff_eq, hc, if_false]
      cases hs : splitWhere (· == sep) cs with
      | nil => exact absurd hs hne
      | cons p ps =>
        rw [hs] at ih
        cases ps with
        | nil => simp [joinWith] at ih ⊢; exact ih
        | cons q qs => simp [joinWith] at ih ⊢; exact ih

theorem splitWhere_of_none (sep : Char → Bool) (cs : List Char) (h : ∀ c ∈ cs, sep c = false) :
    splitWhere sep cs = [cs] := by
  induction cs with
  | nil => rfl
  | cons c cs ih =>
    rw [splitWhere, h c (by simp), ih (fun d hd => h d (by simp [hd]))]
    rfl

/-- A separator cuts a text in two, and each side is cut on its own. -/
theorem splitWhere_append_sep (sep : Char → Bool) (cs : List Char) (s : Char) (ds : List Char)
    (hs : sep s = true) :
    splitWhere sep (cs ++ s :: ds) = splitWhere sep cs ++ splitWhere sep ds := by
  induction cs with
  | nil => simp [splitWhere, hs]
  | cons c cs ih =>
    rw [List.cons_append, splitWhere, splitWhere, ih]
    by_cases hc : sep c = true
    · rw [if_pos hc, if_pos hc, List.cons_append]
    · rw [if_neg hc, if_neg hc]
      cases hpieces : splitWhere sep cs with
      | nil => exact absurd hpieces (splitWhere_ne_nil sep cs)
      | cons piece pieces => rfl

theorem splitWhere_append_cons (sep : Char → Bool) (piece : List Char) (s : Char)
    (cs : List Char) (hs : sep s = true) (h : ∀ c ∈ piece, sep c = false) :
    splitWhere sep (piece ++ s :: cs) = piece :: splitWhere sep cs := by
  rw [splitWhere_append_sep sep piece s cs hs, splitWhere_of_none sep piece h, List.singleton_append]

/-- Two sets of separators cut a text alike if they have the same of its characters. -/
theorem splitWhere_congr {sep sep' : Char → Bool} {cs : List Char} (h : ∀ c ∈ cs, sep c = sep' c) :
    splitWhere sep cs = splitWhere sep' cs := by
  induction cs with
  | nil => rfl
  | cons c cs ih =>
    rw [splitWhere, splitWhere, h c (by simp), ih fun d hd => h d (by simp [hd])]

/-- Pieces that hold no separator come back from their joining, by any set of separators that has the
joining one. -/
theorem splitWhere_joinWith (sep : Char → Bool) (s : Char) (hs : sep s = true)
    (pieces : List (List Char)) (hne : pieces ≠ []) (h : ∀ p ∈ pieces, ∀ c ∈ p, sep c = false) :
    splitWhere sep (joinWith s pieces) = pieces := by
  induction pieces with
  | nil => exact absurd rfl hne
  | cons p ps ih =>
    have hp := h p (by simp)
    cases ps with
    | nil => exact splitWhere_of_none _ p hp
    | cons q qs =>
      rw [joinWith_cons _ _ _ (by simp), splitWhere_append_cons _ p s _ hs hp,
        ih (by simp) (fun r hr => h r (by simp [hr]))]

theorem sep_eq_false_of_mem_splitWhere (sep : Char → Bool) (cs p : List Char)
    (hp : p ∈ splitWhere sep cs) : ∀ c ∈ p, sep c = false := by
  induction cs generalizing p with
  | nil =>
    obtain rfl : p = [] := by simpa [splitWhere] using hp
    simp
  | cons c cs ih =>
    rw [splitWhere] at hp
    split at hp
    · rcases List.mem_cons.1 hp with rfl | hp
      · simp
      · exact ih p hp
    · next hc =>
      have hc : sep c = false := by simpa using hc
      split at hp
      · obtain rfl : p = [c] := by simpa using hp
        simpa using hc
      · next q qs hq =>
        rcases List.mem_cons.1 hp with rfl | hp
        · have hrest := ih q (by rw [hq]; simp)
          simpa [hc] using hrest
        · exact ih p (by rw [hq]; simp [hp])

theorem lines_ne_nil (s : String) : lines s ≠ [] := by
  simp [lines, splitWhere_ne_nil]

theorem unlines_lines (s : String) : unlines (lines s) = s := by
  have h : (lines s).map String.toList = splitWhere (· == '\n') s.toList := by
    simp [lines, Function.comp_def]
  rw [unlines, unsplit, h, joinWith_splitWhere, String.ofList_toList]

theorem no_newline_of_mem_lines {s l : String} (h : l ∈ lines s) : '\n' ∉ l.toList := by
  obtain ⟨piece, hpiece, rfl⟩ := List.mem_map.1 h
  rw [String.toList_ofList]
  intro hmem
  simpa using sep_eq_false_of_mem_splitWhere _ s.toList piece hpiece '\n' hmem

theorem lines_unlines (ls : List String) (hne : ls ≠ []) (h : ∀ l ∈ ls, '\n' ∉ l.toList) :
    lines (unlines ls) = ls := by
  rw [lines, unlines, unsplit, String.toList_ofList,
    splitWhere_joinWith _ '\n' (by simp) _ (by simp [hne])]
  · simp [Function.comp_def]
  · intro p hp c hc
    obtain ⟨l, hl, rfl⟩ := List.mem_map.1 hp
    rw [beq_eq_false_iff_ne]
    rintro rfl
    exact h l hl hc

/-! ## Lines of a log -/

theorem isLineBreak_eq_false_of_mem_splitLineBreaks (cs p : List Char)
    (hp : p ∈ splitLineBreaks cs) : ∀ c ∈ p, isLineBreak c = false := by
  fun_induction splitLineBreaks cs generalizing p with
  | case1 => cases hp
  | case2 cs ih =>
    rcases List.mem_cons.1 hp with rfl | hp
    · simp
    · exact ih p hp
  | case3 c cs _ hc ih =>
    rcases List.mem_cons.1 hp with rfl | hp
    · simp
    · exact ih p hp
  | case4 c cs _ hc hnil ih =>
    obtain rfl : p = [c] := by simpa using hp
    simpa using hc
  | case5 c cs _ hc q qs hq ih =>
    have hc : isLineBreak c = false := by simpa using hc
    rcases List.mem_cons.1 hp with rfl | hp
    · have hrest := ih q (by rw [hq]; simp)
      simpa [hc] using hrest
    · exact ih p (by rw [hq]; simp [hp])

theorem splitLineBreaks_append_newline (piece cs : List Char)
    (h : ∀ c ∈ piece, isLineBreak c = false) :
    splitLineBreaks (piece ++ '\n' :: cs) = piece :: splitLineBreaks cs := by
  induction piece with
  | nil => simp [splitLineBreaks, isLineBreak]
  | cons c piece ih =>
    have hc := h c (by simp)
    have hreturn : c ≠ '\r' := by
      rintro rfl
      exact absurd hc (by decide)
    rw [List.cons_append, splitLineBreaks, hc, ih fun d hd => h d (by simp [hd])]
    · rfl
    · intro rest heq _
      exact hreturn heq

/-- A log written with a newline after each line has these lines. -/
theorem logLines_join (ls : List String) (h : ∀ l ∈ ls, ∀ c ∈ l.toList, isLineBreak c = false) :
    logLines (String.join (ls.map (· ++ "\n"))) = ls := by
  have hchars : splitLineBreaks (String.join (ls.map (· ++ "\n"))).toList = ls.map String.toList := by
    induction ls with
    | nil => rfl
    | cons l ls ih =>
      have hl := h l (by simp)
      rw [List.map_cons, String.join_cons, String.toList_append, String.toList_append, List.append_assoc,
        List.map_cons, ← ih fun k hk => h k (by simp [hk])]
      exact splitLineBreaks_append_newline l.toList _ hl
  rw [logLines, hchars]
  simp [Function.comp_def]

theorem isLineBreak_eq_false_of_mem_logLines {s l : String} (h : l ∈ logLines s) :
    ∀ c ∈ l.toList, isLineBreak c = false := by
  obtain ⟨piece, hpiece, rfl⟩ := List.mem_map.1 h
  rw [String.toList_ofList]
  exact isLineBreak_eq_false_of_mem_splitLineBreaks s.toList piece hpiece

end Text
end ShaderInclude
