import ShaderInclude.Directive

/-!
# ShaderInclude.Proofs.DirectiveGrammar

The grammar of directive lines. `Pieces` are the pieces that a directive line is put together from, and
`Pieces.WellFormed` says what each of them may be. The pieces are not determined by the line: spaces
after the keyword can be spaces before the target or part of it, and beside the pieces with a delimited
target there may be pieces with nothing but the spaces before it as a target. What a line names is
determined all the same.

* `afterKeyword_eq_some_iff`: up to the keyword the pieces are determined.
* `exists_written`, `trimChars_operand`: after it, what is read is one way to cut out the target, and
  every way to cut out a target that is not blank leaves the same, up to blanks.
* `target?_eq_some_iff_names`: a line names a target exactly when the grammar says so.
-/

namespace ShaderInclude
namespace Directive

open Text

/-! ## The grammar -/

/-- Nothing, or `pragma` and at least one blank. -/
def IsPragma (cs : List Char) : Prop :=
  cs = [] ∨ ∃ blanks, blanks ≠ [] ∧ (∀ c ∈ blanks, isBlank c = true) ∧ cs = pragma ++ blanks

/-- What a directive line is put together from: blanks before and after the sign, `pragma`, a number of
spaces after the keyword, the opening delimiter, the target as written, and what follows it. -/
structure Pieces where
  lead : List Char
  gap : List Char
  pragma : List Char
  spaces : Nat
  opening : List Char
  written : List Char
  rest : List Char

namespace Pieces

def line (d : Pieces) : List Char :=
  d.lead ++ '#' :: (d.gap ++ (d.pragma ++ (keyword ++
    (List.replicate d.spaces ' ' ++ (d.opening ++ (d.written ++ d.rest))))))

structure WellFormed (d : Pieces) : Prop where
  lead : ∀ c ∈ d.lead, isBlank c = true
  gap : ∀ c ∈ d.gap, isBlank c = true
  pragma : IsPragma d.pragma
  opening : d.opening = ['<'] ∨ d.opening = ['"'] ∨ (d.opening = [] ∧ 1 ≤ d.spaces)
  written_ne_nil : d.written ≠ []
  written : ∀ c ∈ d.written, endsTarget c = false
  rest : ∀ c, d.rest.head? = some c → endsTarget c = true

end Pieces

/-- The grammar lets a line name a target. -/
def Names (line target : String) : Prop :=
  target ≠ "" ∧ ∃ d : Pieces, d.WellFormed ∧ line.toList = d.line ∧
    target = trim (String.ofList d.written)

/-! ## Up to the keyword -/

theorem dropWord_eq_some_iff (word cs rest : List Char) :
    dropWord word cs = some rest ↔ cs = word ++ rest := by
  induction word generalizing cs with
  | nil => simp [dropWord]
  | cons w word ih =>
    cases cs with
    | nil => simp [dropWord]
    | cons c cs =>
      rw [dropWord]
      split
      · next heq => simp [ih, heq]
      · next hne => simp [Ne.symm hne]

theorem exists_isPragma (cs : List Char) : ∃ p, IsPragma p ∧ cs = p ++ skipPragma cs := by
  unfold skipPragma
  split
  · next c rest hword =>
    rw [dropWord_eq_some_iff] at hword
    split
    · next hc =>
      refine ⟨pragma ++ c :: rest.takeWhile isBlank, .inr ⟨_, by simp, ?_, rfl⟩, ?_⟩
      · intro d hd
        rcases List.mem_cons.1 hd with rfl | hd
        · exact hc
        · exact List.all_eq_true.1 List.all_takeWhile d hd
      · rw [hword, List.append_assoc, List.cons_append, List.takeWhile_append_dropWhile]
    · exact ⟨[], .inl rfl, rfl⟩
  · exact ⟨[], .inl rfl, rfl⟩

theorem keyword_eq : keyword = 'i' :: "nclude_once".toList := by decide

theorem pragma_eq : pragma = 'p' :: "ragma".toList := by decide

theorem dropWhile_isBlank_keyword (rest : List Char) :
    (keyword ++ rest).dropWhile isBlank = keyword ++ rest := by
  rw [keyword_eq, List.cons_append, List.dropWhile_cons_of_neg (by decide)]

theorem dropWhile_isBlank_pragma {p : List Char} (h : IsPragma p) (rest : List Char) :
    (p ++ (keyword ++ rest)).dropWhile isBlank = p ++ (keyword ++ rest) := by
  rcases h with rfl | ⟨blanks, -, -, rfl⟩
  · exact dropWhile_isBlank_keyword rest
  · rw [pragma_eq, List.cons_append, List.cons_append, List.dropWhile_cons_of_neg (by decide)]

theorem skipPragma_append {p : List Char} (h : IsPragma p) (rest : List Char) :
    skipPragma (p ++ (keyword ++ rest)) = keyword ++ rest := by
  rcases h with rfl | ⟨blanks, hne, hblank, rfl⟩
  · simp [skipPragma, keyword_eq, pragma_eq, dropWord]
  · have hword : dropWord pragma (pragma ++ blanks ++ (keyword ++ rest)) =
        some (blanks ++ (keyword ++ rest)) := by
      rw [dropWord_eq_some_iff, List.append_assoc]
    cases blanks with
    | nil => exact absurd rfl hne
    | cons c blanks =>
      have hrest : ∀ d ∈ blanks, isBlank d = true := fun d hd => hblank d (by simp [hd])
      rw [skipPragma, hword]
      simp only [List.cons_append, hblank c (by simp), if_true, List.dropWhile_append_of_pos hrest,
        dropWhile_isBlank_keyword]

theorem afterKeyword_eq_some_iff (cs rest : List Char) :
    afterKeyword cs = some rest ↔
      ∃ lead gap p, (∀ c ∈ lead, isBlank c = true) ∧ (∀ c ∈ gap, isBlank c = true) ∧ IsPragma p ∧
        cs = lead ++ '#' :: (gap ++ (p ++ (keyword ++ rest))) := by
  constructor
  · intro h
    unfold afterKeyword at h
    split at h
    · next after hsign =>
      rw [dropWord_eq_some_iff] at h
      obtain ⟨p, hp, hafter⟩ := exists_isPragma (after.dropWhile isBlank)
      refine ⟨cs.takeWhile isBlank, after.takeWhile isBlank, p, List.all_eq_true.1 List.all_takeWhile,
        List.all_eq_true.1 List.all_takeWhile, hp, ?_⟩
      rw [← h, ← hafter, List.takeWhile_append_dropWhile, ← hsign, List.takeWhile_append_dropWhile]
    · cases h
  · rintro ⟨lead, gap, p, hlead, hgap, hp, rfl⟩
    rw [afterKeyword, List.dropWhile_append_of_pos hlead, List.dropWhile_cons_of_neg (by decide)]
    simp only [List.dropWhile_append_of_pos hgap, dropWhile_isBlank_pragma hp, skipPragma_append hp,
      dropWord_eq_some_iff]

/-! ## After the keyword -/

theorem trimChars_append_of_blank {blanks cs : List Char} (h : ∀ c ∈ blanks, isBlank c = true) :
    trimChars (blanks ++ cs) = trimChars cs := by
  rw [trimChars, trimChars, List.dropWhile_append_of_pos h]

theorem exists_spaces (cs : List Char) :
    ∃ k bare, cs = List.replicate k ' ' ++ bare ∧ ∀ c, bare.head? = some c → c ≠ ' ' := by
  induction cs with
  | nil => exact ⟨0, [], rfl, by simp⟩
  | cons c cs ih =>
    by_cases hc : c = ' '
    · obtain ⟨k, bare, hcs, hfirst⟩ := ih
      exact ⟨k + 1, bare, by rw [hc, hcs, List.replicate_succ, List.cons_append], hfirst⟩
    · refine ⟨0, c :: cs, rfl, ?_⟩
      rintro d ⟨⟩
      exact hc

theorem dropWhile_spaces (k : Nat) {c : Char} (cs : List Char) (hc : c ≠ ' ') :
    (List.replicate k ' ' ++ c :: cs).dropWhile (· == ' ') = c :: cs := by
  rw [List.dropWhile_append_of_pos (by simp), List.dropWhile_cons_of_neg (by simpa using hc)]

/-! What `operand` reads after some spaces, by the first character that is no space. -/

theorem operand_spaces (k : Nat) : operand (List.replicate k ' ') = [] := by
  simp [operand]

theorem operand_delimited (k : Nat) {c : Char} (cs : List Char) (hc : c = '<' ∨ c = '"') :
    operand (List.replicate k ' ' ++ c :: cs) = cs.takeWhile (!endsTarget ·) := by
  have hspace : c ≠ ' ' := by
    rcases hc with rfl | rfl <;> decide
  rw [operand, dropWhile_spaces k cs hspace]
  simp only [if_pos hc]

theorem operand_bare (k : Nat) {c : Char} (cs : List Char) (hspace : c ≠ ' ')
    (hc : ¬ (c = '<' ∨ c = '"')) :
    operand (List.replicate k ' ' ++ c :: cs) =
      if 1 ≤ k then (c :: cs).takeWhile (!endsTarget ·) else [] := by
  rw [operand, dropWhile_spaces k cs hspace]
  cases k with
  | zero => simp [hc, hspace]
  | succ k => simp [hc, List.replicate_succ]

theorem takeWhile_written {written rest : List Char} (hw : ∀ c ∈ written, endsTarget c = false)
    (hr : ∀ c, rest.head? = some c → endsTarget c = true) :
    (written ++ rest).takeWhile (!endsTarget ·) = written :=
  (cut_run (fun c hc => by simp [hw c hc]) fun c hc => by simp [hr c hc]).1

/-- What the grammar cuts out as a target is what is read, up to blanks, unless it is blank. -/
theorem trimChars_operand {k : Nat} {opening written rest : List Char}
    (ho : opening = ['<'] ∨ opening = ['"'] ∨ (opening = [] ∧ 1 ≤ k))
    (hw : ∀ c ∈ written, endsTarget c = false)
    (hr : ∀ c, rest.head? = some c → endsTarget c = true) (hne : trimChars written ≠ []) :
    trimChars (operand (List.replicate k ' ' ++ (opening ++ (written ++ rest)))) =
      trimChars written := by
  rcases ho with rfl | rfl | ⟨rfl, hk⟩
  · rw [List.singleton_append, operand_delimited k _ (.inl rfl), takeWhile_written hw hr]
  · rw [List.singleton_append, operand_delimited k _ (.inr rfl), takeWhile_written hw hr]
  · -- spaces at the front of the target count as spaces before it
    obtain ⟨m, bare, rfl, hfirst⟩ := exists_spaces written
    have hblank : ∀ c ∈ List.replicate m ' ', isBlank c = true := by
      intro c hc
      rw [List.eq_of_mem_replicate hc]
      decide
    rw [trimChars_append_of_blank hblank] at hne ⊢
    cases bare with
    | nil => exact absurd rfl hne
    | cons c bare =>
      have hplain : ∀ d ∈ c :: bare, endsTarget d = false := fun d hd => hw d (by simp [hd])
      have hopen : ¬ (c = '<' ∨ c = '"') := by
        have hends := hplain c (by simp)
        rintro (rfl | rfl) <;> cases hends
      have hcs : List.replicate k ' ' ++ ([] ++ (List.replicate m ' ' ++ c :: bare ++ rest)) =
          List.replicate (k + m) ' ' ++ c :: (bare ++ rest) := by
        simp [← List.replicate_append_replicate]
      rw [hcs, operand_bare _ _ (hfirst c rfl) hopen, if_pos (by omega), ← List.cons_append,
        takeWhile_written hplain hr]

/-- What is read, unless it is nothing, is cut out by the grammar. -/
theorem exists_written {cs : List Char} (hne : operand cs ≠ []) :
    ∃ k opening rest, (opening = ['<'] ∨ opening = ['"'] ∨ (opening = [] ∧ 1 ≤ k)) ∧
      (∀ c ∈ operand cs, endsTarget c = false) ∧
      (∀ c, rest.head? = some c → endsTarget c = true) ∧
      cs = List.replicate k ' ' ++ (opening ++ (operand cs ++ rest)) := by
  have hends : ∀ (ds : List Char), ∀ c ∈ ds.takeWhile (!endsTarget ·), endsTarget c = false := by
    intro ds c hc
    simpa using List.all_eq_true.1 List.all_takeWhile c hc
  have hrest : ∀ (ds : List Char) c, (ds.dropWhile (!endsTarget ·)).head? = some c →
      endsTarget c = true := by
    intro ds c hc
    have := List.head?_dropWhile_not (!endsTarget ·) ds
    rw [hc] at this
    simpa using this
  obtain ⟨k, bare, rfl, hfirst⟩ := exists_spaces cs
  cases bare with
  | nil =>
    rw [List.append_nil] at hne
    exact absurd (operand_spaces k) hne
  | cons c bare =>
    by_cases hc : c = '<' ∨ c = '"'
    · rw [operand_delimited k bare hc]
      refine ⟨k, [c], bare.dropWhile (!endsTarget ·), ?_, hends bare, hrest bare, ?_⟩
      · rcases hc with rfl | rfl
        · exact .inl rfl
        · exact .inr (.inl rfl)
      · rw [List.takeWhile_append_dropWhile, List.singleton_append]
    · rw [operand_bare k bare (hfirst c rfl) hc] at hne ⊢
      by_cases hk : 1 ≤ k
      · rw [if_pos hk]
        refine ⟨k, [], (c :: bare).dropWhile (!endsTarget ·), .inr (.inr ⟨rfl, hk⟩), hends _, hrest _, ?_⟩
        rw [List.takeWhile_append_dropWhile, List.nil_append]
      · rw [if_neg hk] at hne
        exact absurd rfl hne

/-! ## Directive lines -/

theorem target?_eq_some {line t : String} :
    target? line = some t ↔ ∃ rest, afterKeyword line.toList = some rest ∧
      trimChars (operand rest) ≠ [] ∧ String.ofList (trimChars (operand rest)) = t := by
  unfold target?
  cases hafter : afterKeyword line.toList with
  | none => simp
  | some rest =>
    cases htrim : trimChars (operand rest) with
    | nil => simp [htrim]
    | cons c cs => simp [htrim]

theorem names_of_target? {line t : String} (h : target? line = some t) : Names line t := by
  obtain ⟨after, hafter, hne, rfl⟩ := target?_eq_some.1 h
  obtain ⟨lead, gap, p, hlead, hgap, hp, hline⟩ := (afterKeyword_eq_some_iff _ _).1 hafter
  have hoperand : operand after ≠ [] := by
    intro hnil
    rw [hnil] at hne
    exact hne rfl
  obtain ⟨k, opening, rest, hopening, hwritten, hrest, hcut⟩ := exists_written hoperand
  refine ⟨by simpa using hne, ⟨lead, gap, p, k, opening, operand after, rest⟩,
    ⟨hlead, hgap, hp, hopening, hoperand, hwritten, hrest⟩, ?_, ?_⟩
  · rw [Pieces.line, ← hcut]
    exact hline
  · rw [trim, String.toList_ofList]

theorem target?_of_names {line t : String} (h : Names line t) : target? line = some t := by
  obtain ⟨hne, d, hd, hline, rfl⟩ := h
  have htrim : trimChars d.written ≠ [] := by
    intro hnil
    rw [trim, String.toList_ofList, hnil] at hne
    exact hne rfl
  have hafter := (afterKeyword_eq_some_iff _ _).2 ⟨_, _, _, hd.lead, hd.gap, hd.pragma, hline⟩
  have hsame := trimChars_operand hd.opening hd.written hd.rest htrim
  refine target?_eq_some.2 ⟨_, hafter, ?_, ?_⟩
  · rw [hsame]
    exact htrim
  · rw [hsame, trim, String.toList_ofList]

/-- A line names a target exactly when the grammar lets it, and the grammar lets it name one target. -/
theorem target?_eq_some_iff_names (line : String) :
    (∀ t, target? line = some t ↔ Names line t) ∧
      ∀ t t', Names line t → Names line t' → t = t' := by
  refine ⟨fun t => ⟨names_of_target?, target?_of_names⟩, ?_⟩
  intro t t' h h'
  have heq := (target?_of_names h).symm.trans (target?_of_names h')
  exact Option.some.inj heq

/-- A bare target, with one of the three spaces before it counted as such and the others as part of
it. -/
theorem target?_eq_some_iff_names_spaced :
    Names "\t# pragma  include_once   a b <" "a b" ∧
      target? "\t# pragma  include_once   a b <" = some "a b" ∧
      ∀ t, Names "\t# pragma  include_once   a b <" t → "a b" = t := by
  have hblanks : ∀ c ∈ [' ', ' '], isBlank c = true := List.all_eq_true.1 rfl
  have hwritten : ∀ c ∈ "  a b ".toList, endsTarget c = false := by
    intro c hc
    have hall : "  a b ".toList.all (!endsTarget ·) = true := by decide +kernel
    simpa using List.all_eq_true.1 hall c hc
  have hrest : ∀ c, ['<'].head? = some c → endsTarget c = true := by
    rintro c ⟨⟩
    rfl
  have hnames : Names "\t# pragma  include_once   a b <" "a b" :=
    ⟨by decide +kernel, ⟨['\t'], [' '], pragma ++ [' ', ' '], 1, [], "  a b ".toList, ['<']⟩,
      ⟨List.all_eq_true.1 rfl, List.all_eq_true.1 rfl, .inr ⟨[' ', ' '], by simp, hblanks, rfl⟩,
        .inr (.inr ⟨rfl, Nat.le_refl 1⟩), by decide +kernel, hwritten, hrest⟩,
      by decide +kernel, by decide +kernel⟩
  have hall := target?_eq_some_iff_names "\t# pragma  include_once   a b <"
  exact ⟨hnames, (hall.1 "a b").2 hnames, fun t ht => hall.2 "a b" t hnames ht⟩

end Directive
end ShaderInclude
