import ShaderInclude.Proofs.SourceMap

/-!
# ShaderInclude.Proofs.DirectiveFree

A resolved buffer has no directives left. An expansion reads only the own text of each file and never
the lines that it has put together, so this is a statement about where the merged lines come from: each
shows a source line that is no directive, or is empty.

* `Shows.target?_eq_none`, `Shows.no_newline`: what a merged line can be.
* `run_of_no_directives`: a file without directives expands to itself.
* `resolve_idempotent`: the text of a resolved buffer resolves to the same lines.
-/

namespace ShaderInclude

open Expansion

namespace Expansion

theorem Shows.target?_eq_none {load : String → Except Raised String} {text : String} {a : Origin}
    (h : Shows load text a) : Directive.target? text = none := by
  obtain ⟨source, -, rfl⟩ := h
  split
  · rfl
  · next hplain => simpa using hplain

theorem Shows.no_newline {load : String → Except Raised String} {text : String} {a : Origin}
    (h : Shows load text a) : '\n' ∉ text.toList := by
  obtain ⟨source, hsource, rfl⟩ := h
  split
  · simp
  · obtain ⟨whole, -, -, hline⟩ := exists_text_of_sourceLine? hsource
    exact Text.no_newline_of_mem_lines (List.mem_of_getElem? hline)

theorem scan_eq_nil {ls : List String} (h : ∀ l ∈ ls, Directive.target? l = none) :
    Directive.scan ls = [] := by
  rw [Directive.scan, List.filterMap_eq_nil_iff]
  rintro ⟨l, i⟩ hmem
  simp [h l (List.fst_mem_of_mem_zipIdx hmem)]

theorem run_of_no_directives {load : String → Except Raised String} {maxDepth : Int}
    {root text : String} (hdepth : 0 ≤ maxDepth) (hload : load root = .ok text)
    (hplain : ∀ l ∈ Text.lines text, Directive.target? l = none) :
    (run load maxDepth root).result = .ok (Buffer.ofText text root) := by
  obtain ⟨budget, hbudget⟩ : ∃ budget, budgetOf maxDepth = budget + 1 := by
    refine ⟨maxDepth.toNat, ?_⟩
    unfold budgetOf
    omega
  have hscan : Directive.scan (Buffer.ofText text root).lines = [] := scan_eq_nil hplain
  rw [run, hbudget, expandFile]
  simp only [hload, hscan, jobs, runJobs]

end Expansion

theorem Buffer.ofText_text {b : Buffer} (hne : b.lines ≠ []) (h : ∀ l ∈ b.lines, '\n' ∉ l.toList)
    (file : String) : ofText b.text file = ⟨b.lines, [.ofBlock file 0 b.size]⟩ := by
  have hlines : Text.lines b.text = b.lines := Text.lines_unlines b.lines hne h
  have hsegments := segments_ofText b.text file
  simp only [ofText, size, hlines] at hsegments ⊢
  rw [hsegments]

namespace Resolver

theorem load_of_visit {r : Resolver} {w : World} {path body s : String} {loader : Loader}
    (hloader : r.loaderFor path = (some loader, body))
    (htext : (loader.visit w body).outcome = .text s) (hne : s ≠ "") : r.load w path = .ok s := by
  unfold loaderFor at hloader
  cases hsplit : splitScheme path with
  | mk scheme rest =>
  rw [hsplit] at hloader
  obtain ⟨hget, rfl⟩ := Prod.mk.inj hloader
  simp [load, loadWith, hsplit, hget, Loader.backend, htext, hne]

/-- Every line of a resolved buffer shows a line of a file. -/
theorem resolve_shows {r : Resolver} {w : World} {path : String} {b : Buffer}
    (h : (r.resolve w path).1 = .ok b) {line : String} (hline : line ∈ b.lines) :
    ∃ a, Shows (r.load w) line a := by
  obtain ⟨o, text, hload, hunfolds, hlines, -⟩ := resolve_outline h
  have hshows := hunfolds.lines_from_origins (reads_lines hload)
  rw [hlines] at hline
  obtain ⟨i, hi, rfl⟩ := List.mem_iff_getElem.1 hline
  exact ⟨_, (List.forall₂_iff_get.1 hshows).2 i hi (by rw [← hshows.length_eq]; exact hi)⟩

theorem resolve_lines_ne_nil {r : Resolver} {w : World} {path : String} {b : Buffer}
    (h : (r.resolve w path).1 = .ok b) : b.lines ≠ [] := by
  obtain ⟨o, text, -, -, -, htracks, -⟩ := resolve_outline h
  exact List.ne_nil_of_length_pos htracks.laminar.size_pos

/-- A resolved buffer has no directives, so its text, if there is any, resolves to the same lines and
is all of one file. -/
theorem resolve_idempotent (r : Resolver) (w : World) (path : String) (b : Buffer)
    (h : (r.resolve w path).1 = .ok b) :
    (∀ line ∈ b.lines, Directive.target? line = none) ∧
      ∀ (r' : Resolver) (w' : World) (path' : String) (loader : Loader) (body : String),
        r'.loaderFor (r'.rootPath w' path') = (some loader, body) →
        (loader.visit w' body).outcome = .text b.text → b.text ≠ "" → 0 ≤ r'.config.maxDepth →
        (r'.resolve w' path').1 = .ok ⟨b.lines, [.ofBlock (r'.rootPath w' path') 0 b.size]⟩ := by
  have hplain : ∀ line ∈ b.lines, Directive.target? line = none := by
    intro line hline
    obtain ⟨a, ha⟩ := resolve_shows h hline
    exact ha.target?_eq_none
  have hone : ∀ line ∈ b.lines, '\n' ∉ line.toList := by
    intro line hline
    obtain ⟨a, ha⟩ := resolve_shows h hline
    exact ha.no_newline
  have hne := resolve_lines_ne_nil h
  refine ⟨hplain, ?_⟩
  intro r' w' path' loader body hloader htext hsome hdepth
  have hload := load_of_visit hloader htext hsome
  rw [resolve_fst, expansion, ← Buffer.ofText_text hne hone]
  refine run_of_no_directives hdepth hload ?_
  rw [Buffer.text, Text.lines_unlines b.lines hne hone]
  exact hplain

/-- A resolver for which every file holds the text of `cyclicMerged`. -/
def mergedResolver : Resolver :=
  { cyclicResolver with table := .free [(some "mem", .custom fun _ => .text cyclicMerged.text)] }

theorem resolve_idempotent_cyclic :
    (cyclicResolver.resolve {} "a").1 = .ok cyclicMerged ∧
      (∀ line ∈ cyclicMerged.lines, Directive.target? line = none) ∧ cyclicMerged.text ≠ "" ∧
      (mergedResolver.resolve {} "m").1 =
        .ok ⟨cyclicMerged.lines, [.ofBlock "m" 0 cyclicMerged.size]⟩ := by
  have hall := resolve_idempotent cyclicResolver {} "a" cyclicMerged resolve_cyclic
  have hne : cyclicMerged.text ≠ "" := by decide +kernel
  exact ⟨resolve_cyclic, hall.1, hne,
    hall.2 mergedResolver {} "m" (.custom fun _ => .text cyclicMerged.text) "m" rfl rfl hne
      (by decide)⟩

end Resolver
end ShaderInclude
