import Mathlib.Data.Finset.Basic
import Mathlib.Data.Finset.Dedup
import Mathlib.Data.Finset.Lattice.Lemmas
import Mathlib.Data.List.Forall2
import ShaderInclude.Expansion
import ShaderInclude.Proofs.Provenance

/-!
# ShaderInclude.Proofs.Outline

The outline of an expansion: a file line by line, where a directive that was expanded carries the
outline of the file it names. `Unfolds` derives outlines from what the files hold, with the set of
files used so far handed from line to line.

An outline tells everything about its expansion: the merged `lines`, the `origins` of these lines,
the `files` in the order of their loading, and the `sites`, the directives that gave way to them.

* `Unfolds.used_eq`, `Unfolds.files_nodup`: the files are new, and they are what the used files grow
  by.
* `Unfolds.lines_from_origins`: each merged line is the line at its origin, or empty if that is a
  directive.
* `Unfolds.origins_perm`: origins and sites together are all lines of all files, each once.
* `Unfolds.origins_ordered`: the lines of one file keep their order.
* `Unfolds.sites_name_files`: each site is a directive that names the file in its place.
-/

namespace ShaderInclude

/-- The expansion of a file, from one of its lines on. -/
inductive Outline where
  | done
  /-- A line that is no directive. -/
  | keep (text : String) (rest : Outline)
  /-- A directive that names a file used before. -/
  | elide (target : String) (rest : Outline)
  /-- A directive that gave way to the file it names. -/
  | nest (target : String) (inner rest : Outline)

namespace Outline

def lines : Outline → List String
  | .done => []
  | .keep text rest => text :: rest.lines
  | .elide _ rest => "" :: rest.lines
  | .nest _ inner rest => inner.lines ++ rest.lines

/-- The origins of the lines, when the outline starts at line `k` of `file`. -/
def origins (file : String) (k : Nat) : Outline → List Origin
  | .done => []
  | .keep _ rest => (file, (k : Int)) :: rest.origins file (k + 1)
  | .elide _ rest => (file, (k : Int)) :: rest.origins file (k + 1)
  | .nest target inner rest => inner.origins target 0 ++ rest.origins file (k + 1)

/-- The files that were expanded, in order. -/
def files : Outline → List String
  | .done => []
  | .keep _ rest => rest.files
  | .elide _ rest => rest.files
  | .nest target inner rest => target :: (inner.files ++ rest.files)

/-- The directives that gave way to `files`. -/
def sites (file : String) (k : Nat) : Outline → List Origin
  | .done => []
  | .keep _ rest => rest.sites file (k + 1)
  | .elide _ rest => rest.sites file (k + 1)
  | .nest target inner rest =>
    (file, (k : Int)) :: (inner.sites target 0 ++ rest.sites file (k + 1))

theorem length_sites (o : Outline) (file : String) (k : Nat) :
    (o.sites file k).length = o.files.length := by
  induction o generalizing file k with
  | done => rfl
  | keep text rest ih => exact ih file (k + 1)
  | elide target rest ih => exact ih file (k + 1)
  | nest target inner rest ihi ihr => simp [sites, files, ihi, ihr]

theorem length_origins (o : Outline) (file : String) (k : Nat) :
    (o.origins file k).length = o.lines.length := by
  induction o generalizing file k with
  | done => rfl
  | keep text rest ih | elide target rest ih => simp [origins, lines, ih]
  | nest target inner rest ihi ihr => simp [origins, lines, ihi, ihr]

/-- An origin is a later line of the file itself, or lies in a file that was expanded. -/
theorem mem_origins (o : Outline) {file : String} {k : Nat} {a : Origin}
    (h : a ∈ o.origins file k) : (a.1 = file ∧ (k : Int) ≤ a.2) ∨ a.1 ∈ o.files := by
  induction o generalizing file k with
  | done => simp [origins] at h
  | keep text rest ih | elide target rest ih =>
    rcases List.mem_cons.1 h with rfl | h
    · exact .inl ⟨rfl, Int.le_refl _⟩
    · rcases ih h with ⟨hf, hk⟩ | hf
      · exact .inl ⟨hf, by omega⟩
      · exact .inr hf
  | nest target inner rest ihi ihr =>
    rcases List.mem_append.1 h with h | h
    · right
      rcases ihi h with ⟨hf, -⟩ | hf
      · simp [files, hf]
      · simp [files, hf]
    · rcases ihr h with ⟨hf, hk⟩ | hf
      · exact .inl ⟨hf, by omega⟩
      · exact .inr (by simp [files, hf])

end Outline

namespace Expansion

/-- The file that a directive in a file names. Only a target with a scheme cannot be joined to the
directory of the file, and such a target stands for itself. -/
def targetOf (file target : String) : String :=
  match (IncludePath.ofString file).dirname.join target with
  | .ok path => path.render
  | .error _ => IncludePath.normalize target

theorem targetPath_eq (file target : String) :
    targetPath file target = .ok (targetOf file target) := by
  unfold targetPath targetOf IncludePath.join
  split <;> rename_i h <;> simp [h, Except.map]

/-- The lines of a file from one line on unfold to an outline, and the used files grow. -/
inductive Unfolds (load : String → Except Raised String) :
    String → List String → Finset String → Outline → Finset String → Prop where
  | done {file : String} {used : Finset String} : Unfolds load file [] used .done used
  | keep {file line : String} {rest : List String} {used used' : Finset String} {o : Outline} :
      Directive.target? line = none → Unfolds load file rest used o used' →
      Unfolds load file (line :: rest) used (.keep line o) used'
  | elide {file line target : String} {rest : List String} {used used' : Finset String}
      {o : Outline} :
      Directive.target? line = some target → targetOf file target ∈ used →
      Unfolds load file rest used o used' →
      Unfolds load file (line :: rest) used (.elide (targetOf file target) o) used'
  | nest {file line target text : String} {rest : List String} {used used₁ used' : Finset String}
      {inner o : Outline} :
      Directive.target? line = some target → targetOf file target ∉ used →
      load (targetOf file target) = .ok text →
      Unfolds load (targetOf file target) (Text.lines text) (insert (targetOf file target) used)
        inner used₁ →
      Unfolds load file rest used₁ o used' →
      Unfolds load file (line :: rest) used (.nest (targetOf file target) inner o) used'

/-! ## What the source files hold -/

/-- The line of a file that an origin points to. -/
def sourceLine? (load : String → Except Raised String) (a : Origin) : Option String :=
  match load a.1 with
  | .ok text => if 0 ≤ a.2 then (Text.lines text)[a.2.toNat]? else none
  | .error _ => none

/-- The number of lines of a file. -/
def lineCount (load : String → Except Raised String) (file : String) : Nat :=
  match load file with
  | .ok text => (Text.lines text).length
  | .error _ => 0

/-- All lines of some files. -/
def sourceLines (load : String → Except Raised String) (files : List String) : List Origin :=
  files.flatMap fun f => Buffer.fileOrigins f 0 (lineCount load f)

/-- The file goes on with these lines from line `k`. -/
def Reads (load : String → Except Raised String) (file : String) (k : Nat) (ls : List String) : Prop :=
  ∀ j : Nat, sourceLine? load (file, ((k + j : Nat) : Int)) = ls[j]?

theorem reads_lines {load : String → Except Raised String} {file text : String}
    (h : load file = .ok text) : Reads load file 0 (Text.lines text) := by
  intro j
  simp [sourceLine?, h]

theorem Reads.head {load : String → Except Raised String} {file l : String} {k : Nat}
    {ls : List String} (h : Reads load file k (l :: ls)) :
    sourceLine? load (file, (k : Int)) = some l := by
  simpa using h 0

theorem Reads.tail {load : String → Except Raised String} {file l : String} {k : Nat}
    {ls : List String} (h : Reads load file k (l :: ls)) : Reads load file (k + 1) ls := by
  intro j
  have := h (j + 1)
  rw [show k + (j + 1) = k + 1 + j by omega] at this
  simpa using this

/-- A merged line shows the source line at its origin; a directive shows as an empty line. -/
def Shows (load : String → Except Raised String) (text : String) (a : Origin) : Prop :=
  ∃ source, sourceLine? load a = some source ∧
    text = if (Directive.target? source).isSome then "" else source

/-- The source line at a site is a directive that names the file. -/
def Names (load : String → Except Raised String) (site : Origin) (file : String) : Prop :=
  ∃ source target, sourceLine? load site = some source ∧
    Directive.target? source = some target ∧ targetOf site.1 target = file

namespace Unfolds

variable {load : String → Except Raised String} {file : String} {ls : List String}
  {used used' : Finset String} {o : Outline}

theorem used_eq (h : Unfolds load file ls used o used') : used' = used ∪ o.files.toFinset := by
  induction h with
  | done => simp [Outline.files]
  | keep _ _ ih => exact ih
  | elide _ _ _ ih => exact ih
  | nest _ _ _ _ _ ihi ihr =>
    rw [ihr, ihi]
    ext f
    simp only [Outline.files, Finset.mem_union, Finset.mem_insert, List.mem_toFinset,
      List.mem_cons, List.mem_append]
    tauto

theorem files_fresh (h : Unfolds load file ls used o used') : ∀ f ∈ o.files, f ∉ used := by
  induction h with
  | done => simp [Outline.files]
  | keep _ _ ih => exact ih
  | elide _ _ _ ih => exact ih
  | nest _ hnew _ hinner _ ihi ihr =>
    intro f hf hused
    rcases List.mem_cons.1 hf with rfl | hf
    · exact hnew hused
    · rcases List.mem_append.1 hf with hf | hf
      · exact ihi f hf (by simp [hused])
      · exact ihr f hf (by simp [hinner.used_eq, hused])

theorem files_nodup (h : Unfolds load file ls used o used') : o.files.Nodup := by
  induction h with
  | done => simp [Outline.files]
  | keep _ _ ih => exact ih
  | elide _ _ _ ih => exact ih
  | nest _ _ _ hinner hrest ihi ihr =>
    have hfi := hinner.files_fresh
    have hfr := hrest.files_fresh
    rw [hinner.used_eq] at hfr
    rw [Outline.files, List.nodup_cons, List.nodup_append]
    refine ⟨?_, ihi, ihr, ?_⟩
    · intro hmem
      rcases List.mem_append.1 hmem with hf | hf
      · exact hfi _ hf (by simp)
      · exact hfr _ hf (by simp)
    · rintro f hf g hg rfl
      exact hfr f hg (by simp [hf])

/-- A used file is not among the files that its expansion adds. -/
theorem nodup_cons_files (h : Unfolds load file ls used o used') (hfile : file ∈ used) :
    (file :: o.files).Nodup :=
  List.nodup_cons.2 ⟨fun hmem => h.files_fresh file hmem hfile, h.files_nodup⟩

theorem loaded_files (h : Unfolds load file ls used o used') :
    ∀ f ∈ o.files, ∃ text, load f = .ok text := by
  induction h with
  | done => simp [Outline.files]
  | keep _ _ ih => exact ih
  | elide _ _ _ ih => exact ih
  | nest _ _ hload _ _ ihi ihr =>
    intro f hf
    rcases List.mem_cons.1 hf with rfl | hf
    · exact ⟨_, hload⟩
    · rcases List.mem_append.1 hf with hf | hf
      · exact ihi f hf
      · exact ihr f hf

theorem lines_from_origins (h : Unfolds load file ls used o used') {k : Nat}
    (hr : Reads load file k ls) : List.Forall₂ (Shows load) o.lines (o.origins file k) := by
  induction h generalizing k with
  | done => exact .nil
  | keep hline _ ih => exact .cons ⟨_, hr.head, by simp [hline]⟩ (ih hr.tail)
  | elide hline _ _ ih => exact .cons ⟨_, hr.head, by simp [hline]⟩ (ih hr.tail)
  | nest _ _ hload _ _ ihi ihr =>
    exact List.rel_append (ihi (reads_lines hload)) (ihr hr.tail)

theorem shows_at (h : Unfolds load file ls used o used') {k i : Nat} {a : Origin}
    (hr : Reads load file k ls) (ha : (o.origins file k)[i]? = some a) :
    ∃ line, o.lines[i]? = some line ∧ Shows load line a := by
  have hshows := h.lines_from_origins hr
  obtain ⟨hlt, rfl⟩ := List.getElem?_eq_some_iff.1 ha
  have hlt' : i < o.lines.length := by rw [hshows.length_eq]; exact hlt
  exact ⟨_, List.getElem?_eq_getElem hlt', (List.forall₂_iff_get.1 hshows).2 i hlt' hlt⟩

theorem sites_name_files (h : Unfolds load file ls used o used') {k : Nat}
    (hr : Reads load file k ls) : List.Forall₂ (Names load) (o.sites file k) o.files := by
  induction h generalizing k with
  | done => exact .nil
  | keep _ _ ih => exact ih hr.tail
  | elide _ _ _ ih => exact ih hr.tail
  | nest hline _ hload _ _ ihi ihr =>
    exact .cons ⟨_, _, hr.head, hline, rfl⟩
      (List.rel_append (ihi (reads_lines hload)) (ihr hr.tail))

theorem origins_perm (h : Unfolds load file ls used o used') (k : Nat) :
    (o.origins file k ++ o.sites file k).Perm
      (Buffer.fileOrigins file k ls.length ++ sourceLines load o.files) := by
  induction h generalizing k with
  | done => exact .nil
  | keep _ _ ih | elide _ _ _ ih => exact (ih (k + 1)).cons _
  | nest _ _ hload _ _ ihi ihr =>
    -- the site counts for the line it took, and the lines of the inner file for that file
    rw [List.perm_iff_count]
    intro a
    have hi := (ihi 0).count_eq a
    have hr := (ihr (k + 1)).count_eq a
    simp only [sourceLines, Outline.origins, Outline.sites, Outline.files, Buffer.fileOrigins,
      List.length_cons, List.range'_succ, List.map_cons, List.flatMap_cons, List.flatMap_append,
      List.count_append, List.count_cons, lineCount, hload] at hi hr ⊢
    omega

theorem origins_ordered (h : Unfolds load file ls used o used') (hfile : file ∈ used) (k : Nat) :
    (o.origins file k).Pairwise fun a b => a.1 = b.1 → a.2 < b.2 := by
  induction h generalizing k with
  | done => exact .nil
  | keep _ hrest ih | elide _ _ hrest ih =>
    refine List.pairwise_cons.2 ⟨?_, ih hfile (k + 1)⟩
    intro b hb heq
    rcases Outline.mem_origins _ hb with ⟨-, hk⟩ | hf
    · show (k : Int) < b.2
      omega
    · rw [← heq] at hf
      exact absurd hfile (hrest.files_fresh _ hf)
  | @nest file _ _ _ _ used used₁ _ inner o _ hnew _ hinner hrest ihi ihr =>
    have hfile₁ : file ∈ used₁ := by simp [hinner.used_eq, hfile]
    refine List.pairwise_append.2 ⟨ihi (by simp) 0, ihr hfile₁ (k + 1), ?_⟩
    -- a file of the inner outline is used by the time the rest begins, and was not before
    intro a ha b hb heq
    exfalso
    have ha₁ : a.1 ∈ used₁ ∧ a.1 ≠ file := by
      rcases Outline.mem_origins _ ha with ⟨haf, -⟩ | haf
      · refine ⟨by simp [hinner.used_eq, haf], ?_⟩
        rintro heq'
        exact hnew (haf ▸ heq' ▸ hfile)
      · refine ⟨by simp [hinner.used_eq, haf], ?_⟩
        rintro heq'
        exact hinner.files_fresh _ haf (by simp [heq', hfile])
    rcases Outline.mem_origins _ hb with ⟨hbf, -⟩ | hbf
    · exact ha₁.2 (heq.trans hbf)
    · exact hrest.files_fresh _ hbf (heq ▸ ha₁.1)

end Unfolds
end Expansion
end ShaderInclude
