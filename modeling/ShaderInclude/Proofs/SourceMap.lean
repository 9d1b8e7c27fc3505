import Mathlib
import ShaderInclude.Proofs.PlainExpansion

/-!
# ShaderInclude.Proofs.SourceMap

The source map of a resolved file: which line of which loaded file each merged line comes from.

* `resolve_line_source`: the map is sound. Every merged line is located at a line of a loaded file,
  and shows it, or is empty where that line is a directive.
* `resolve_lines_partition`: the map is exact. No source line is lost or doubled: the located lines
  and the directives that were expanded share out all lines of the loaded files.

Both read the outline of the expansion (`resolve_outline`, and with segments and calls
`resolve_layout`).
-/

namespace ShaderInclude

open Expansion

namespace Buffer

theorem length_fileOrigins (file : String) (first count : Nat) :
    (fileOrigins file first count).length = count := by
  simp [fileOrigins]

theorem mem_fileOrigins (a : Origin) (file : String) (count : Nat) :
    a ∈ fileOrigins file 0 count ↔ a.1 = file ∧ 0 ≤ a.2 ∧ a.2 < count := by
  obtain ⟨f, k⟩ := a
  simp only [fileOrigins, List.mem_map, List.mem_range'_1, Prod.mk.injEq]
  constructor
  · rintro ⟨j, hj, rfl, rfl⟩
    exact ⟨rfl, by omega, by omega⟩
  · rintro ⟨rfl, h0, hk⟩
    exact ⟨k.toNat, by omega, rfl, by omega⟩

theorem nodup_fileOrigins (file : String) (count : Nat) : (fileOrigins file 0 count).Nodup := by
  apply List.Nodup.map _ List.nodup_range'
  intro j k h
  exact Int.ofNat_inj.1 (congrArg Prod.snd h)

theorem Tracks.locate_iff {b : Buffer} {origins : List Origin} (h : b.Tracks origins) (i : Int)
    (a : Origin) :
    b.locate? i = some a ↔ (0 ≤ i ∧ i < b.size) ∧ origins[i.toNat]? = some a := by
  have hlen := h.length
  rw [h.locate, originAt]
  split
  · next hi =>
    constructor
    · intro ha
      obtain ⟨hlt, -⟩ := List.getElem?_eq_some_iff.1 ha
      exact ⟨by omega, ha⟩
    · exact fun ha => ha.2
  · next hi =>
    constructor
    · intro ha; cases ha
    · rintro ⟨⟨h0, -⟩, -⟩; exact absurd h0 hi

/-- The located origins are those of the list. -/
theorem Tracks.exists_locate_iff {b : Buffer} {origins : List Origin} (h : b.Tracks origins)
    (a : Origin) :
    (∃ i : Int, (0 ≤ i ∧ i < b.size) ∧ b.locate? i = some a) ↔ a ∈ origins := by
  have hlen := h.length
  constructor
  · rintro ⟨i, -, hi⟩
    exact List.mem_of_getElem? ((h.locate_iff i a).1 hi).2
  · intro ha
    obtain ⟨k, hk⟩ := List.mem_iff_getElem?.1 ha
    obtain ⟨hlt, -⟩ := List.getElem?_eq_some_iff.1 hk
    have hrange : 0 ≤ (k : Int) ∧ (k : Int) < b.size := by omega
    exact ⟨k, hrange, (h.locate_iff k a).2 ⟨hrange, hk⟩⟩

/-- Where the lines of each file stand in order, so do the located ones. -/
theorem Tracks.locate_increasing {b : Buffer} {origins : List Origin} (h : b.Tracks origins)
    (hord : origins.Pairwise fun a c => a.1 = c.1 → a.2 < c.2) {i j : Int} {f : String} {k l : Int}
    (hij : i < j) (hi : b.locate? i = some (f, k)) (hj : b.locate? j = some (f, l)) : k < l := by
  obtain ⟨hir, hi⟩ := (h.locate_iff i _).1 hi
  obtain ⟨hjr, hj⟩ := (h.locate_iff j _).1 hj
  obtain ⟨hilt, hi⟩ := List.getElem?_eq_some_iff.1 hi
  obtain ⟨hjlt, hj⟩ := List.getElem?_eq_some_iff.1 hj
  have := List.pairwise_iff_getElem.1 hord i.toNat j.toNat hilt hjlt (by omega)
  rw [hi, hj] at this
  exact this rfl

theorem Tracks.locate_injective {b : Buffer} {origins : List Origin} (h : b.Tracks origins)
    (hord : origins.Pairwise fun a c => a.1 = c.1 → a.2 < c.2) {i j : Int}
    (hi : 0 ≤ i ∧ i < b.size) (heq : b.locate? i = b.locate? j) : i = j := by
  have hlen := h.length
  obtain ⟨⟨f, k⟩, ha⟩ : ∃ a, b.locate? i = some a :=
    ⟨_, (h.locate_iff i _).2 ⟨hi, List.getElem?_eq_getElem (by omega)⟩⟩
  have hb : b.locate? j = some (f, k) := heq ▸ ha
  by_cases hlt : i < j
  · exact absurd (h.locate_increasing hord hlt ha hb) (Int.lt_irrefl k)
  · by_cases hgt : j < i
    · exact absurd (h.locate_increasing hord hgt hb ha) (Int.lt_irrefl k)
    · omega

end Buffer

namespace Expansion

theorem mem_sourceLines (load : String → Except Raised String) (files : List String) (a : Origin) :
    a ∈ sourceLines load files ↔ a.1 ∈ files ∧ 0 ≤ a.2 ∧ a.2 < lineCount load a.1 := by
  simp only [sourceLines, List.mem_flatMap, Buffer.mem_fileOrigins]
  constructor
  · rintro ⟨f, hf, rfl, hk⟩
    exact ⟨hf, hk⟩
  · rintro ⟨hf, hk⟩
    exact ⟨a.1, hf, rfl, hk⟩

theorem nodup_sourceLines (load : String → Except Raised String) {files : List String}
    (h : files.Nodup) : (sourceLines load files).Nodup := by
  rw [sourceLines, List.nodup_flatMap]
  refine ⟨fun f _ => Buffer.nodup_fileOrigins f _, h.imp ?_⟩
  intro f g hfg a haf hag
  rw [Buffer.mem_fileOrigins] at haf hag
  exact hfg (haf.1.symm.trans hag.1)

theorem length_sourceLines (load : String → Except Raised String) (files : List String) :
    (sourceLines load files).length = (files.map (lineCount load)).sum := by
  simp [sourceLines, List.length_flatMap, Buffer.length_fileOrigins]

/-- Origins and sites of a whole file share out the lines of all files of the outline. -/
theorem Unfolds.origins_sites_perm {load : String → Except Raised String} {file text : String}
    {used used' : Finset String} {o : Outline} (hload : load file = .ok text)
    (h : Unfolds load file (Text.lines text) used o used') :
    (o.origins file 0 ++ o.sites file 0).Perm (sourceLines load (file :: o.files)) := by
  have hcount : lineCount load file = (Text.lines text).length := by simp [lineCount, hload]
  rw [sourceLines, List.flatMap_cons, hcount]
  exact h.origins_perm 0

theorem exists_text_of_sourceLine? {load : String → Except Raised String} {a : Origin}
    {source : String} (h : sourceLine? load a = some source) :
    ∃ text, load a.1 = .ok text ∧ 0 ≤ a.2 ∧ (Text.lines text)[a.2.toNat]? = some source := by
  unfold sourceLine? at h
  split at h
  · next text htext =>
    split at h
    · next h0 => exact ⟨text, htext, h0, h⟩
    · cases h
  · cases h

end Expansion

namespace Resolver

/-- The files that a resolver loads to expand a file, in order. -/
def loaded (r : Resolver) (w : World) (path : String) : List String :=
  (r.expansion w path).progress.loads

/-- The calls that a resolver makes to expand a file, in order. -/
def calls (r : Resolver) (w : World) (path : String) : List Call :=
  callsOf (r.load w) r.config.maxDepth (r.rootPath w path)

/-- The outline behind a resolved buffer, with its layout. -/
theorem resolve_layout {r : Resolver} {w : World} {path : String} {b : Buffer}
    (h : (r.resolve w path).1 = .ok b) :
    ∃ o text, r.load w (r.rootPath w path) = .ok text ∧
      Unfolds (r.load w) (r.rootPath w path) (Text.lines text) {r.rootPath w path} o
        (r.expansion w path).progress.used.toFinset ∧
      b.lines = o.lines ∧ b.Tracks (o.origins (r.rootPath w path) 0) ∧
      r.loaded w path = r.rootPath w path :: o.files ∧
      b.segments = .ofBlock (r.rootPath w path) 0 b.size :: o.segments 0 ∧
      r.calls w path = ⟨[r.rootPath w path], r.rootPath w path⟩ :: o.calls [r.rootPath w path] := by
  have hagrees := run_agrees (r.load w) r.config.maxDepth (r.rootPath w path)
  rw [resolve_fst] at h
  cases hplain : expand (r.load w) r.config.maxDepth [] (r.rootPath w path) ∅ with
  | error e =>
    rw [hplain] at hagrees
    cases h.symm.trans hagrees
  | ok out =>
    rw [hplain] at hagrees
    obtain ⟨b', o, text, hres, -, -, hload, hmade, hr⟩ := hagrees
    cases h.symm.trans hres
    refine ⟨o, text, hload, ?_, hr.lines, hr.tracks, ?_, hr.layout, hmade⟩
    · simpa [expansion] using hr.unfolds
    · have hloads := hr.loads
      rw [Progress.loads_log_load, Progress.loads_use] at hloads
      exact hloads

/-- The outline behind a resolved buffer. -/
theorem resolve_outline {r : Resolver} {w : World} {path : String} {b : Buffer}
    (h : (r.resolve w path).1 = .ok b) :
    ∃ o text, r.load w (r.rootPath w path) = .ok text ∧
      Unfolds (r.load w) (r.rootPath w path) (Text.lines text) {r.rootPath w path} o
        (r.expansion w path).progress.used.toFinset ∧
      b.lines = o.lines ∧ b.Tracks (o.origins (r.rootPath w path) 0) ∧
      r.loaded w path = r.rootPath w path :: o.files := by
  obtain ⟨o, text, hload, hunfolds, hlines, htracks, hloaded, -, -⟩ := resolve_layout h
  exact ⟨o, text, hload, hunfolds, hlines, htracks, hloaded⟩

theorem resolve_line_source (r : Resolver) (w : World) (path : String) (b : Buffer)
    (h : (r.resolve w path).1 = .ok b) (i : Int) (hi : 0 ≤ i ∧ i < b.size) :
    ∃ (f : String) (k : Nat) (text source : String), b.locate? i = some (f, (k : Int)) ∧
      f ∈ r.loaded w path ∧ r.load w f = .ok text ∧ (Text.lines text)[k]? = some source ∧
      b.lines[i.toNat]? = some (if (Directive.target? source).isSome then "" else source) := by
  obtain ⟨o, text, hload, hunfolds, hlines, htracks, hloaded⟩ := resolve_outline h
  have hshows := hunfolds.lines_from_origins (reads_lines hload)
  have hlen := htracks.length
  have hlt : i.toNat < (o.origins (r.rootPath w path) 0).length := by omega
  have hlt' : i.toNat < o.lines.length := by rw [hshows.length_eq]; exact hlt
  obtain ⟨source, hsource, hline⟩ := (List.forall₂_iff_get.1 hshows).2 i.toNat hlt' hlt
  obtain ⟨text', htext', h0, hk⟩ := exists_text_of_sourceLine? hsource
  rw [List.get_eq_getElem] at hline htext' h0 hk
  generalize ha : (o.origins (r.rootPath w path) 0)[i.toNat] = a at htext' h0 hk
  have hfile : a.1 ∈ r.loaded w path := by
    rw [hloaded, List.mem_cons]
    rcases Outline.mem_origins o (ha ▸ List.getElem_mem hlt) with ⟨hroot, -⟩ | hf
    · exact .inl hroot
    · exact .inr hf
  refine ⟨a.1, a.2.toNat, text', source, ?_, hfile, htext', hk, ?_⟩
  · rw [htracks.locate_iff, List.getElem?_eq_getElem hlt, ha, Int.toNat_of_nonneg h0]
    exact ⟨hi, rfl⟩
  · rw [hlines, List.getElem?_eq_getElem hlt', hline]

theorem resolve_line_source_cyclic :
    (cyclicResolver.resolve {} "a").1 = .ok cyclicMerged ∧
      ((0 : Int) ≤ 2 ∧ (2 : Int) < cyclicMerged.size) ∧
      ∃ (f : String) (k : Nat) (text source : String),
        cyclicMerged.locate? 2 = some (f, (k : Int)) ∧ f ∈ cyclicResolver.loaded {} "a" ∧
        cyclicResolver.load {} f = .ok text ∧ (Text.lines text)[k]? = some source ∧
        cyclicMerged.lines[(2 : Int).toNat]? =
          some (if (Directive.target? source).isSome then "" else source) :=
  ⟨resolve_cyclic, by decide,
    resolve_line_source cyclicResolver {} "a" cyclicMerged resolve_cyclic 2 (by decide)⟩

/-- The source map of `b` takes up every line of the loaded files exactly once, but for one directive
per file below the root: the one that gave way to that file. -/
structure ExactSourceMap (load : String → Except Raised String) (root : String)
    (loaded : List String) (b : Buffer) : Prop where
  loads_ok : ∀ f ∈ loaded, ∃ text, load f = .ok text
  loaded_nodup : loaded.Nodup
  root_first : loaded.head? = some root
  injective : ∀ i j : Int, 0 ≤ i ∧ i < b.size → 0 ≤ j ∧ j < b.size →
    b.locate? i = b.locate? j → i = j
  increasing : ∀ (i j : Int) (f : String) (k l : Int), i < j → b.locate? i = some (f, k) →
    b.locate? j = some (f, l) → k < l
  image : ∃ sites : List Origin, sites.Nodup ∧ List.Forall₂ (Names load) sites loaded.tail ∧
    (∀ f k, (f, k) ∈ sites → f ∈ loaded ∧ 0 ≤ k ∧ k < lineCount load f) ∧
    ∀ f k, (∃ i : Int, (0 ≤ i ∧ i < b.size) ∧ b.locate? i = some (f, k)) ↔
      (f ∈ loaded ∧ 0 ≤ k ∧ k < lineCount load f) ∧ (f, k) ∉ sites
  size_eq : b.size + (loaded.length - 1) = (loaded.map (lineCount load)).sum

theorem resolve_lines_partition (r : Resolver) (w : World) (path : String) (b : Buffer)
    (h : (r.resolve w path).1 = .ok b) :
    ExactSourceMap (r.load w) (r.rootPath w path) (r.loaded w path) b := by
  obtain ⟨o, text, hload, hunfolds, -, htracks, hloaded⟩ := resolve_outline h
  generalize r.rootPath w path = root at *
  have hnodup : (root :: o.files).Nodup := hunfolds.nodup_cons_files (by simp)
  have hperm := hunfolds.origins_sites_perm hload
  have hall : (o.origins root 0 ++ o.sites root 0).Nodup :=
    hperm.nodup_iff.2 (nodup_sourceLines (r.load w) hnodup)
  have hord := hunfolds.origins_ordered (by simp) 0
  have hmem : ∀ a : Origin, a ∈ o.origins root 0 ∨ a ∈ o.sites root 0 ↔
      a.1 ∈ root :: o.files ∧ 0 ≤ a.2 ∧ a.2 < lineCount (r.load w) a.1 := by
    intro a
    rw [← mem_sourceLines, ← hperm.mem_iff, List.mem_append]
  rw [hloaded]
  refine ⟨?_, hnodup, rfl, ?_, ?_, ⟨o.sites root 0, ?_, ?_, ?_, ?_⟩, ?_⟩
  · intro f hf
    rcases List.mem_cons.1 hf with rfl | hf
    · exact ⟨text, hload⟩
    · exact hunfolds.loaded_files f hf
  · intro i j hi _ heq
    exact htracks.locate_injective hord hi heq
  · intro i j f k l hij hi hj
    exact htracks.locate_increasing hord hij hi hj
  · exact (List.nodup_append.1 hall).2.1
  · exact hunfolds.sites_name_files (reads_lines hload)
  · intro f k hsite
    exact (hmem (f, k)).1 (.inr hsite)
  · intro f k
    rw [htracks.exists_locate_iff, ← hmem (f, k)]
    constructor
    · intro hk
      exact ⟨.inl hk, fun hsite => (List.nodup_append.1 hall).2.2 _ hk _ hsite rfl⟩
    · rintro ⟨hk | hsite, hno⟩
      · exact hk
      · exact absurd hsite hno
  · rw [← length_sourceLines, ← hperm.length_eq, List.length_append, htracks.length,
      Outline.length_sites, List.length_cons, Nat.add_sub_cancel]

theorem resolve_lines_partition_cyclic :
    (cyclicResolver.resolve {} "a").1 = .ok cyclicMerged ∧
      ExactSourceMap (cyclicResolver.load {}) (cyclicResolver.rootPath {} "a")
        (cyclicResolver.loaded {} "a") cyclicMerged :=
  ⟨resolve_cyclic, resolve_lines_partition cyclicResolver {} "a" cyclicMerged resolve_cyclic⟩

end Resolver
end ShaderInclude
