import ShaderInclude.Proofs.SourceMap

/-!
# ShaderInclude.Proofs.IncludeOnce

A file is included once. `DepthFirst` is the depth-first visit of a graph, with the used files handed
on from one visit to the next; the graph here has an edge from a file to each file that a directive of
it names (`includesOf`).

* `resolve_includes_once`: the segments of a resolved buffer are those of different files, in the order
  of their loading, which is the depth-first order from the root.
* `resolve_sources_nodup_iff`: when the loaded files are also different sources, that is, pairs of a
  scheme and a body. Files are told apart by their paths, and a path without a scheme is served as one
  with the default scheme, so a file can be loaded under both of its names. There is no other way.
-/

namespace ShaderInclude

open Expansion

namespace Expansion

/-- The files that the directives among some lines of a file name, in order. -/
def targetsIn (file : String) (ls : List String) : List String :=
  ls.filterMap fun line => (Directive.target? line).map (targetOf file)

def includesOf (load : String → Except Raised String) (file : String) : List String :=
  match load file with
  | .ok text => targetsIn file (Text.lines text)
  | .error _ => []

/-- Visits the files of a list and, after each, the files next to it, unless they are used already.
`order` are the files in the order of their visits. -/
inductive DepthFirst (next : String → List String) :
    List String → Finset String → List String → Finset String → Prop where
  | done {used : Finset String} : DepthFirst next [] used [] used
  | skip {file : String} {rest order : List String} {used used' : Finset String} :
      file ∈ used → DepthFirst next rest used order used' →
      DepthFirst next (file :: rest) used order used'
  | visit {file : String} {rest inner order : List String} {used used₁ used' : Finset String} :
      file ∉ used → DepthFirst next (next file) (insert file used) inner used₁ →
      DepthFirst next rest used₁ order used' →
      DepthFirst next (file :: rest) used (file :: (inner ++ order)) used'

theorem Unfolds.depthFirst {load : String → Except Raised String} {file : String} {ls : List String}
    {used used' : Finset String} {o : Outline} (h : Unfolds load file ls used o used') :
    DepthFirst (includesOf load) (targetsIn file ls) used o.files used' := by
  induction h with
  | done => exact .done
  | keep hline _ ih =>
    rw [targetsIn, List.filterMap_cons_none (by rw [hline]; rfl)]
    exact ih
  | elide hline hused _ ih =>
    rw [targetsIn, List.filterMap_cons_some (by rw [hline]; rfl)]
    exact .skip hused ih
  | nest hline hnew hload _ _ ihi ihr =>
    rw [targetsIn, List.filterMap_cons_some (by rw [hline]; rfl)]
    refine .visit hnew ?_ ihr
    simpa only [includesOf, hload] using ihi

end Expansion

namespace Resolver

/-- The segments of `b` are those of the loaded files, each loaded once and in depth-first order. -/
structure IncludedOnce (load : String → Except Raised String) (root : String)
    (loaded used : List String) (b : Buffer) : Prop where
  distinct : (b.segments.map Segment.file).Nodup
  loaded_eq : b.segments.map Segment.file = loaded
  depth_first : DepthFirst (includesOf load) [root] ∅ loaded used.toFinset
  root_first : loaded.head? = some root
  used_iff : ∀ f, f ∈ b.files ↔ f ∈ used

theorem resolve_files {r : Resolver} {w : World} {path : String} {b : Buffer}
    (h : (r.resolve w path).1 = .ok b) :
    b.segments.map Segment.file = r.loaded w path ∧ (b.segments.map Segment.file).Nodup := by
  obtain ⟨o, text, -, hunfolds, -, -, hloaded, hsegments, -⟩ := resolve_layout h
  have hfiles : b.segments.map Segment.file = r.rootPath w path :: o.files := by
    rw [hsegments, List.map_cons, Outline.files_segments, Segment.ofBlock_file]
  refine ⟨by rw [hfiles, hloaded], ?_⟩
  rw [hfiles]
  exact hunfolds.nodup_cons_files (by simp)

theorem resolve_includes_once (r : Resolver) (w : World) (path : String) (b : Buffer)
    (h : (r.resolve w path).1 = .ok b) :
    IncludedOnce (r.load w) (r.rootPath w path) (r.loaded w path)
      (r.expansion w path).progress.used b := by
  obtain ⟨hfiles, hnodup⟩ := resolve_files h
  obtain ⟨o, text, hload, hunfolds, -, -, hloaded⟩ := resolve_outline h
  generalize r.rootPath w path = root at *
  have hvisit : DepthFirst (includesOf (r.load w)) [root] ∅ (root :: (o.files ++ []))
      (r.expansion w path).progress.used.toFinset := by
    refine .visit (by simp) ?_ .done
    simpa [includesOf, hload] using hunfolds.depthFirst
  refine ⟨hnodup, hfiles, ?_, by rw [hloaded]; rfl, ?_⟩
  · rw [hloaded]
    simpa using hvisit
  · intro f
    have hused : f ∈ (r.expansion w path).progress.used ↔ f = root ∨ f ∈ o.files := by
      rw [← List.mem_toFinset, hunfolds.used_eq]
      simp
    rw [Buffer.files, List.mem_eraseDups, hfiles, hloaded, List.mem_cons, hused]

theorem resolve_includes_once_cyclic :
    (cyclicResolver.resolve {} "a").1 = .ok cyclicMerged ∧
      IncludedOnce (cyclicResolver.load {}) (cyclicResolver.rootPath {} "a")
        (cyclicResolver.loaded {} "a") (cyclicResolver.expansion {} "a").progress.used cyclicMerged :=
  ⟨resolve_cyclic, resolve_includes_once cyclicResolver {} "a" cyclicMerged resolve_cyclic⟩

/-! ## Sources -/

/-- The source of a file: the scheme that serves it, and the body that its loader is handed. -/
def sourceOf (r : Resolver) (path : String) : String × String :=
  ((splitScheme path).1.getD r.config.defaultScheme, (splitScheme path).2)

/-- Two paths of one source are the same, or one of them leaves out the default scheme that the other
one states. -/
theorem sourceOf_eq {r : Resolver} {f g : String} (h : r.sourceOf f = r.sourceOf g) :
    f = g ∨ ∃ body, (splitScheme f = (none, body) ∧
        splitScheme g = (some r.config.defaultScheme, body)) ∨
      (splitScheme g = (none, body) ∧ splitScheme f = (some r.config.defaultScheme, body)) := by
  unfold sourceOf at h
  cases hf : splitScheme f with
  | mk schemeF bodyF =>
  cases hg : splitScheme g with
  | mk schemeG bodyG =>
  rw [hf, hg, Prod.mk.injEq] at h
  obtain ⟨hscheme, hbody⟩ := h
  obtain rfl : bodyF = bodyG := hbody
  -- both schemes left out or both stated: a path is its scheme and its body put together again
  cases schemeF with
  | none =>
    cases schemeG with
    | none => exact .inl ((eq_of_splitScheme_none hf).symm.trans (eq_of_splitScheme_none hg))
    | some s =>
      obtain rfl : r.config.defaultScheme = s := hscheme
      exact .inr ⟨bodyF, .inl ⟨rfl, rfl⟩⟩
  | some s =>
    cases schemeG with
    | none =>
      obtain rfl : s = r.config.defaultScheme := hscheme
      exact .inr ⟨bodyF, .inr ⟨rfl, rfl⟩⟩
    | some t =>
      obtain rfl : s = t := hscheme
      exact .inl ((eq_append_of_splitScheme hf).trans (eq_append_of_splitScheme hg).symm)

/-- The loaded files are different sources exactly when no file is loaded both without a scheme and
with the default scheme. -/
theorem resolve_sources_nodup_iff (r : Resolver) (w : World) (path : String) (b : Buffer)
    (h : (r.resolve w path).1 = .ok b) :
    ((r.loaded w path).map r.sourceOf).Nodup ↔
      ∀ f ∈ r.loaded w path, ∀ g ∈ r.loaded w path, ∀ body, splitScheme f = (none, body) →
        splitScheme g ≠ (some r.config.defaultScheme, body) := by
  obtain ⟨hfiles, hnodup⟩ := resolve_files h
  rw [hfiles] at hnodup
  rw [List.nodup_map_iff_inj_on hnodup]
  constructor
  · intro hinj f hf g hg body hplain hnamed
    have hsame : r.sourceOf f = r.sourceOf g := by simp [sourceOf, hplain, hnamed]
    rw [hinj f hf g hg hsame, hnamed] at hplain
    cases hplain
  · -- equal sources of different paths differ in the stated scheme, which is what `hapart` excludes
    intro hapart f hf g hg hsame
    rcases sourceOf_eq hsame with heq | ⟨body, ⟨hplain, hnamed⟩ | ⟨hplain, hnamed⟩⟩
    · exact heq
    · exact absurd hnamed (hapart f hf g hg body hplain)
    · exact absurd hnamed (hapart g hg f hf body hplain)

theorem resolve_sources_nodup_iff_cyclic :
    (cyclicResolver.resolve {} "a").1 = .ok cyclicMerged ∧
      (((cyclicResolver.loaded {} "a").map cyclicResolver.sourceOf).Nodup ↔
        ∀ f ∈ cyclicResolver.loaded {} "a", ∀ g ∈ cyclicResolver.loaded {} "a", ∀ body,
          splitScheme f = (none, body) →
            splitScheme g ≠ (some cyclicResolver.config.defaultScheme, body)) :=
  ⟨resolve_cyclic, resolve_sources_nodup_iff cyclicResolver {} "a" cyclicMerged resolve_cyclic⟩

/-- A store with one source, which includes itself by its full name. -/
def selfNamingWorld : World :=
  { stores := [(0, .ofSources [("a", "top\n#include_once \"mem://a\"")])] }

def selfNamingResolver : Resolver :=
  { config := { defaultScheme := "mem" }
    table := .guarded (.shared "protocols") ⟨[("mem", .memory 0)]⟩
    logger := .shared "resolver" }

/-- Named without its scheme first, the source is loaded and expanded twice. -/
theorem resolve_loads_source_twice :
    (selfNamingResolver.resolve selfNamingWorld "a").1 =
        .ok ⟨["top", "top", ""], [⟨0, 3, "a", by decide⟩, ⟨1, 3, "mem://a", by decide⟩]⟩ ∧
      selfNamingResolver.loaded selfNamingWorld "a" = ["a", "mem://a"] ∧
      ¬ ((selfNamingResolver.loaded selfNamingWorld "a").map selfNamingResolver.sourceOf).Nodup := by
  decide +kernel

end Resolver
end ShaderInclude
