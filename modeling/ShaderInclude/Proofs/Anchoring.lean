import ShaderInclude.Proofs.PathJoin
import ShaderInclude.Resolver

/-!
# ShaderInclude.Proofs.Anchoring

Root paths against include targets. The path of a root is normalised twice: first as an absolute path,
which knows slashes only, then as an include path, which cuts at backslashes too and looks for a scheme.
Without backslashes the first pass pushes the same parts onto the same stack (`absoluteNames_eq`), and
the second leaves them alone (`ofString_normalizeAbsolute`), so both together are one join.

With backslashes the passes differ, but what they leave is a rooted normal path, and on such a path
each of them does nothing (`absolute_body`). That gives `resolve_resolve` for every path and scheme.
-/

namespace ShaderInclude

open Text IncludePath

namespace RootPath

/-! ## The lexical pass -/

theorem absoluteNames_eq {path : String} (h : '\\' ∉ path.toList) :
    absoluteNames path = pushAll [] (parts path) := by
  have hsplit : splitWhere (· == '/') path.toList = splitWhere isSeparator path.toList := by
    apply splitWhere_congr
    intro c hc
    have hback : (c == '\\') = false := by
      rw [beq_eq_false_iff_ne]
      rintro rfl
      exact h hc
    rw [isSeparator, hback, Bool.or_false]
  rw [absoluteNames, hsplit]
  rfl

theorem leadingSlashes_cases (path : String) :
    leadingSlashes path = "/" ∨ leadingSlashes path = "/" ++ "/" := by
  unfold leadingSlashes
  split
  · exact .inl rfl
  · exact .inr rfl
  · exact .inl rfl

theorem startsRooted_normalizeAbsolute (path : String) :
    startsRooted (normalizeAbsolute path) = true := by
  unfold normalizeAbsolute
  rcases leadingSlashes_cases path with h | h
  · simp [h, startsRooted, isSeparator]
  · simp [h, startsRooted, isSeparator]

theorem pushAll_parts_normalizeAbsolute (path : String) :
    pushAll [] (parts (normalizeAbsolute path)) =
      pushAll [] (parts (unsplit '/' (absoluteNames path))) := by
  unfold normalizeAbsolute
  rcases leadingSlashes_cases path with h | h
  · rw [h, pushAll_parts_slash]
  · rw [h, String.append_assoc, pushAll_parts_slash, pushAll_parts_slash]

theorem ofString_normalizeAbsolute {path : String} (h : '\\' ∉ path.toList) :
    ofString (normalizeAbsolute path) = { rooted := true, components := pushAll [] (parts path) } := by
  have hrooted := startsRooted_normalizeAbsolute path
  have hnone : (splitScheme (normalizeAbsolute path)).1 = none := by
    rw [splitScheme_of_startsRooted hrooted]
  have hcomponents : ∀ c ∈ pushAll [] (parts path), IsComponent c :=
    isComponent_of_mem_pushAll (fun _ hpart => no_separator_of_mem_parts hpart) (by simp)
  rw [ofString_unqualified hnone, hrooted, pushAll_parts_normalizeAbsolute, absoluteNames_eq h,
    pushAll_parts_unsplit hcomponents]

/-! ## Against one join -/

theorem no_backslash_fromDirectory {directory path : String} (hdirectory : '\\' ∉ directory.toList)
    (hpath : '\\' ∉ path.toList) : '\\' ∉ (fromDirectory directory path).toList := by
  unfold fromDirectory
  split
  · exact hpath
  · split
    · simp [hdirectory, hpath]
    · simp [hdirectory, hpath]

theorem pushAll_parts_fromDirectory (directory : String) {path : String}
    (h : path.toList.head? ≠ some '/') :
    pushAll [] (parts (fromDirectory directory path)) =
      pushAll (pushAll [] (parts directory)) (parts path) := by
  unfold fromDirectory
  rw [if_neg h]
  split
  · next hslash =>
    -- the slash that the directory ends with is the one between the two
    obtain ⟨upper, hupper⟩ := List.getLast?_eq_some_iff.1 hslash
    have hdirectory : directory = String.ofList upper ++ "/" ++ "" := by
      apply String.toList_inj.1
      simp [hupper]
    have hjoined : directory ++ path = String.ofList upper ++ "/" ++ path := by
      rw [hdirectory, String.append_empty]
    rw [hjoined, pushAll_append_slash, hdirectory, pushAll_append_slash]
    rfl
  · exact pushAll_append_slash [] directory path

theorem join_of_relative {directory path : String} (hrooted : startsRooted directory = true)
    (hdirectory : '\\' ∉ directory.toList) (hpath : '\\' ∉ path.toList)
    (hnone : (splitScheme path).1 = none) (hrelative : path.toList.head? ≠ some '/') :
    (ofString directory).join path = .ok (ofString (absolute directory path)) := by
  have hqualified : (splitScheme directory).1 = none := by rw [splitScheme_of_startsRooted hrooted]
  rw [join_eq _ hnone, absolute,
    ofString_normalizeAbsolute (no_backslash_fromDirectory hdirectory hpath),
    pushAll_parts_fromDirectory directory hrelative, ofString_unqualified hqualified, hrooted]

theorem ofString_of_absolute (directory : String) {path : String} (hpath : '\\' ∉ path.toList)
    (hslash : path.toList.head? = some '/') : ofString (absolute directory path) = ofString path := by
  have hrooted : startsRooted path = true := by simp [startsRooted, hslash, isSeparator]
  have hnone : (splitScheme path).1 = none := by rw [splitScheme_of_startsRooted hrooted]
  rw [absolute, fromDirectory, if_pos hslash, ofString_normalizeAbsolute hpath,
    ofString_unqualified hnone, hrooted]

/-! ## Normal paths stay -/

theorem no_backslash_body {p : IncludePath} (h : p.Normal) : '\\' ∉ p.body.toList := by
  have hinner : '\\' ∉ (unsplit '/' p.components).toList := by
    rw [unsplit, String.toList_ofList]
    intro hmem
    rcases mem_joinWith hmem with hslash | ⟨piece, hpiece, hc⟩
    · exact absurd hslash (by decide)
    · obtain ⟨c, hcomponent, rfl⟩ := List.mem_map.1 hpiece
      cases (h.components c hcomponent).no_separator _ hc
  unfold body
  cases p.rooted with
  | false => exact hinner
  | true => simpa using hinner

theorem leadingSlashes_slash {s : String} (h : startsRooted s = false) :
    leadingSlashes ("/" ++ s) = "/" := by
  have hchars : ("/" ++ s).toList = '/' :: s.toList := by simp
  unfold leadingSlashes
  rw [hchars]
  cases hs : s.toList with
  | nil => rfl
  | cons c cs =>
    have hc : c ≠ '/' := by
      rintro rfl
      simp [startsRooted, hs, isSeparator] at h
    split
    · next heq => exact absurd (List.cons.inj (List.cons.inj heq).2).1 hc
    · next heq => exact absurd (List.cons.inj (List.cons.inj heq).2).1 hc
    · rfl

theorem absolute_body {p : IncludePath} (h : p.Normal) (hrooted : p.rooted = true)
    (directory : String) : absolute directory p.body = p.body := by
  have hbody : p.body = "/" ++ unsplit '/' p.components := by rw [body, hrooted, if_pos rfl]
  have hslash : p.body.toList.head? = some '/' := by simp [hbody]
  have hnames : absoluteNames p.body = p.components := by
    rw [absoluteNames_eq (no_backslash_body h), h.pushAll_parts_body]
  have hlead : leadingSlashes p.body = "/" := by
    rw [hbody, leadingSlashes_slash (startsRooted_unsplit h.components)]
  rw [absolute, fromDirectory, if_pos hslash, normalizeAbsolute, hnames, hlead, hbody]

/-! ## The root of a caller's path -/

theorem splitScheme_absolute (directory path : String) :
    splitScheme (absolute directory path) = (none, absolute directory path) :=
  splitScheme_of_startsRooted (startsRooted_normalizeAbsolute _)

theorem scheme_ofString_absolute (directory path : String) :
    (ofString (absolute directory path)).scheme = none := by
  simp only [ofString, splitScheme_absolute]

theorem rooted_ofString_absolute (directory path : String) :
    (ofString (absolute directory path)).rooted = true := by
  have hrooted := startsRooted_normalizeAbsolute (fromDirectory directory path)
  simp only [ofString, splitScheme_absolute]
  exact hrooted

theorem resolve_local (directory : String) {defaultScheme path body : String} {scheme : Option String}
    (hsplit : splitScheme path = (scheme, body)) (hfile : scheme.getD defaultScheme = fileScheme) :
    resolve directory defaultScheme path =
      ((ofString (absolute directory body)).withScheme scheme).render := by
  have hnone : (splitScheme (absolute directory body)).1 = none := by rw [splitScheme_absolute]
  simp only [resolve, hsplit, hfile, if_true]
  cases scheme with
  | none => rw [IncludePath.normalize, ofString_unqualified hnone, withScheme]
  | some s => rw [IncludePath.normalize, ofString_qualified (isName_of_splitScheme hsplit) hnone]

theorem resolve_foreign (directory : String) {defaultScheme path body : String} {scheme : Option String}
    (hsplit : splitScheme path = (scheme, body)) (hfile : scheme.getD defaultScheme ≠ fileScheme) :
    resolve directory defaultScheme path = IncludePath.normalize path := by
  simp only [resolve, hsplit, hfile, if_false]

theorem resolve_render {p : IncludePath} (h : p.Normal) (hrooted : p.rooted = true)
    {defaultScheme : String} (hfile : p.scheme.getD defaultScheme = fileScheme) (directory : String) :
    resolve directory defaultScheme p.render = p.render := by
  rw [resolve_local directory h.splitScheme_render hfile, absolute_body h hrooted, h.ofString_body]
  rfl

/-- A root path names itself as a root. -/
theorem resolve_resolve (directory defaultScheme path : String) :
    resolve directory defaultScheme (resolve directory defaultScheme path) =
      resolve directory defaultScheme path := by
  cases hsplit : splitScheme path with
  | mk scheme body =>
  by_cases hfile : scheme.getD defaultScheme = fileScheme
  · have hname : ∀ s, scheme = some s → isName s = true := by
      rintro s rfl
      exact isName_of_splitScheme hsplit
    have hnormal := (normal_ofString (absolute directory body)).withScheme hname
    have hrooted : ((ofString (absolute directory body)).withScheme scheme).rooted = true := by
      rw [rooted_withScheme, rooted_ofString_absolute]
    rw [resolve_local directory hsplit hfile]
    exact resolve_render hnormal hrooted (by rw [scheme_withScheme, hfile]) directory
  · have hagain : splitScheme (IncludePath.normalize path) = (scheme, (ofString path).body) := by
      rw [IncludePath.normalize, (normal_ofString path).splitScheme_render]
      simp only [ofString, hsplit]
    rw [resolve_foreign directory hsplit hfile, resolve_foreign directory hagain hfile,
      normalize_normalize]

end RootPath

namespace Resolver

open RootPath

theorem rootPath_unqualified {r : Resolver} (hdefault : r.config.defaultScheme = fileScheme)
    (w : World) {body : String} (hnone : (splitScheme body).1 = none) :
    r.rootPath w body = (ofString (absolute w.tree.workingDirectory.render body)).body := by
  rw [rootPath, resolve_local _ (splitScheme_of_fst_none hnone) hdefault, render_withScheme_none]

theorem rootPath_qualified (r : Resolver) (w : World) (body : String) :
    r.rootPath w (fileScheme ++ "://" ++ body) =
      fileScheme ++ "://" ++ (ofString (absolute w.tree.workingDirectory.render body)).body := by
  have hsplit := splitScheme_append fileScheme body (by decide +kernel)
  rw [rootPath, resolve_local _ hsplit rfl, render_withScheme_some]

/-- With local files as the default and no backslashes, a relative root is joined to the working
directory as a target is to the directory of its file, an absolute root is read as a target is, and
the scheme of local files in front changes nothing else. For every path, default and directory, a root
path is the root path of itself. -/
theorem rootPath_anchored :
    (∀ (r : Resolver) (w : World), r.config.defaultScheme = fileScheme →
      '\\' ∉ w.tree.workingDirectory.render.toList →
      ∀ body : String, '\\' ∉ body.toList → (splitScheme body).1 = none →
        (body.toList.head? ≠ some '/' →
          ∃ q, (ofString w.tree.workingDirectory.render).join body = .ok q ∧
            r.rootPath w body = q.render) ∧
        (body.toList.head? = some '/' → r.rootPath w body = (ofString body).render) ∧
        r.rootPath w (fileScheme ++ "://" ++ body) = fileScheme ++ "://" ++ r.rootPath w body) ∧
    ∀ (r : Resolver) (w : World) (path : String),
      r.rootPath w (r.rootPath w path) = r.rootPath w path := by
  refine ⟨?_, ?_⟩
  · intro r w hdefault hdirectory body hbody hnone
    have hroot := rootPath_unqualified hdefault w hnone
    have hrender : (ofString (absolute w.tree.workingDirectory.render body)).render =
        r.rootPath w body := by
      rw [hroot, render, scheme_ofString_absolute]
    refine ⟨?_, ?_, ?_⟩
    · intro hrelative
      have hrooted : startsRooted w.tree.workingDirectory.render = true := by
        simp [startsRooted, Location.render, isSeparator]
      exact ⟨_, join_of_relative hrooted hdirectory hbody hnone hrelative, hrender.symm⟩
    · intro hslash
      rw [← hrender, ofString_of_absolute _ hbody hslash]
    · rw [rootPath_qualified, hroot]
  · intro r w path
    exact resolve_resolve _ _ path

/-- A root that climbs past the top, one that starts with two slashes, and one with backslashes. -/
theorem rootPath_anchored_climbing :
    let r : Resolver := { config := {}, table := .free [], logger := .shared "resolver" }
    let w : World := { tree := { workingDirectory := ["srv", "app"] } }
    (∃ q, (ofString w.tree.workingDirectory.render).join "../..//../lib/./x:/y" = .ok q ∧
        r.rootPath w "../..//../lib/./x:/y" = q.render) ∧
      r.rootPath w "../..//../lib/./x:/y" = "/lib/x:/y" ∧
      r.rootPath w "//lib/../y" = (ofString "//lib/../y").render ∧
      r.rootPath w (fileScheme ++ "://" ++ "//lib/../y") =
        fileScheme ++ "://" ++ r.rootPath w "//lib/../y" ∧
      r.rootPath w (r.rootPath w "..\\..\\y") = r.rootPath w "..\\..\\y" := by
  intro r w
  have hdirectory : '\\' ∉ w.tree.workingDirectory.render.toList := by decide +kernel
  have hclimbing := rootPath_anchored.1 r w rfl hdirectory "../..//../lib/./x:/y"
    (by decide +kernel) (by decide +kernel)
  have hrooted := rootPath_anchored.1 r w rfl hdirectory "//lib/../y"
    (by decide +kernel) (by decide +kernel)
  exact ⟨hclimbing.1 (by decide +kernel), by decide +kernel, hrooted.2.1 (by decide +kernel),
    hrooted.2.2, rootPath_anchored.2 r w "..\\..\\y"⟩

end Resolver
end ShaderInclude
