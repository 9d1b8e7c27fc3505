import ShaderInclude.Proofs.Dependence

/-!
# ShaderInclude.Proofs.DepthLimit

The depth limit of an expansion. Files may include each other in circles; the limit is for chains of
different files that are too long.

* `resolve_depth_only_cuts`: a lower limit makes an expansion stop, or changes nothing.
* `IncludeChain`: files from the root on, each included by the one before it, and none twice.
* `expandFile_explained`: an error comes from a load, or from an include chain that is too long by one
  file. The files of the current chain are used already, so a file that is not used extends the chain.
* `resolve_too_deep`: the same for a resolver. Few files that include only each other are never too
  deep.
-/

namespace ShaderInclude

open Expansion

namespace Resolver

theorem resolve_withMaxDepth_congr {r : Resolver} {w : World} {path : String} {d d' : Int}
    (h : run (r.load w) d (r.rootPath w path) = run (r.load w) d' (r.rootPath w path)) :
    (r.withMaxDepth d).resolve w path = (r.withMaxDepth d').resolve w path := by
  have hrun : run ((r.withMaxDepth d).load w) d ((r.withMaxDepth d).rootPath w path) =
      run ((r.withMaxDepth d').load w) d' ((r.withMaxDepth d').rootPath w path) := h
  unfold resolve
  simp only [withMaxDepth] at hrun ⊢
  rw [hrun]
  rfl

/-- A lower limit cuts a run short or leaves it as it is. A run that is cut short says so, if the limit
can be written, and otherwise fails to write it. -/
theorem resolve_depth_only_cuts (r : Resolver) (w : World) (path : String) (d d' : Int)
    (hle : d ≤ d') :
    (Text.Writable d ∧
      ∃ chain, ((r.withMaxDepth d).resolve w path).1 = .error (.raised (.error (.tooDeep chain d)))) ∨
    (¬ Text.Writable d ∧
      ((r.withMaxDepth d).resolve w path).1 = .error (.raised (.unwritable .tooLongToWrite))) ∨
    (r.withMaxDepth d).resolve w path = (r.withMaxDepth d').resolve w path := by
  rcases run_departs_or_eq (r.load w) (r.load w) (r.rootPath w path) hle with
    (⟨chain, hchain⟩ | ⟨f, -, hne⟩) | hsame
  · have hcut : ((r.withMaxDepth d).resolve w path).1 = .error (.raised (.tooDeep chain d)) := by
      rw [resolve_fst]
      exact hchain
    by_cases hwrite : Text.Writable d
    · rw [Raised.tooDeep_of_writable chain hwrite] at hcut
      exact .inl ⟨hwrite, chain, hcut⟩
    · rw [Raised.tooDeep_of_not_writable chain hwrite] at hcut
      exact .inr (.inl ⟨hwrite, hcut⟩)
  · exact absurd rfl hne
  · exact .inr (.inr (resolve_withMaxDepth_congr hsame.symm))

/-- Of three files that include each other in circles, a limit of one level cuts off the third, and one
of two levels nothing. -/
theorem resolve_depth_only_cuts_cyclic :
    ((1 : Int) ≤ 2 ∧ (2 : Int) ≤ 64) ∧
      ((cyclicResolver.withMaxDepth 1).resolve {} "a").1 =
        .error (.raised (.error (.tooDeep ["a", "b", "c"] 1))) ∧
      (cyclicResolver.withMaxDepth 1).resolve {} "a" ≠ (cyclicResolver.withMaxDepth 2).resolve {} "a" ∧
      (cyclicResolver.withMaxDepth 2).resolve {} "a" = (cyclicResolver.withMaxDepth 64).resolve {} "a" ∧
      ((cyclicResolver.withMaxDepth 64).resolve {} "a").1 = .ok cyclicMerged := by
  have hone : ((cyclicResolver.withMaxDepth 1).resolve {} "a").1 =
      .error (.raised (.error (.tooDeep ["a", "b", "c"] 1))) := by decide +kernel
  have htwo : ((cyclicResolver.withMaxDepth 2).resolve {} "a").1 = .ok cyclicMerged := by
    decide +kernel
  have hsame : (cyclicResolver.withMaxDepth 2).resolve {} "a" =
      (cyclicResolver.withMaxDepth 64).resolve {} "a" := by
    rcases resolve_depth_only_cuts cyclicResolver {} "a" 2 64 (by decide) with
      ⟨-, chain, hcut⟩ | ⟨-, hcut⟩ | hsame
    · cases htwo.symm.trans hcut
    · cases htwo.symm.trans hcut
    · exact hsame
  refine ⟨by decide, hone, ?_, hsame, hsame ▸ htwo⟩
  intro heq
  rw [heq, htwo] at hone
  cases hone

/-- Every file is too deep for a negative limit, but a run that is cut short does not say so if that
limit cannot be written, nor does it end as under a higher limit. -/
theorem resolve_depth_cut_unreported :
    unwritableLimit ≤ 64 ∧
      (∀ chain limit, ((cyclicResolver.withMaxDepth unwritableLimit).resolve {} "a").1 ≠
        .error (.raised (.error (.tooDeep chain limit)))) ∧
      ((cyclicResolver.withMaxDepth unwritableLimit).resolve {} "a").1 ≠
        ((cyclicResolver.withMaxDepth 64).resolve {} "a").1 := by
  refine ⟨by decide +kernel, ?_, ?_⟩
  · intro chain limit heq
    cases resolve_unwritableLimit.symm.trans heq
  · rw [resolve_unwritableLimit]
    exact fun heq => nomatch heq.trans resolve_cyclic

end Resolver

namespace Expansion

/-! ## Include chains -/

structure IncludeChain (load : String → Except Raised String) (root : String) (chain : List String) :
    Prop where
  root_first : chain.head? = some root
  distinct : chain.Nodup
  linked : chain.IsChain fun f g => g ∈ includesOf load f

namespace IncludeChain

variable {load : String → Except Raised String} {root : String} {chain : List String}

theorem single (load : String → Except Raised String) (root : String) :
    IncludeChain load root [root] :=
  ⟨rfl, List.nodup_singleton root, .singleton root⟩

theorem snoc {above : List String} {path target : String}
    (h : IncludeChain load root (above ++ [path])) (htarget : target ∈ includesOf load path)
    (hnew : target ∉ above ++ [path]) : IncludeChain load root (above ++ [path] ++ [target]) := by
  refine ⟨?_, ?_, ?_⟩
  · rw [List.head?_append_of_ne_nil _ (by simp)]
    exact h.root_first
  · rw [List.nodup_append]
    refine ⟨h.distinct, List.nodup_singleton target, ?_⟩
    rintro f hf g hg rfl
    exact hnew (List.mem_singleton.1 hg ▸ hf)
  · refine h.linked.append (.singleton target) ?_
    intro f hf g hg
    obtain rfl : path = f := by simpa using hf
    obtain rfl : target = g := by simpa using hg
    exact htarget

/-- A chain stays within every set that holds the root and all that its files include. -/
theorem length_le_card (h : IncludeChain load root chain) {S : Finset String} (hroot : root ∈ S)
    (hclosed : ∀ f ∈ S, ∀ g ∈ includesOf load f, g ∈ S) : chain.length ≤ S.card := by
  have hwithin : ∀ f ∈ chain, f ∈ S := by
    refine h.linked.induction (· ∈ S) chain ?_ ?_
    · intro f g hg hf
      exact hclosed f hf g hg
    · intro hne
      have hhead := h.root_first
      rw [List.head?_eq_some_head hne, Option.some.injEq] at hhead
      rw [hhead]
      exact hroot
  rw [← List.toFinset_card_of_nodup h.distinct]
  apply Finset.card_le_card
  intro f hf
  exact hwithin f (List.mem_toFinset.1 hf)

end IncludeChain

/-- What the run raises was raised by a load of the run, or is about an include chain that is one file
longer than the limit allows. -/
def Explained (load : String → Except Raised String) (maxDepth : Int) (root : String)
    (run : Run Buffer) : Prop :=
  ∀ e, run.result = .error (.raised e) →
    (∃ f ∈ run.progress.loads, load f = .error e) ∨
      ∃ chain, e = .tooDeep chain maxDepth ∧ (chain.length : Int) = maxDepth + 2 ∧
        IncludeChain load root chain

theorem target_mem_of_mem_jobsOf {file : String} {ls : List String} {job : Job} :
    ∀ {k : Nat}, job ∈ jobsOf file k ls → job.target ∈ targetsIn file ls := by
  induction ls with
  | nil =>
    intro k h
    simp [jobsOf] at h
  | cons line rest ih =>
    intro k h
    rw [jobsOf] at h
    cases ht : Directive.target? line with
    | none =>
      simp only [ht] at h
      simpa [targetsIn, ht] using ih h
    | some target =>
      simp only [ht, List.mem_cons] at h
      rcases h with rfl | h
      · simp [targetsIn, ht]
      · have := ih h
        simp only [targetsIn, List.filterMap_cons, ht, Option.map_some, List.mem_cons] at this ⊢
        exact .inr this

theorem expandFile_explained (load : String → Except Raised String) (maxDepth : Int) (root : String)
    (budget : Nat) :
    ∀ (above : List String) (path : String) (p : Progress),
      IncludeChain load root (above ++ [path]) → (above.length : Int) + budget = maxDepth + 1 →
      (∀ f ∈ above, f ∈ p.used) →
      Explained load maxDepth root (expandFile load maxDepth budget (above ++ [path]) path p) := by
  induction budget with
  | zero =>
    intro above path p hchain hbudget _ e he
    obtain rfl : .tooDeep (above ++ [path]) maxDepth = e := by simpa [expandFile] using he
    refine .inr ⟨above ++ [path], rfl, ?_, hchain⟩
    rw [List.length_append, List.length_singleton]
    omega
  | succ budget ih =>
    intro above path p hchain hbudget hused
    rw [expandFile]
    cases hload : load path with
    | error e =>
      intro e' he
      obtain rfl : e = e' := by simpa using he
      exact .inl ⟨path, by simp, hload⟩
    | ok text =>
      simp only [jobs_scan]
      refine runJobs_rule (P := fun q => ∀ f ∈ above ++ [path], f ∈ q.used) _ (fun _ _ _ hq => hq)
        ?_ ?_ ?_ 0 _ _ ?_
      · -- a file that is not used is none of the chain, so it makes the chain longer
        intro job hjob q hq hnew
        have htarget : job.target ∈ includesOf load path := by
          rw [includesOf, hload]
          exact target_mem_of_mem_jobsOf hjob
        have hlonger := hchain.snoc htarget fun hmem => hnew (hq _ hmem)
        have hmarked : ∀ f ∈ above ++ [path], f ∈ (q.use job.target).used :=
          fun f hf => (q.mem_used_use f _).2 (.inr (hq f hf))
        have hinner := ih (above ++ [path]) job.target (q.use job.target) hlonger
          (by rw [List.length_append, List.length_singleton]; omega) hmarked
        have hextends := expandFile_extends load maxDepth budget
          (above ++ [path] ++ [job.target]) job.target (q.use job.target)
        unfold Run.Continues
        split
        · exact fun f hf => hextends.used f (hmarked f hf)
        · exact hinner
      · intro b q _ e he
        cases he
      · intro e' q _ e he
        cases he
      · intro f hf
        rw [Progress.used_log, Progress.mem_used_use]
        rcases List.mem_append.1 hf with hf | hf
        · exact .inr (hused f hf)
        · exact .inl (List.mem_singleton.1 hf)

theorem run_explained (load : String → Except Raised String) {maxDepth : Int} (hdepth : 0 ≤ maxDepth)
    (root : String) : Explained load maxDepth root (run load maxDepth root) := by
  refine expandFile_explained load maxDepth root (budgetOf maxDepth) [] root {} (.single load root)
    ?_ (by simp)
  unfold budgetOf
  simp only [List.length_nil]
  omega

end Expansion

namespace Resolver

/-- The resolver stops because a chain of files is too long: it says so, and none of its loaders
did. -/
def StopsTooDeep (r : Resolver) (w : World) (path : String) (chain : List String) (limit : Int) :
    Prop :=
  (r.resolve w path).1 = .error (.raised (.error (.tooDeep chain limit))) ∧
    ∀ f ∈ r.loaded w path, r.load w f ≠ .error (.error (.tooDeep chain limit))

theorem StopsTooDeep.chain {r : Resolver} {w : World} {path : String} {chain : List String}
    {limit : Int} (h : r.StopsTooDeep w path chain limit) (hdepth : 0 ≤ r.config.maxDepth) :
    limit = r.config.maxDepth ∧ (chain.length : Int) = r.config.maxDepth + 2 ∧
      IncludeChain (r.load w) (r.rootPath w path) chain := by
  obtain ⟨hstop, hown⟩ := h
  rw [resolve_fst] at hstop
  rcases run_explained (r.load w) hdepth (r.rootPath w path) _ hstop with
    ⟨f, hf, hload⟩ | ⟨chain', heq, hlength, hchain⟩
  · exact absurd hload (hown f hf)
  · obtain ⟨-, heq⟩ := Raised.tooDeep_eq_error_iff.1 heq.symm
    cases heq
    exact ⟨rfl, hlength, hchain⟩

/-- A resolver stops only below a chain of different files, each including the next, that is one file
longer than the limit allows. So it never stops among few files that include only each other. -/
theorem resolve_too_deep (r : Resolver) (w : World) (path : String)
    (hdepth : 0 ≤ r.config.maxDepth) :
    (∀ chain limit, r.StopsTooDeep w path chain limit →
      limit = r.config.maxDepth ∧ (chain.length : Int) = r.config.maxDepth + 2 ∧
        IncludeChain (r.load w) (r.rootPath w path) chain) ∧
    ∀ S : Finset String, r.rootPath w path ∈ S →
      (∀ f ∈ S, ∀ g ∈ includesOf (r.load w) f, g ∈ S) → (S.card : Int) ≤ r.config.maxDepth + 1 →
      ∀ chain limit, ¬ r.StopsTooDeep w path chain limit := by
  constructor
  · intro chain limit hstop
    exact hstop.chain hdepth
  · intro S hroot hclosed hcard chain limit hstop
    obtain ⟨-, hlength, hchain⟩ := hstop.chain hdepth
    have hle := hchain.length_le_card hroot hclosed
    omega

/-- Three files that include each other in circles are too deep below one level, and not below two. -/
theorem resolve_too_deep_cyclic :
    (cyclicResolver.withMaxDepth 1).StopsTooDeep {} "a" ["a", "b", "c"] 1 ∧
      IncludeChain (cyclicResolver.load {}) "a" ["a", "b", "c"] ∧
      (∀ f ∈ ({"a", "b", "c"} : Finset String), ∀ g ∈ includesOf (cyclicResolver.load {}) f,
        g ∈ ({"a", "b", "c"} : Finset String)) ∧
      ∀ chain limit, ¬ (cyclicResolver.withMaxDepth 2).StopsTooDeep {} "a" chain limit := by
  have hstop : (cyclicResolver.withMaxDepth 1).StopsTooDeep {} "a" ["a", "b", "c"] 1 :=
    ⟨by decide +kernel, by decide +kernel⟩
  have hclosed : ∀ f ∈ ({"a", "b", "c"} : Finset String),
      ∀ g ∈ includesOf (cyclicResolver.load {}) f, g ∈ ({"a", "b", "c"} : Finset String) := by
    decide +kernel
  have hchain := (resolve_too_deep (cyclicResolver.withMaxDepth 1) {} "a" (by decide)).1 _ _ hstop
  exact ⟨hstop, hchain.2.2, hclosed,
    (resolve_too_deep (cyclicResolver.withMaxDepth 2) {} "a" (by decide)).2 {"a", "b", "c"}
      (by decide +kernel) hclosed (by decide)⟩

end Resolver
end ShaderInclude
