import ShaderInclude.Proofs.IncludeOnce

/-!
# ShaderInclude.Proofs.Dependence

What an expansion depends on. Two expansions of one file, from different backends and with different
depth limits, are compared step by step: as long as the first one loads no file that the second has
otherwise, and does not stop at its limit, both do the same.

* `runJobs_rule`: an invariant of the progress, and what follows from it for the end of the loop.
* `expandFile_extends`: a run only adds to its progress, so what an inner run did is never lost.
* `expandFile_departs_or_eq`: two runs are the same, unless the first one departs (`Departs`).
* `resolve_depends_on_files`: a resolved buffer depends on nothing but the files in it.
-/

namespace ShaderInclude

open Expansion

namespace Expansion

/-! ## Growth of the progress -/

/-- The progress `q` comes after `p` in a run. -/
structure Progress.Extends (q p : Progress) : Prop where
  used : ∀ f ∈ p.used, f ∈ q.used
  events : p.events <+: q.events

namespace Progress.Extends

variable {p q s : Progress}

theorem refl (p : Progress) : p.Extends p :=
  ⟨fun _ hf => hf, List.prefix_rfl⟩

theorem trans (hqp : q.Extends p) (hsq : s.Extends q) : s.Extends p :=
  ⟨fun f hf => hsq.used f (hqp.used f hf), hqp.events.trans hsq.events⟩

theorem log (h : q.Extends p) (e : Event) : (q.log e).Extends p :=
  ⟨h.used, h.events.trans (List.prefix_append _ _)⟩

theorem use (h : q.Extends p) (path : String) : (q.use path).Extends p := by
  unfold Progress.use
  split
  · exact h
  · exact ⟨fun f hf => List.mem_append_left _ (h.used f hf), h.events⟩

theorem loads (h : q.Extends p) {f : String} (hf : f ∈ p.loads) : f ∈ q.loads :=
  (h.events.filterMap Event.loaded?).subset hf

end Progress.Extends

theorem Progress.mem_used_use (p : Progress) (f path : String) :
    f ∈ (p.use path).used ↔ f = path ∨ f ∈ p.used := by
  rw [← List.mem_toFinset, used_use, Finset.mem_insert, List.mem_toFinset]

/-- Either the run went well and its progress satisfies `P`, or it failed and satisfies `Q`. -/
def Run.Continues (P : Progress → Prop) (Q : Run Buffer → Prop) (run : Run Buffer) : Prop :=
  match run.result with
  | .ok _ => P run.progress
  | .error _ => Q run

/-- If every job keeps `P`, or makes the loop fail with `Q`, then the loop ends with `Q`. -/
theorem runJobs_rule {expand : String → Progress → Run Buffer} {file : String}
    {P : Progress → Prop} {Q : Run Buffer → Prop} (js : List Job)
    (hskip : ∀ job ∈ js, ∀ p, P p → P (p.log (.skip file job.line job.target)))
    (hexpand : ∀ job ∈ js, ∀ p, P p → job.target ∉ p.used →
      (expand job.target (p.use job.target)).Continues P Q)
    (hend : ∀ b p, P p → Q ⟨.ok b, p⟩) (hbuffer : ∀ e p, P p → Q ⟨.error (.buffer e), p⟩) :
    ∀ (offset : Int) (b : Buffer) (p : Progress), P p → Q (runJobs expand file js offset b p) := by
  induction js with
  | nil =>
    intro offset b p hp
    exact hend b p hp
  | cons job rest ih =>
    intro offset b p hp
    have hrest := ih (fun j hj => hskip j (List.mem_cons_of_mem _ hj))
      fun j hj => hexpand j (List.mem_cons_of_mem _ hj)
    rw [runJobs]
    by_cases hused : job.target ∈ p.used
    · rw [if_pos (by simpa using hused)]
      have hp' := hskip job List.mem_cons_self p hp
      cases b.blankLine (job.line + offset) with
      | error e => exact hbuffer e _ hp'
      | ok b' => exact hrest offset b' _ hp'
    · rw [if_neg (by simpa using hused)]
      have hinner := hexpand job List.mem_cons_self p hp hused
      cases hrun : expand job.target (p.use job.target) with
      | mk result p' =>
      rw [hrun] at hinner
      cases result with
      | error e => exact hinner
      | ok nested =>
        simp only
        cases b.splice (job.line + offset) nested with
        | error e => exact hbuffer e p' hinner
        | ok b' => exact hrest _ b' p' hinner

theorem runJobs_extends {expand : String → Progress → Run Buffer}
    (hexpand : ∀ target p, (expand target p).progress.Extends p) (file : String) (js : List Job)
    (offset : Int) (b : Buffer) (p : Progress) :
    (runJobs expand file js offset b p).progress.Extends p := by
  refine runJobs_rule (P := fun q => q.Extends p) (Q := fun run => run.progress.Extends p) js ?_ ?_
    (fun _ _ hq => hq) (fun _ _ hq => hq) offset b p (.refl p)
  · intro job _ q hq
    exact hq.log _
  · intro job _ q hq _
    have hinner := (hq.use job.target).trans (hexpand job.target (q.use job.target))
    unfold Run.Continues
    split <;> exact hinner

/-- A file with budget is loaded before anything else. -/
theorem expandFile_extends_load {load : String → Except Raised String} {maxDepth : Int} {budget : Nat}
    (hinner : ∀ chain path p, (expandFile load maxDepth budget chain path p).progress.Extends p)
    (chain : List String) (path : String) (p : Progress) :
    (expandFile load maxDepth (budget + 1) chain path p).progress.Extends
      ((p.use path).log (.load path)) := by
  rw [expandFile]
  cases load path with
  | error e => exact .refl _
  | ok text =>
    simp only [jobs_scan]
    exact runJobs_extends (fun target q => hinner _ target q) path _ 0 _ _

theorem expandFile_extends (load : String → Except Raised String) (maxDepth : Int) (budget : Nat) :
    ∀ (chain : List String) (path : String) (p : Progress),
      (expandFile load maxDepth budget chain path p).progress.Extends p := by
  induction budget with
  | zero =>
    intro chain path p
    exact .refl p
  | succ budget ih =>
    intro chain path p
    exact (((Progress.Extends.refl p).use path).log _).trans (expandFile_extends_load ih chain path p)

/-! ## Two runs -/

/-- The run stops at its depth limit, or loads a file that `load'` has otherwise. -/
def Departs (load load' : String → Except Raised String) (maxDepth : Int) (run : Run Buffer) : Prop :=
  (∃ chain, run.result = .error (.raised (.tooDeep chain maxDepth))) ∨
    ∃ f ∈ run.progress.loads, load' f ≠ load f

section TwoRuns

variable {load load' : String → Except Raised String} {maxDepth maxDepth' : Int}

/-- A run that departs and goes well has loaded such a file, and so has every run that goes on from
it. -/
theorem Departs.after {b : Buffer} {p : Progress} (h : Departs load load' maxDepth ⟨.ok b, p⟩)
    {run : Run Buffer} (hrun : run.progress.Extends p) : Departs load load' maxDepth run := by
  rcases h with ⟨chain, hchain⟩ | ⟨f, hf, hne⟩
  · cases hchain
  · exact .inr ⟨f, hrun.loads hf, hne⟩

theorem runJobs_departs_or_eq {expand expand' : String → Progress → Run Buffer}
    (hextends : ∀ target p, (expand target p).progress.Extends p)
    (hsame : ∀ target p,
      Departs load load' maxDepth (expand target p) ∨ expand' target p = expand target p)
    (file : String) (js : List Job) :
    ∀ (offset : Int) (b : Buffer) (p : Progress),
      Departs load load' maxDepth (runJobs expand file js offset b p) ∨
        runJobs expand' file js offset b p = runJobs expand file js offset b p := by
  induction js with
  | nil =>
    intro offset b p
    exact .inr rfl
  | cons job rest ih =>
    intro offset b p
    simp only [runJobs]
    by_cases hused : p.used.contains job.target = true
    · rw [if_pos hused, if_pos hused]
      cases b.blankLine (job.line + offset) with
      | error e => exact .inr rfl
      | ok b' => exact ih offset b' _
    · rw [if_neg hused, if_neg hused]
      have hinner := hsame job.target (p.use job.target)
      cases hrun : expand job.target (p.use job.target) with
      | mk result p' =>
      rw [hrun] at hinner
      rcases hinner with hdeparts | heq
      · -- the loop ends with the inner run, or goes on from it
        left
        cases result with
        | error e => exact hdeparts
        | ok nested =>
          simp only
          cases b.splice (job.line + offset) nested with
          | error e => exact hdeparts.after (.refl p')
          | ok b' => exact hdeparts.after (runJobs_extends hextends file rest _ b' p')
      · rw [heq]
        cases result with
        | error e => exact .inr rfl
        | ok nested =>
          simp only
          cases b.splice (job.line + offset) nested with
          | error e => exact .inr rfl
          | ok b' => exact ih _ b' p'

theorem expandFile_departs_or_eq (budget : Nat) :
    ∀ (budget' : Nat) (chain : List String) (path : String) (p : Progress), budget ≤ budget' →
      Departs load load' maxDepth (expandFile load maxDepth budget chain path p) ∨
        expandFile load' maxDepth' budget' chain path p =
          expandFile load maxDepth budget chain path p := by
  induction budget with
  | zero =>
    intro budget' chain path p _
    exact .inl (.inl ⟨chain, rfl⟩)
  | succ budget ih =>
    intro budget' chain path p hle
    cases budget' with
    | zero => exact absurd hle (Nat.not_succ_le_zero budget)
    | succ budget' =>
      have hinner := expandFile_extends load maxDepth budget
      by_cases hload : load' path = load path
      · rw [expandFile, expandFile, hload]
        cases load path with
        | error e => exact .inr rfl
        | ok text =>
          simp only [jobs_scan]
          exact runJobs_departs_or_eq (fun target q => hinner _ target q)
            (fun target q => ih budget' _ target q (Nat.le_of_succ_le_succ hle)) path _ 0 _ _
      · refine .inl (.inr ⟨path, ?_, hload⟩)
        exact (expandFile_extends_load hinner chain path p).loads (by simp)

theorem run_departs_or_eq (load load' : String → Except Raised String) (root : String)
    (hle : maxDepth ≤ maxDepth') :
    Departs load load' maxDepth (run load maxDepth root) ∨
      run load' maxDepth' root = run load maxDepth root := by
  refine expandFile_departs_or_eq (budgetOf maxDepth) (budgetOf maxDepth') [root] root {} ?_
  unfold budgetOf
  omega

end TwoRuns
end Expansion

namespace Resolver

/-- Where another resolver with the same settings loads the files of a resolved buffer alike, it
resolves to the same buffer, whatever else it loads otherwise. -/
theorem resolve_depends_on_files (r r' : Resolver) (w w' : World) (path : String) (b : Buffer)
    (hconfig : r'.config = r.config)
    (hdirectory : w'.tree.workingDirectory = w.tree.workingDirectory)
    (h : (r.resolve w path).1 = .ok b) (hload : ∀ f ∈ b.files, r'.load w' f = r.load w f) :
    (r'.resolve w' path).1 = .ok b := by
  obtain ⟨hfiles, -⟩ := resolve_files h
  have hroot : r'.rootPath w' path = r.rootPath w path := by
    rw [rootPath, rootPath, hconfig, hdirectory]
  rw [resolve_fst, expansion] at h ⊢
  rw [hroot, hconfig]
  have hruns := run_departs_or_eq (r.load w) (r'.load w') (r.rootPath w path)
    (Int.le_refl r.config.maxDepth)
  rcases hruns with (⟨chain, hchain⟩ | ⟨f, hf, hne⟩) | hsame
  · cases h.symm.trans hchain
  · refine absurd (hload f ?_) hne
    rw [Buffer.files, List.mem_eraseDups, hfiles]
    exact hf
  · rw [hsame]
    exact h

/-- The first three files of `cyclicFiles` in a memory store, with another text for the fourth. -/
def storedWorld : World :=
  { stores := [(0, .ofSources [("c", "#include_once \"a\"\nc1\n"), ("d", "unused"),
      ("b", "#include_once c\nb1"), ("a", "top\n#include_once \"b\"\n#include_once <c>\nend")])] }

def storedResolver : Resolver :=
  { cyclicResolver with table := .guarded (.shared "protocols") ⟨[("mem", .memory 0)]⟩ }

theorem resolve_depends_on_files_stored :
    (cyclicResolver.resolve {} "a").1 = .ok cyclicMerged ∧
      (∀ f ∈ cyclicMerged.files, storedResolver.load storedWorld f = cyclicResolver.load {} f) ∧
      storedResolver.load storedWorld "d" ≠ cyclicResolver.load {} "d" ∧
      (storedResolver.resolve storedWorld "a").1 = .ok cyclicMerged := by
  have hload : ∀ f ∈ cyclicMerged.files,
      storedResolver.load storedWorld f = cyclicResolver.load {} f := by decide +kernel
  exact ⟨resolve_cyclic, hload, by decide +kernel,
    resolve_depends_on_files cyclicResolver storedResolver {} storedWorld "a" cyclicMerged rfl rfl
      resolve_cyclic hload⟩

end Resolver
end ShaderInclude
