import ShaderInclude.Proofs.DepthLimit
import ShaderInclude.Proofs.PathRoundTrip

/-!
# ShaderInclude.Proofs.FailureCauses

Why an expansion fails. The calls of an expansion are noted in order, and the first failure ends it, so
the last call is the one that failed. It failed at its own file: the file could not be loaded, or it
was too deep. Nothing fails between the calls: directives always become paths, and the edits of the
buffer are at lines that are there (`run_agrees`).

* `Call.Sound`: what holds of every call. The chains are bounded by the depth limit, so an expansion
  ends even if every file includes one that was never seen before.
* `tracedJobs_accounts`, `tracedFile_accounts`: the loop over the directives of a file, and the
  expansion of a file, account for their failures by the last call.
* `resolve_failure_causes`: a resolver gives a buffer or one of four errors about the file of the last
  call, or hands on the error of a loader as it is. The two exceptions are those of `Unreported`: a fault
  of a loader that has no text, and a depth limit that cannot be written.
-/

namespace ShaderInclude

open Expansion

namespace Expansion

/-! ## Calls -/

theorem normalize_targetOf (file target : String) :
    IncludePath.normalize (targetOf file target) = targetOf file target := by
  unfold targetOf
  split
  · next path hjoin =>
    exact IncludePath.normalize_render ((IncludePath.normal_ofString file).dirname.join hjoin)
  · exact IncludePath.normalize_normalize target

theorem normalize_target_of_mem_jobsOf {file : String} {k : Nat} {ls : List String} {job : Job}
    (h : job ∈ jobsOf file k ls) : IncludePath.normalize job.target = job.target := by
  obtain ⟨line, -, hline⟩ := List.mem_filterMap.1 (target_mem_of_mem_jobsOf h)
  obtain ⟨target, -, htarget⟩ := Option.map_eq_some_iff.1 hline
  rw [← htarget]
  exact normalize_targetOf file target

/-- A call is for a path in its written form, which ends the chain, and the chain is at most one file
longer than the depth limit allows. -/
structure Call.Sound (maxDepth : Int) (call : Call) : Prop where
  rendered : IncludePath.normalize call.path = call.path
  last : call.chain.getLast? = some call.path
  depth : call.chain.length ≤ budgetOf maxDepth + 1

theorem Call.Sound.snoc {maxDepth : Int} {above : List String} {path : String}
    (hpath : IncludePath.normalize path = path) (hdepth : above.length ≤ budgetOf maxDepth) :
    Call.Sound maxDepth ⟨above ++ [path], path⟩ := by
  refine ⟨hpath, by simp, ?_⟩
  simpa using hdepth

/-- A call fails: its file is too deep, or is not too deep and cannot be loaded. -/
inductive FailsAt (load : String → Except Raised String) (maxDepth : Int) (call : Call) :
    Raised → Prop where
  | tooDeep : maxDepth + 1 < call.chain.length →
      FailsAt load maxDepth call (.tooDeep call.chain maxDepth)
  | load {e : Raised} : call.chain.length ≤ maxDepth + 1 → load call.path = .error e →
      FailsAt load maxDepth call e

/-- The calls of a run are sound, and what the run raises is what its last call fails with. -/
structure Accounts (load : String → Except Raised String) (maxDepth : Int) (t : TracedRun) : Prop where
  sound : ∀ call ∈ t.calls, call.Sound maxDepth
  fails : ∀ e, t.run.result = .error (.raised e) →
    ∃ call, t.calls.getLast? = some call ∧ FailsAt load maxDepth call e

section Runs

variable {load : String → Except Raised String} {maxDepth : Int}

theorem Accounts.of_no_error {t : TracedRun} (hsound : ∀ call ∈ t.calls, call.Sound maxDepth)
    (h : ∀ e, t.run.result ≠ .error (.raised e)) : Accounts load maxDepth t :=
  ⟨hsound, fun e he => absurd he (h e)⟩

theorem Accounts.after {t : TracedRun} {calls : List Call} (h : Accounts load maxDepth t)
    (hcalls : ∀ call ∈ calls, call.Sound maxDepth) : Accounts load maxDepth (t.after calls) := by
  refine ⟨?_, ?_⟩
  · intro call hcall
    rcases List.mem_append.1 hcall with hcall | hcall
    · exact hcalls call hcall
    · exact h.sound call hcall
  · intro e he
    obtain ⟨call, hlast, hfails⟩ := h.fails e he
    refine ⟨call, ?_, hfails⟩
    rw [TracedRun.calls_after, List.getLast?_append, hlast, Option.some_or]

theorem tracedJobs_accounts {expand : String → Progress → TracedRun} (file : String) (js : List Job)
    (hexpand : ∀ job ∈ js, ∀ p, Accounts load maxDepth (expand job.target p)) :
    ∀ (offset : Int) (b : Buffer) (p : Progress),
      Accounts load maxDepth (tracedJobs expand file js offset b p) := by
  induction js with
  | nil =>
    intro offset b p
    exact .of_no_error (by simp [tracedJobs]) (by simp [tracedJobs])
  | cons job rest ih =>
    intro offset b p
    have hrest := ih fun j hj => hexpand j (List.mem_cons_of_mem _ hj)
    rw [tracedJobs]
    split
    · cases b.blankLine (job.line + offset) with
      | error e => exact .of_no_error (by simp) (by simp)
      | ok b' => exact hrest offset b' _
    · -- an inner call that fails is the last one; otherwise the calls of the rest follow
      have hinner := hexpand job List.mem_cons_self (p.use job.target)
      cases hrun : expand job.target (p.use job.target) with
      | mk run calls =>
      cases run with
      | mk result p' =>
      rw [hrun] at hinner
      cases result with
      | error e => exact hinner
      | ok nested =>
        simp only
        cases b.splice (job.line + offset) nested with
        | error e => exact .of_no_error hinner.sound (by simp)
        | ok b' => exact (hrest _ b' p').after hinner.sound

theorem tracedFile_accounts (load : String → Except Raised String) (maxDepth : Int) (budget : Nat) :
    ∀ (above : List String) (path : String) (p : Progress), IncludePath.normalize path = path →
      above.length + budget = budgetOf maxDepth →
      Accounts load maxDepth (tracedFile load maxDepth budget (above ++ [path]) path p) := by
  -- the files above and the levels that are left add up to the levels that the limit allows
  induction budget with
  | zero =>
    intro above path p hpath hbudget
    have hown : Call.Sound maxDepth ⟨above ++ [path], path⟩ := .snoc hpath (by omega)
    refine ⟨by simpa [tracedFile] using hown, ?_⟩
    intro e he
    cases he
    refine ⟨⟨above ++ [path], path⟩, rfl, .tooDeep ?_⟩
    simp only [List.length_append, List.length_singleton, budgetOf] at hbudget ⊢
    omega
  | succ budget ih =>
    intro above path p hpath hbudget
    have hown : Call.Sound maxDepth ⟨above ++ [path], path⟩ := .snoc hpath (by omega)
    rw [tracedFile]
    cases hload : load path with
    | error e =>
      refine ⟨by simpa using hown, ?_⟩
      intro e' he
      cases he
      refine ⟨⟨above ++ [path], path⟩, rfl, .load ?_ hload⟩
      simp only [List.length_append, List.length_singleton, budgetOf] at hbudget ⊢
      omega
    | ok text =>
      simp only [jobs_scan]
      refine Accounts.after ?_ (by simpa using hown)
      refine tracedJobs_accounts path _ ?_ 0 _ _
      intro job hjob q
      exact ih (above ++ [path]) job.target q (normalize_target_of_mem_jobsOf hjob)
        (by rw [List.length_append, List.length_singleton]; omega)

/-- A root in its written form expands, or fails as its last call does. -/
theorem run_ok_or_failsAt (load : String → Except Raised String) (maxDepth : Int) {root : String}
    (hroot : IncludePath.normalize root = root) :
    (∃ b, (run load maxDepth root).result = .ok b) ∨
      ∃ e call, (run load maxDepth root).result = .error (.raised e) ∧
        (callsOf load maxDepth root).getLast? = some call ∧ FailsAt load maxDepth call e := by
  cases hresult : (run load maxDepth root).result with
  | ok b => exact .inl ⟨b, rfl⟩
  | error f =>
    obtain ⟨s, -, rfl⟩ := ((run_agrees load maxDepth root).error_iff f).1 hresult
    have hrun := run_tracedFile load maxDepth (budgetOf maxDepth) [root] root {}
    have haccounts := tracedFile_accounts load maxDepth (budgetOf maxDepth) [] root {} hroot (by simp)
    obtain ⟨call, hlast, hfails⟩ := haccounts.fails _ (by rw [List.nil_append, hrun]; exact hresult)
    exact .inr ⟨_, call, rfl, hlast, hfails⟩

end Runs
end Expansion

namespace Resolver

theorem normalize_rootPath (r : Resolver) (w : World) (path : String) :
    IncludePath.normalize (r.rootPath w path) = r.rootPath w path := by
  unfold rootPath RootPath.resolve
  cases splitScheme path with
  | mk scheme body =>
  simp only
  split
  · exact IncludePath.normalize_normalize _
  · exact IncludePath.normalize_normalize path

/-- The loader that serves a file refuses it with an error of its own. -/
def LoaderRefuses (r : Resolver) (w : World) (path : String) (e : Error) : Prop :=
  ∃ loader body, r.loaderFor path = (some loader, body) ∧
    (loader.visit w body).outcome = .refused e

/-- The errors that a resolver has for a call. -/
inductive Reports (r : Resolver) (w : World) (call : Call) : Error → Prop where
  | unserved {body : String} : r.loaderFor call.path = (none, body) →
      Reports r w call (.unsupportedScheme
        ((splitScheme call.path).1.getD r.config.defaultScheme) (some call.path))
  | empty {loader : Loader} {body : String} : r.loaderFor call.path = (some loader, body) →
      (loader.visit w body).outcome = .nothing ∨ (loader.visit w body).outcome = .text "" →
      Reports r w call (.emptyFile call.path)
  | faulted {loader : Loader} {body text : String} {f : Fault} :
      r.loaderFor call.path = (some loader, body) → (loader.visit w body).outcome = .faulted f →
      f.text = .ok text →
      Reports r w call (.unreadable
        ("File loading error (file " ++ call.path ++ "): " ++ text) (some call.path))
  | tooDeep : r.config.maxDepth + 1 < call.chain.length → Text.Writable r.config.maxDepth →
      Reports r w call (.tooDeep call.chain r.config.maxDepth)

theorem Reports.path {r : Resolver} {w : World} {call : Call} {e : Error} (h : r.Reports w call e)
    (hlast : call.chain.getLast? = some call.path) : e.path? = some call.path := by
  cases h with
  | unserved _ => rfl
  | empty _ _ => rfl
  | faulted _ _ _ => rfl
  | tooDeep _ _ => exact hlast

/-- What a resolver lets through at a call without an error about it. -/
inductive Unreported (r : Resolver) (w : World) (call : Call) : Raised → Prop where
  | untold {loader : Loader} {body : String} {f : Fault} {raised : Raised} :
      r.loaderFor call.path = (some loader, body) → (loader.visit w body).outcome = .faulted f →
      f.text = .error raised → Unreported r w call raised
  | unwritable : r.config.maxDepth + 1 < call.chain.length → ¬ Text.Writable r.config.maxDepth →
      Unreported r w call (.unwritable .tooLongToWrite)

/-- Every fault of the loaders has a text. -/
def FaultsTold (r : Resolver) (w : World) : Prop :=
  ∀ path loader body f, r.loaderFor path = (some loader, body) →
    (loader.visit w body).outcome = .faulted f → ∃ text, f.text = .ok text

theorem FaultsTold.not_unreported {r : Resolver} {w : World} (h : r.FaultsTold w)
    (hlimit : Text.Writable r.config.maxDepth) (call : Call) (raised : Raised) :
    ¬ r.Unreported w call raised := by
  intro hun
  cases hun with
  | untold hserved houtcome htext =>
    obtain ⟨text, hok⟩ := h _ _ _ _ hserved houtcome
    cases hok.symm.trans htext
  | unwritable _ hno => exact hno hlimit

/-- Why a resolver raises something at a call: it has an error of its own, which names the path of the
call, or the loader has one, or there is an error that it fails to report. -/
def FailureCause (r : Resolver) (w : World) (call : Call) (raised : Raised) : Prop :=
  (∃ e, raised = .error e ∧
    ((r.Reports w call e ∧ e.path? = some call.path) ∨ r.LoaderRefuses w call.path e)) ∨
  r.Unreported w call raised

theorem Reports.failureCause {r : Resolver} {w : World} {call : Call} {e : Error}
    (h : r.Reports w call e) (hlast : call.chain.getLast? = some call.path) :
    r.FailureCause w call (.error e) :=
  .inl ⟨e, rfl, .inl ⟨h, h.path hlast⟩⟩

theorem failureCause_of_load {r : Resolver} {w : World} {call : Call} {raised : Raised}
    (hlast : call.chain.getLast? = some call.path) (h : r.load w call.path = .error raised) :
    r.FailureCause w call raised := by
  cases hsplit : splitScheme call.path with
  | mk scheme body =>
  cases hget : r.table.get? (some (scheme.getD r.config.defaultScheme)) with
  | none =>
    obtain rfl : .error (.unsupportedScheme (scheme.getD r.config.defaultScheme) (some call.path)) =
        raised := by
      simpa [load, loadWith, hsplit, hget] using h
    have hserved : r.loaderFor call.path = (none, body) := by simp [loaderFor, hsplit, hget]
    have hreports := Reports.unserved (w := w) hserved
    rw [hsplit] at hreports
    exact hreports.failureCause hlast
  | some loader =>
    have hserved : r.loaderFor call.path = (some loader, body) := by simp [loaderFor, hsplit, hget]
    simp only [load, loadWith, hsplit, hget, Option.map_some, Loader.backend] at h
    cases houtcome : (loader.visit w body).outcome with
    | text s =>
      rw [houtcome] at h
      simp only at h
      split at h
      · next hempty =>
        cases h
        exact (Reports.empty hserved (.inr (by rw [houtcome, hempty]))).failureCause hlast
      · cases h
    | nothing =>
      rw [houtcome] at h
      cases h
      exact (Reports.empty hserved (.inl houtcome)).failureCause hlast
    | refused own =>
      rw [houtcome] at h
      cases h
      exact .inl ⟨own, rfl, .inr ⟨loader, body, hserved, houtcome⟩⟩
    | faulted f =>
      rw [houtcome] at h
      simp only at h
      split at h
      · next text htext =>
        cases h
        exact (Reports.faulted hserved houtcome htext).failureCause hlast
      · next htext =>
        cases h
        exact .inr (.untold hserved houtcome htext)

theorem failureCause_of_failsAt {r : Resolver} {w : World} {call : Call} {raised : Raised}
    (hlast : call.chain.getLast? = some call.path)
    (h : FailsAt (r.load w) r.config.maxDepth call raised) : r.FailureCause w call raised := by
  cases h with
  | load _ hload => exact failureCause_of_load hlast hload
  | tooDeep hdeep =>
    by_cases hlimit : Text.Writable r.config.maxDepth
    · rw [Raised.tooDeep_of_writable _ hlimit]
      exact (Reports.tooDeep hdeep hlimit).failureCause hlast
    · rw [Raised.tooDeep_of_not_writable _ hlimit]
      exact .inr (.unwritable hdeep hlimit)

/-- A resolver always comes to an end, and its end is a buffer, an error of its own about the path of
the file at which it stopped, the error of the loader of that file as it is, or what is raised in place
of an error that cannot be put into words. The last does not happen where all of them can be. -/
theorem resolve_failure_causes (r : Resolver) (w : World) (path : String) :
    (∀ call ∈ r.calls w path, call.Sound r.config.maxDepth) ∧
    ((∃ b, (r.resolve w path).1 = .ok b) ∨
      ∃ raised call, (r.resolve w path).1 = .error (.raised raised) ∧
        (r.calls w path).getLast? = some call ∧
        ((∃ e, raised = .error e ∧
            ((r.Reports w call e ∧ e.path? = some call.path) ∨ r.LoaderRefuses w call.path e)) ∨
          r.Unreported w call raised)) ∧
    (Text.Writable r.config.maxDepth → r.FaultsTold w →
      ∀ call raised, ¬ r.Unreported w call raised) := by
  have hroot := r.normalize_rootPath w path
  have haccounts := tracedFile_accounts (r.load w) r.config.maxDepth (budgetOf r.config.maxDepth) []
    (r.rootPath w path) {} hroot (by simp)
  refine ⟨haccounts.sound, ?_, fun hlimit htold => htold.not_unreported hlimit⟩
  rw [resolve_fst]
  rcases run_ok_or_failsAt (r.load w) r.config.maxDepth hroot with
    hok | ⟨raised, call, hresult, hlast, hfails⟩
  · exact .inl hok
  · have hsound := haccounts.sound call (List.mem_of_getLast? hlast)
    exact .inr ⟨raised, call, hresult, hlast, failureCause_of_failsAt hsound.last hfails⟩

/-- Every file includes another one, with a longer name. -/
def endlessResolver : Resolver :=
  { config := { defaultScheme := "mem", maxDepth := 2 }
    table := .free [(some "mem", .custom fun body => .text ("#include_once " ++ body ++ "x"))]
    logger := .shared "resolver" }

theorem loaderFor_endless {path body : String} {loader : Loader}
    (h : endlessResolver.loaderFor path = (some loader, body)) :
    (loader.visit {} body).outcome = .text ("#include_once " ++ body ++ "x") := by
  obtain ⟨hget, -⟩ := Prod.mk.inj h
  simp only [endlessResolver, SchemeTable.get?, List.lookup_cons, List.lookup_nil] at hget
  split at hget
  · cases hget
    rfl
  · cases hget

theorem resolve_failure_causes_endless :
    let call : Call := ⟨["a", "ax", "axx", "axxx"], "axxx"⟩
    Text.Writable endlessResolver.config.maxDepth ∧ endlessResolver.FaultsTold {} ∧
      (endlessResolver.resolve {} "a").1 = .error (.raised (.error (.tooDeep call.chain 2))) ∧
      call ∈ endlessResolver.calls {} "a" ∧ call.Sound 2 ∧
      endlessResolver.Reports {} call (.tooDeep call.chain 2) ∧
      (Error.tooDeep call.chain 2).path? = some call.path := by
  intro call
  have hlimit : Text.Writable endlessResolver.config.maxDepth := by decide +kernel
  have htold : endlessResolver.FaultsTold {} := by
    intro path loader body f hserved houtcome
    cases (loaderFor_endless hserved).symm.trans houtcome
  obtain ⟨hsound, hend, htells⟩ := resolve_failure_causes endlessResolver {} "a"
  have hfail : (endlessResolver.resolve {} "a").1 =
      .error (.raised (.error (.tooDeep call.chain 2))) := by decide +kernel
  have hlast : (endlessResolver.calls {} "a").getLast? = some call := by decide +kernel
  have hcall := List.mem_of_getLast? hlast
  refine ⟨hlimit, htold, hfail, hcall, hsound call hcall, ?_⟩
  rcases hend with ⟨b, hb⟩ | ⟨raised, call', hraised, hlast', hcause⟩
  · cases hfail.symm.trans hb
  · cases hfail.symm.trans hraised
    cases hlast.symm.trans hlast'
    rcases hcause with ⟨e, he, hreports | ⟨loader, body, hserved, hrefused⟩⟩ | hun
    · cases he
      exact hreports
    · cases (loaderFor_endless hserved).symm.trans hrefused
    · exact absurd hun (htells hlimit htold _ _)

/-- A resolver whose loader fails without a text: what is raised about a number that cannot be written
takes its place. -/
def silentResolver : Resolver :=
  { cyclicResolver with
    table := .free [(some "mem", .custom fun _ => .faulted (.untold (.unwritable .tooLongToWrite)))] }

theorem resolve_lets_faults_through :
    (∀ e, (silentResolver.resolve {} "a").1 ≠ .error (.raised (.error e))) ∧
      (silentResolver.resolve {} "a").1 = .error (.raised (.unwritable .tooLongToWrite)) ∧
      (∀ e, ((cyclicResolver.withMaxDepth unwritableLimit).resolve {} "a").1 ≠
        .error (.raised (.error e))) ∧
      ((cyclicResolver.withMaxDepth unwritableLimit).resolve {} "a").1 =
        .error (.raised (.unwritable .tooLongToWrite)) := by
  have huntold : (silentResolver.resolve {} "a").1 =
      .error (.raised (.unwritable .tooLongToWrite)) := by decide +kernel
  refine ⟨?_, huntold, ?_, resolve_unwritableLimit⟩
  · intro e he
    cases huntold.symm.trans he
  · intro e he
    cases resolve_unwritableLimit.symm.trans he

end Resolver
end ShaderInclude
