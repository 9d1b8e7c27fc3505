import ShaderInclude.Expansion

/-!
# ShaderInclude.Proofs.CallTrace

The calls of an expansion. `expandFile` hands the chain of files down from call to call, and shows it
only when a file is too deep. A traced run notes every call with its chain, in order.

* `run_tracedJobs`, `run_tracedFile`: apart from its notes, a traced run is the run.
-/

namespace ShaderInclude
namespace Expansion

/-- A call of `expandFile`: the file to expand, and the chain of files that leads to it. -/
structure Call where
  chain : List String
  path : String
deriving DecidableEq, Repr

structure TracedRun where
  run : Run Buffer
  calls : List Call

/-- The traced run with earlier calls before its own. -/
def TracedRun.after (calls : List Call) (t : TracedRun) : TracedRun :=
  { t with calls := calls ++ t.calls }

@[simp] theorem TracedRun.run_after (calls : List Call) (t : TracedRun) :
    (t.after calls).run = t.run := rfl

@[simp] theorem TracedRun.calls_after (calls : List Call) (t : TracedRun) :
    (t.after calls).calls = calls ++ t.calls := rfl

/-- `runJobs` with the calls that it leads to. -/
def tracedJobs (expand : String → Progress → TracedRun) (file : String) :
    List Job → Int → Buffer → Progress → TracedRun
  | [], _, b, p => ⟨⟨.ok b, p⟩, []⟩
  | job :: rest, offset, b, p =>
    if p.used.contains job.target then
      let p := p.log (.skip file job.line job.target)
      match b.blankLine (job.line + offset) with
      | .error e => ⟨⟨.error (.buffer e), p⟩, []⟩
      | .ok b' => tracedJobs expand file rest offset b' p
    else
      match expand job.target (p.use job.target) with
      | ⟨⟨.error e, p'⟩, calls⟩ => ⟨⟨.error e, p'⟩, calls⟩
      | ⟨⟨.ok nested, p'⟩, calls⟩ =>
        match b.splice (job.line + offset) nested with
        | .error e => ⟨⟨.error (.buffer e), p'⟩, calls⟩
        | .ok b' => (tracedJobs expand file rest (offset + nested.size - 1) b' p').after calls

/-- `expandFile` with the calls made in it, its own first. -/
def tracedFile (load : String → Except Raised String) (maxDepth : Int) :
    Nat → List String → String → Progress → TracedRun
  | 0, chain, path, p => ⟨⟨.error (.raised (.tooDeep chain maxDepth)), p⟩, [⟨chain, path⟩]⟩
  | budget + 1, chain, path, p =>
    let p := (p.use path).log (.load path)
    match load path with
    | .error e => ⟨⟨.error (.raised e), p⟩, [⟨chain, path⟩]⟩
    | .ok text =>
      let b := Buffer.ofText text path
      match jobs path (Directive.scan b.lines) with
      | .error e => ⟨⟨.error (.path e), p⟩, [⟨chain, path⟩]⟩
      | .ok js =>
        (tracedJobs (fun target => tracedFile load maxDepth budget (chain ++ [target]) target) path
          js 0 b p).after [⟨chain, path⟩]

/-- The calls that the expansion of a root file makes, in order. -/
def callsOf (load : String → Except Raised String) (maxDepth : Int) (root : String) : List Call :=
  (tracedFile load maxDepth (budgetOf maxDepth) [root] root {}).calls

theorem run_tracedJobs (expand : String → Progress → TracedRun) (file : String) (js : List Job)
    (offset : Int) (b : Buffer) (p : Progress) :
    (tracedJobs expand file js offset b p).run =
      runJobs (fun target q => (expand target q).run) file js offset b p := by
  induction js generalizing offset b p with
  | nil => rfl
  | cons job rest ih =>
    rw [tracedJobs, runJobs]
    split
    · cases b.blankLine (job.line + offset) with
      | error e => rfl
      | ok b' => exact ih _ _ _
    · cases expand job.target (p.use job.target) with
      | mk run calls =>
      cases run with
      | mk result p' =>
      cases result with
      | error e => rfl
      | ok nested =>
        simp only
        cases b.splice (job.line + offset) nested with
        | error e => rfl
        | ok b' => exact ih _ _ _

theorem run_tracedFile (load : String → Except Raised String) (maxDepth : Int) (budget : Nat)
    (chain : List String) (path : String) (p : Progress) :
    (tracedFile load maxDepth budget chain path p).run =
      expandFile load maxDepth budget chain path p := by
  induction budget generalizing chain path p with
  | zero => rfl
  | succ budget ih =>
    rw [tracedFile, expandFile]
    cases load path with
    | error e => rfl
    | ok text =>
      simp only
      cases jobs path (Directive.scan (Buffer.ofText text path).lines) with
      | error e => rfl
      | ok js => simp only [TracedRun.run_after, run_tracedJobs, ih]

end Expansion
end ShaderInclude
