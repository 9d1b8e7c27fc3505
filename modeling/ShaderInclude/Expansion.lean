import ShaderInclude.Buffer
import ShaderInclude.Directive
import ShaderInclude.Error
import ShaderInclude.IncludePath

/-!
# ShaderInclude.Expansion

Expanding a file: its text is loaded, and every directive in it gives way to the expansion of the
file that it names. A file is expanded once; a directive that names a file met before is blanked.

Files nest to a limited depth. `expandFile` recurses on its budget, the number of levels that are
left, so it ends whatever the backends return: a file without budget is too deep. The directives of a
file are collected from its own text before any of them is worked off, and `offset` tells how far
the lines have moved since.

A run keeps its progress, also when it fails: which files it has met, and what it did in which order.
-/

namespace ShaderInclude

/-- What a backend makes of a path. -/
inductive Outcome where
  | text (s : String)
  | nothing
  | refused (e : Error)
  | faulted (f : Fault)

/-- A backend serves paths without their scheme. -/
abbrev Backend := String → Outcome

namespace Expansion

/-- The text of a file, as its backend has it. -/
def loadWith (backend? : String → Option Backend) (defaultScheme path : String) :
    Except Raised String :=
  let (scheme, body) := splitScheme path
  let name := scheme.getD defaultScheme
  match backend? name with
  | none => .error (.error (.unsupportedScheme name (some path)))
  | some backend =>
    match backend body with
    | .text s => if s = "" then .error (.error (.emptyFile path)) else .ok s
    | .nothing => .error (.error (.emptyFile path))
    | .refused e => .error (.error e)
    | .faulted f =>
      match f.text with
      | .ok text =>
        .error (.error (.unreadable ("File loading error (file " ++ path ++ "): " ++ text) (some path)))
      | .error raised => .error raised

/-- What a run does. -/
inductive Event where
  | load (path : String)
  | skip (file : String) (line : Nat) (target : String)
deriving DecidableEq, Repr

structure Progress where
  /-- The files met so far. -/
  used : List String := []
  /-- What was done so far, in order. -/
  events : List Event := []
deriving DecidableEq, Repr

def Progress.use (p : Progress) (path : String) : Progress :=
  if p.used.contains path then p else { p with used := p.used ++ [path] }

def Progress.log (p : Progress) (e : Event) : Progress :=
  { p with events := p.events ++ [e] }

/-- Why a run failed. -/
inductive Failure where
  | raised (e : Raised)
  | path (e : PathError)
  | buffer (e : BufferError)
deriving DecidableEq, Repr

/-- The end of a run, and its progress up to then. -/
structure Run (α : Type) where
  result : Except Failure α
  progress : Progress

/-- The path that a directive in a file names: relative to the file's directory, unless it has a
scheme. -/
def targetPath (file target : String) : Except PathError String :=
  match splitScheme target with
  | (none, _) => ((IncludePath.ofString file).dirname.join target).map IncludePath.render
  | (some _, _) => .ok (IncludePath.normalize target)

/-- A directive whose target has become a path. -/
structure Job where
  line : Nat
  target : String
deriving DecidableEq, Repr

def jobs (file : String) : List Directive → Except PathError (List Job)
  | [] => .ok []
  | d :: rest =>
    match targetPath file d.target with
    | .error e => .error e
    | .ok target =>
      match jobs file rest with
      | .error e => .error e
      | .ok more => .ok (⟨d.line, target⟩ :: more)

/-- Works off the directives of a file; `expand` expands the files they name. -/
def runJobs (expand : String → Progress → Run Buffer) (file : String) :
    List Job → Int → Buffer → Progress → Run Buffer
  | [], _, b, p => ⟨.ok b, p⟩
  | job :: rest, offset, b, p =>
    if p.used.contains job.target then
      let p := p.log (.skip file job.line job.target)
      match b.blankLine (job.line + offset) with
      | .error e => ⟨.error (.buffer e), p⟩
      | .ok b' => runJobs expand file rest offset b' p
    else
      match expand job.target (p.use job.target) with
      | ⟨.error e, p'⟩ => ⟨.error e, p'⟩
      | ⟨.ok nested, p'⟩ =>
        match b.splice (job.line + offset) nested with
        | .error e => ⟨.error (.buffer e), p'⟩
        | .ok b' => runJobs expand file rest (offset + nested.size - 1) b' p'

/-- Expands the last file of a chain of files, each included by the one before it. -/
def expandFile (load : String → Except Raised String) (maxDepth : Int) :
    Nat → List String → String → Progress → Run Buffer
  | 0, chain, _, p => ⟨.error (.raised (.tooDeep chain maxDepth)), p⟩
  | budget + 1, chain, path, p =>
    let p := (p.use path).log (.load path)
    match load path with
    | .error e => ⟨.error (.raised e), p⟩
    | .ok text =>
      let b := Buffer.ofText text path
      match jobs path (Directive.scan b.lines) with
      | .error e => ⟨.error (.path e), p⟩
      | .ok js =>
        runJobs (fun target => expandFile load maxDepth budget (chain ++ [target]) target) path js
          0 b p

/-- The levels that a depth limit allows, the root's included. -/
def budgetOf (maxDepth : Int) : Nat :=
  (maxDepth + 1).toNat

/-- Expands a root file. -/
def run (load : String → Except Raised String) (maxDepth : Int) (root : String) : Run Buffer :=
  expandFile load maxDepth (budgetOf maxDepth) [root] root {}

end Expansion
end ShaderInclude
