import ShaderInclude.FileTree
import ShaderInclude.Text.Quoted

/-!
# ShaderInclude.FileTree.Canonical

The canonical location of a path: every name on the way must exist, and symbolic links are followed.
The path is walked name by name, and the first place that fails is the one that the fault names, as
it was spelled: a place reached by a relative path is spelled relative to the working directory.

A link that was followed before leads to where it led then; one that is met again while it is being
followed makes a loop. Links that are followed one inside the other are distinct spellings of links, so
`linkBound` bounds their nesting. A walk passes over `.` and takes `..` off the spelling, whatever is
there; only of a loop is it asked whether its steps stand in directories, and then the first one that
does not is the fault.
-/

namespace ShaderInclude

/-- Why a path has no canonical location. -/
inductive PathFault where
  | missing (place : String)
  | notDirectory (place : String)
  | nameTooLong (place : String)
  | linkLoop (place : String)
  | embeddedNull
deriving DecidableEq, Repr

def PathFault.message : PathFault → String
  | .missing place => "[Errno 2] No such file or directory: " ++ Text.quoted place
  | .notDirectory place => "[Errno 20] Not a directory: " ++ Text.quoted place
  | .nameTooLong place => "[Errno 36] File name too long: " ++ Text.quoted place
  | .linkLoop place => "Symlink loop from " ++ Text.quoted place
  | .embeddedNull => "embedded null byte"

namespace FileTree

/-- A place on the way of a walk: from the top of the tree, or `ups` directories above the working
directory; then down by names. -/
structure Place where
  absolute : Bool := false
  ups : Nat := 0
  down : List String := []

namespace Place

def child (p : Place) (name : String) : Place :=
  { p with down := p.down ++ [name] }

/-- The directory above; above the top is the top. -/
def parent (p : Place) : Place :=
  if p.down.isEmpty then (if p.absolute then p else { p with ups := p.ups + 1 })
  else { p with down := p.down.dropLast }

/-- The place as it is spelled. -/
def render (p : Place) : String :=
  if p.absolute then Location.render p.down
  else Text.unsplit '/' (List.replicate p.ups ".." ++ p.down)

def location (t : FileTree) (p : Place) : Location :=
  if p.absolute then p.down
  else t.workingDirectory.take (t.workingDirectory.length - p.ups) ++ p.down

end Place

/-- The longest name and the longest path, in bytes of UTF-8. -/
def longestName : Nat := 255
def longestPath : Nat := 4095

/-- What is at a place, the last name of which is `name`; links are not followed. -/
def inspect (t : FileTree) (p : Place) (name : String) : Except PathFault FileNode :=
  let spelled := p.render
  let l := p.location t
  if spelled.toList.contains (Char.ofNat 0) then .error .embeddedNull
  else if longestPath < spelled.utf8ByteSize then .error (.nameTooLong spelled)
  else
    match t.node? l.dropLast with
    | some .directory =>
      if longestName < name.utf8ByteSize then .error (.nameTooLong spelled)
      else
        match t.node? l with
        | some n => .ok n
        | none => .error (.missing spelled)
    | some _ => .error (.notDirectory spelled)
    | none => .error (.missing spelled)

/-- The names of a path as it is written, the empty ones and `.` among them. -/
def writtenNames (path : String) : List String :=
  (Text.splitWhere (· == '/') path.toList).map String.ofList

/-- Where steps from directory to directory lead. -/
inductive Steps where
  | arrived
  /-- A step that does not stand in a directory. -/
  | notDirectory
  /-- A link in a directory, and the names after it. -/
  | link (directory : Location) (target : String) (rest : List String)

/-- Takes steps from a location up to the first link. -/
def stepNames (t : FileTree) : List String → Location → Steps
  | [], _ => .arrived
  | name :: rest, l =>
    match t.node? l with
    | some .directory =>
      if name = "" ∨ name = "." then stepNames t rest l
      else if name = ".." then stepNames t rest l.dropLast
      else
        match t.node? (l ++ [name]) with
        | some (.link target) => .link l target rest
        | _ => stepNames t rest (l ++ [name])
    | _ => .notDirectory

/-- Whether steps that follow at most `links` links stand in directories all the way. -/
def stepsInDirectories (t : FileTree) : Nat → List String → Location → Bool
  | 0, _, _ => true
  | links + 1, names, l =>
    match t.stepNames names l with
    | .arrived => true
    | .notDirectory => false
    | .link directory target rest =>
      let start := if target.toList.head? = some '/' then [] else directory
      stepsInDirectories t links (writtenNames target ++ rest) start

/-- The most links that are followed on the way to one place. -/
def mostLinks : Nat := 40

/-- The fault of a link at a place that leads back to itself. -/
def loopFault (t : FileTree) (p : Place) : PathFault :=
  let l := p.location t
  if t.stepsInDirectories (mostLinks + 1) (l.drop (l.length - 1)) l.dropLast then .linkLoop p.render
  else .notDirectory p.render

/-- The links met on a walk, by their spelling: where they lead, or none while they are followed. -/
abbrev Links := List (String × Option Place)

/-- Follows names from a place; `follow` follows the target of a link from the directory that holds
it. -/
def walkNames (t : FileTree)
    (follow : Links → Place → String → Except PathFault (Place × Links)) :
    List String → Links → Place → Except PathFault (Place × Links)
  | [], links, p => .ok (p, links)
  | name :: rest, links, p =>
    if name = ".." then walkNames t follow rest links p.parent
    else
      let next := p.child name
      match t.inspect next name with
      | .error e => .error e
      | .ok (.link target) =>
        match links.lookup next.render with
        | some (some known) => walkNames t follow rest links known
        | some none => .error (t.loopFault next)
        | none =>
          match follow ((next.render, none) :: links) p target with
          | .error e => .error e
          | .ok (p', links') => walkNames t follow rest ((next.render, some p') :: links') p'
      | .ok _ => walkNames t follow rest links next

/-- Where a path starts: at the top of the tree or at a place. -/
def startOf (path : String) (p : Place) : Place :=
  if path.toList.head? = some '/' then { absolute := true } else p

/-- Follows a path from a place, links nested at most `depth` deep. -/
def walk (t : FileTree) : Nat → Links → Place → String → Except PathFault (Place × Links)
  | 0, _, p, _ => .error (.linkLoop p.render)
  | depth + 1, links, p, path =>
    walkNames t (walk t depth) (names path) links (startOf path p)

/-- More than there are spellings of links. -/
def linkBound (t : FileTree) : Nat :=
  (t.entries.length + 1) * (t.workingDirectory.length + 2) + 1

/-- The canonical location of a path. -/
def canonical (t : FileTree) (path : String) : Except PathFault Location :=
  match walk t t.linkBound [] {} path with
  | .error e => .error e
  | .ok (p, _) => .ok (p.location t)

end FileTree
end ShaderInclude
