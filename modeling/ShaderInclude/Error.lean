import ShaderInclude.Text.Integer
import ShaderInclude.Text.Quoted

/-!
# ShaderInclude.Error

The errors of this library. Each names the path it is about, where there is one. `Error.message` is
the one place that words them.

A backend may also fail in a way of its own; such a failure is a `Fault`. Whoever called the backend
reports it as an `Error` of kind `unreadable`.

An error is put into words when it is raised, and that can fail: a number may be too long to be
written, and a fault may raise something else instead of giving its text. What comes out of it then is
not the error that was meant, so what is `Raised` is an error or a fault.
-/

namespace ShaderInclude

inductive Error where
  /-- A failure that fits no other kind. -/
  | general (text : String) (path : Option String)
  /-- A local path has no canonical form. -/
  | unresolved (text : String) (path : Option String)
  /-- A backend failed to produce text. -/
  | unreadable (text : String) (path : Option String)
  /-- No backend serves the scheme. -/
  | unsupportedScheme (scheme : String) (path : Option String)
  /-- A file has no text. -/
  | emptyFile (path : String)
  /-- The scheme has a backend already. -/
  | schemeTaken (scheme : String)
  /-- Files are nested too deeply; the chain runs from the root to the file that is too deep. -/
  | tooDeep (chain : List String) (maxDepth : Int)
  /-- The compiler refused the merged text: its log with places of origin, and as received. -/
  | rejected (log : String) (rawLog : String)
deriving DecidableEq, Repr

namespace Error

/-- A refusal by the compiler; a missing raw log is the log itself. -/
def rejection (log rawLog : String) : Error :=
  .rejected log (if rawLog = "" then log else rawLog)

/-- The words for files that are nested too deeply. -/
def depthText (chain : List String) (maxDepth : Int) : Except Text.NumeralError String := do
  let limit ← Text.writeInt maxDepth
  return "Include depth limit (" ++ limit ++ ") exceeded: " ++ " -> ".intercalate chain

def message : Error → String
  | .general text _ => text
  | .unresolved text _ => text
  | .unreadable text _ => text
  | .unsupportedScheme scheme path =>
    "Unsupported protocol: " ++ scheme ++ " (" ++ path.getD "None" ++ ")"
  | .emptyFile path => "Empty files are not supported: " ++ path
  | .schemeTaken scheme => "Protocol is already registered: " ++ scheme
  | .tooDeep chain maxDepth => Text.textOr (depthText chain maxDepth)
  | .rejected log _ => log

/-- The path that an error is about. -/
def path? : Error → Option String
  | .general _ path => path
  | .unresolved _ path => path
  | .unreadable _ path => path
  | .unsupportedScheme _ path => path
  | .emptyFile path => some path
  | .schemeTaken _ => none
  | .tooDeep chain _ => chain.getLast?
  | .rejected _ _ => none

end Error

mutual

/-- A failure of a backend that is not an error of this library. -/
inductive Fault where
  | runtime (text : String)
  | invalidValue (text : String)
  | system (text : String)
  | missingKey (key : String)
  | unknownEncoding (name : String)
  | noByteOrderMark
  /-- Values of kinds that do not go together. -/
  | mismatch (text : String)
  | overflow (text : String)
  /-- A failure without a text: whoever asks for it meets what is raised instead. -/
  | untold (raised : Raised)
deriving DecidableEq, Repr

/-- What a caller is left with: an error, or a fault that nobody has reported as one. -/
inductive Raised where
  | error (e : Error)
  | fault (f : Fault)
deriving DecidableEq, Repr

end

/-- The words for an encoding that does not exist. -/
def unknownEncodingText (name : String) : String :=
  "unknown encoding: " ++ name

def Fault.text : Fault → Except Raised String
  | .runtime text => .ok text
  | .invalidValue text => .ok text
  | .system text => .ok text
  | .missingKey key => .ok (Text.quoted key)
  | .unknownEncoding name => .ok (unknownEncodingText name)
  | .noByteOrderMark => .ok "UTF-16 stream does not start with BOM"
  | .mismatch text => .ok text
  | .overflow text => .ok text
  | .untold raised => .error raised

namespace Raised

/-- What is raised in place of a text with a number that cannot be written. -/
def unwritable (e : Text.NumeralError) : Raised :=
  .fault (.invalidValue e.message)

/-- What is raised about files that are nested too deeply. -/
def tooDeep (chain : List String) (maxDepth : Int) : Raised :=
  match Error.depthText chain maxDepth with
  | .ok _ => .error (.tooDeep chain maxDepth)
  | .error e => .unwritable e

theorem tooDeep_of_writable (chain : List String) {maxDepth : Int} (h : Text.Writable maxDepth) :
    tooDeep chain maxDepth = .error (.tooDeep chain maxDepth) := by
  rw [tooDeep, Error.depthText, Text.writeInt_of_writable h]
  rfl

theorem tooDeep_of_not_writable (chain : List String) {maxDepth : Int}
    (h : ¬ Text.Writable maxDepth) : tooDeep chain maxDepth = .unwritable .tooLongToWrite := by
  rw [tooDeep, Error.depthText, Text.writeInt_of_not_writable h]
  rfl

theorem tooDeep_eq_error_iff {chain : List String} {maxDepth : Int} {e : Error} :
    tooDeep chain maxDepth = .error e ↔ Text.Writable maxDepth ∧ e = .tooDeep chain maxDepth := by
  by_cases h : Text.Writable maxDepth
  · simp [tooDeep_of_writable chain h, h, eq_comm]
  · simp [tooDeep_of_not_writable chain h, unwritable, h]

end Raised
end ShaderInclude
