/-!
# ShaderInclude.Environment

Environment variables that the library reads, and its version.
-/

namespace ShaderInclude

/-- Environment variables; of two entries for a name the first counts. -/
structure Environment where
  settings : List (String × String) := []

namespace Environment

def get? (env : Environment) (name : String) : Option String :=
  env.settings.lookup name

def set (env : Environment) (name value : String) : Environment :=
  ⟨(name, value) :: env.settings⟩

/-- Why a variable could not be set. -/
inductive AssignError where
  | embeddedNull
  | illegalName
  | emptyName
deriving DecidableEq, Repr

def AssignError.message : AssignError → String
  | .embeddedNull => "embedded null byte"
  | .illegalName => "illegal environment variable name"
  | .emptyName => "[Errno 22] Invalid argument"

/-- Sets a variable, if name and value can be those of one. -/
def assign (env : Environment) (name value : String) : Except AssignError Environment :=
  if (name.toList ++ value.toList).contains (Char.ofNat 0) then .error .embeddedNull
  else if name.toList.contains '=' then .error .illegalName
  else if name = "" then .error .emptyName
  else .ok (env.set name value)

/-- Sets variables one after the other, up to the first that cannot be set. -/
def assignAll (env : Environment) : List (String × String) → Environment × Option AssignError
  | [] => (env, none)
  | (name, value) :: rest =>
    match env.assign name value with
    | .error e => (env, some e)
    | .ok env' => env'.assignAll rest

/-- The value of a variable that is set to something. -/
def nonEmpty? (env : Environment) (name : String) : Option String :=
  (env.get? name).filter (· ≠ "")

def maxDepthName : String := "SHADERPREP_MAX_DEPTH"
def encodingName : String := "SHADERPREP_ENCODING"
def traceName : String := "SHADERPREP_TRACE_IO"
def versionName : String := "SHADERPREP_VERSION"
def logJsonName : String := "SHADERPREP_LOG_JSON"
def logLevelName : String := "SHADERPREP_LOG_LEVEL"

/-- Whether a switch is on. -/
def isOn (env : Environment) (name : String) : Bool :=
  env.get? name == some "1"

/-- Whether reads of files and pages are traced. -/
def tracing (env : Environment) : Bool :=
  env.isOn traceName

end Environment

/-- The version that log lines carry. -/
def version : String := "0.1.0"

/-- The version of a build that has none of its own. -/
def Environment.fallbackVersion (env : Environment) : String :=
  (env.get? Environment.versionName).getD "unknown"

end ShaderInclude
