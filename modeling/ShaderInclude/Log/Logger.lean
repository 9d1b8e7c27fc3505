import ShaderInclude.Environment
import ShaderInclude.Log.Record

/-!
# ShaderInclude.Log.Logger

Loggers. All shared loggers live under one base logger, which has a level and handlers; the others
have neither. `BaseLogger.setup` installs a handler the first time, and afterwards only sets the
level. A `Factory` does that setup when it is first asked for a logger.

A captured logger stands apart: its records go to whoever runs the component.
-/

namespace ShaderInclude
namespace Log

def baseName : String := "shaderprep"

/-- The full name of the logger of a component. -/
def loggerName (name : Option String) : String :=
  match name with
  | none => baseName
  | some n =>
    if n = "" ∨ n = baseName then baseName
    else if (baseName ++ ".").toList.isPrefixOf n.toList then n
    else baseName ++ "." ++ n

/-- Where a component sends its records. -/
inductive Logger where
  | shared (component : String)
  | captured (component : String)
deriving DecidableEq, Repr

/-- The name that a logger's records carry. -/
def Logger.name : Logger → String
  | .shared component => loggerName (some component)
  | .captured component => component

/-- A handler writes records to a stream. -/
structure Handler where
  stream : String
  format : Format

structure BaseLogger where
  level : Level := Level.notset
  handlers : List Handler := []
  propagate : Bool := true

/-- The stream of a handler for which none is given. -/
def standardError : String := "stderr"

/-- How the base logger is to be set up. -/
structure Setup where
  stream : Option String := none
  jsonLines : Bool := false
  level : Level := Level.info

def Setup.handler (s : Setup) : Handler :=
  ⟨s.stream.getD standardError, if s.jsonLines then .json version else .plain⟩

namespace BaseLogger

/-- Sets the level, and installs the handler unless there is one already. -/
def setup (base : BaseLogger) (s : Setup) : BaseLogger :=
  if base.handlers.isEmpty then
    { level := s.level, handlers := [s.handler], propagate := false }
  else { base with level := s.level }

/-- The least level that is written. A base logger without a level has the one above it. -/
def threshold (base : BaseLogger) : Level :=
  if base.level = Level.notset then Level.warning else base.level

/-- Whether records of a level are written. -/
def isEnabled (base : BaseLogger) (level : Level) : Bool :=
  Level.notset < level && base.threshold ≤ level

/-- What the handlers write for a record: streams and lines. -/
def write (base : BaseLogger) (stamp : String) (r : Record) : List (String × String) :=
  if base.isEnabled r.level then
    base.handlers.map fun h => (h.stream, r.render stamp h.format ++ "\n")
  else []

end BaseLogger

/-- Hands out shared loggers and sets the base logger up on the first request. -/
structure Factory where
  setup : Setup
  configured : Bool := false

namespace Factory

/-- A factory by the settings of the environment. -/
def ofEnvironment (env : Environment) (stream : Option String := none) : Factory :=
  { setup :=
      { stream := stream
        jsonLines := env.isOn Environment.logJsonName
        level := Level.ofSetting ((env.nonEmpty? Environment.logLevelName).getD "INFO") } }

/-- The factory and the base logger after a request for a logger. -/
def request (f : Factory) (base : BaseLogger) : Factory × BaseLogger :=
  if f.configured then (f, base) else ({ f with configured := true }, base.setup f.setup)

end Factory

/-- A record about a read of a file or a page, if such reads are traced. -/
def traceRecord (env : Environment) (logger : Logger) (message : String)
    (context : List (String × Value)) : Option Record :=
  if env.tracing then
    some
      { logger := logger.name
        level := Level.debug
        message := if context.isEmpty then message
          else message ++ " | ctx=" ++ (Value.dict context).literal
        context := context }
  else none

/-- The fixed parts of a trace, whose names no field of a context may bear. -/
def traceParts : List String := ["logger", "message"]

/-- A field of a context with the name of a fixed part. -/
structure DoubleField where
  field : String
deriving DecidableEq, Repr

def DoubleField.message (e : DoubleField) : String :=
  "trace_io() got multiple values for argument '" ++ e.field ++ "'"

/-- A trace with fields of the caller's own. -/
def trace (env : Environment) (logger : Logger) (message : String)
    (context : List (String × Value)) : Except DoubleField (Option Record) :=
  match context.find? (traceParts.contains ·.1) with
  | some (field, _) => .error ⟨field⟩
  | none => .ok (traceRecord env logger message context)

end Log
end ShaderInclude
