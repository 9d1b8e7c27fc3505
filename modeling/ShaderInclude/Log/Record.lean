import ShaderInclude.Log.Level
import ShaderInclude.Log.Template
import ShaderInclude.Log.Timestamp

/-!
# ShaderInclude.Log.Record

A log record: what one call of a logger says. Records carry the name of the logger, a level, a
message and a context, which is empty for most of them.

An `Entry` is a record before it is put into words: a template with its arguments, and a time. Both may
turn out not to have a written form.
-/

namespace ShaderInclude
namespace Log

structure Record where
  logger : String
  level : Level
  message : String
  context : List (String × Value) := []

/-- How a handler writes records: level and message, or a line of JSON with the library's version. -/
inductive Format where
  | plain
  | json (version : String)

namespace Record

/-- The record as a line of JSON. A context without fields is left out. -/
def json (stamp version : String) (r : Record) : String :=
  Value.json <| .dict <|
    [("ts", .text stamp), ("level", .text r.level.name), ("module", .text r.logger),
      ("msg", .text r.message), ("version", .text version)] ++
    (if r.context.isEmpty then [] else [("ctx", .dict r.context)])

/-- The record as a handler writes it at the time that `stamp` shows. -/
def render (stamp : String) : Format → Record → String
  | .plain, r => Level.name r.level ++ ": " ++ r.message
  | .json version, r => r.json stamp version

end Record

/-- A record as it is handed to a formatter. -/
structure Entry where
  logger : String
  level : Level
  template : String
  arguments : List Value := []
  /-- When the record was made, in seconds. -/
  created : Float
  context : List (String × Value) := []

/-- Why an entry has no written form. -/
inductive EntryError where
  | time (e : Timestamp.TimeError)
  | template (e : Template.TemplateError)
deriving DecidableEq, Repr

def EntryError.message : EntryError → String
  | .time e => e.message
  | .template e => e.message

/-- The entry as a line of JSON; its time is written before its message. -/
def Entry.json (version : String) (e : Entry) : Except EntryError String :=
  match Timestamp.ofFloat e.created with
  | .error problem => .error (.time problem)
  | .ok stamp =>
    match Template.fill e.template e.arguments with
    | .error problem => .error (.template problem)
    | .ok message =>
      let record : Record :=
        { logger := e.logger, level := e.level, message := message, context := e.context }
      .ok (record.render stamp (.json version))

end Log
end ShaderInclude
