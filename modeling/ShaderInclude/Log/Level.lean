import ShaderInclude.Text.Blank

/-!
# ShaderInclude.Log.Level

Levels of log records: integers, six of which have a name. Settings name a level in any case and
with blanks around it; an unknown name means `info`.
-/

namespace ShaderInclude
namespace Log

abbrev Level := Int

namespace Level

def notset : Level := 0
def debug : Level := 10
def info : Level := 20
def warning : Level := 30
def error : Level := 40
def critical : Level := 50

/-- The name of a level in log lines. -/
def name (level : Level) : String :=
  if level = notset then "NOTSET"
  else if level = debug then "DEBUG"
  else if level = info then "INFO"
  else if level = warning then "WARNING"
  else if level = error then "ERROR"
  else if level = critical then "CRITICAL"
  else "Level " ++ toString level

/-- The names that settings may use. -/
def byName : List (String × Level) :=
  [("CRITICAL", critical), ("FATAL", critical), ("ERROR", error), ("WARN", warning),
    ("WARNING", warning), ("INFO", info), ("DEBUG", debug), ("NOTSET", notset)]

/-- The capital of a letter that occurs in a level name; of the letters beyond ASCII, the dotless i
and the long s have an ASCII capital. -/
def capital (c : Char) : Char :=
  if c.toNat = 0x131 then 'I' else if c.toNat = 0x17f then 'S' else c.toUpper

/-- The level that a setting names. -/
def ofSetting (setting : String) : Level :=
  let key := String.ofList ((Text.trimChars setting.toList).map capital)
  (byName.lookup key).getD info

end Level
end Log
end ShaderInclude
