import ShaderInclude.Decimal.Shortest
import ShaderInclude.Text.Quoted

/-!
# ShaderInclude.Log.Value

Values attached to log records as context: what a structured log line can hold. A value has two
written forms: `json`, one line of JSON in which only the quote, the backslash and control
characters are escaped, and `literal`, the form in which plain messages show it.

A dictionary keeps its fields in the order in which they were first put.
-/

namespace ShaderInclude
namespace Log

inductive Value where
  | null
  | bool (b : Bool)
  | int (n : Int)
  | float (x : Float)
  | text (s : String)
  | list (items : List Value)
  | dict (fields : List (String × Value))

namespace Value

def escapeJsonChar (c : Char) : List Char :=
  if c = '"' ∨ c = '\\' then ['\\', c]
  else if c = '\n' then ['\\', 'n']
  else if c = '\r' then ['\\', 'r']
  else if c = '\t' then ['\\', 't']
  else if c = Char.ofNat 8 then ['\\', 'b']
  else if c = Char.ofNat 12 then ['\\', 'f']
  else if c.toNat < 32 then '\\' :: 'u' :: Text.hexDigits 4 c.toNat
  else [c]

/-- A text as a JSON string. -/
def jsonText (s : String) : String :=
  String.ofList ('"' :: s.toList.flatMap escapeJsonChar ++ ['"'])

def braced (inner : String) : String := "\x7b" ++ inner ++ "\x7d"

def bracketed (inner : String) : String := "[" ++ inner ++ "]"

/-- Doubles that are not finite, as JSON and as plain messages name them. -/
def jsonNames : Decimal.SpecialNames := ⟨"Infinity", "NaN"⟩
def literalNames : Decimal.SpecialNames := ⟨"inf", "nan"⟩

mutual

/-- The value as JSON. -/
def json : Value → String
  | .null => "null"
  | .bool b => if b then "true" else "false"
  | .int n => toString n
  | .float x => Decimal.renderFloat jsonNames x
  | .text s => jsonText s
  | .list items => bracketed (", ".intercalate (jsonItems items))
  | .dict fields => braced (", ".intercalate (jsonFields fields))

def jsonItems : List Value → List String
  | [] => []
  | v :: vs => v.json :: jsonItems vs

def jsonFields : List (String × Value) → List String
  | [] => []
  | (key, v) :: rest => (jsonText key ++ ": " ++ v.json) :: jsonFields rest

end

mutual

/-- The value as plain messages show it. -/
def literal : Value → String
  | .null => "None"
  | .bool b => if b then "True" else "False"
  | .int n => toString n
  | .float x => Decimal.renderFloat literalNames x
  | .text s => Text.quoted s
  | .list items => bracketed (", ".intercalate (literalItems items))
  | .dict fields => braced (", ".intercalate (literalFields fields))

def literalItems : List Value → List String
  | [] => []
  | v :: vs => v.literal :: literalItems vs

def literalFields : List (String × Value) → List String
  | [] => []
  | (key, v) :: rest => (Text.quoted key ++ ": " ++ v.literal) :: literalFields rest

end

end Value
end Log
end ShaderInclude
