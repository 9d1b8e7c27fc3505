import ShaderInclude.Segment
import ShaderInclude.Text.Split

/-!
# ShaderInclude.Buffer

A buffer is a list of lines together with the segments that tell which file produced which lines.
Segments stand in the order in which they were added, and a segment is added after the one it was
spliced into.

Three edits change a buffer. `replaceLine` puts the lines of a text in place of one line,
`splice` puts another buffer there and keeps its segments, and `blankLine` empties a line. The
first two move the bounds of the segments below the line, and grow or shrink those around it.
Lines are counted from zero.
-/

namespace ShaderInclude

structure Buffer where
  lines : List String
  segments : List Segment
deriving DecidableEq

/-- Why an edit or a query of a buffer failed. -/
inductive BufferError where
  | lineOutOfRange (line : Int) (count : Nat)
  /-- A line is out of range, and its number or that of the last line cannot be written. -/
  | unwritable (e : Text.NumeralError)
  | noSuchLine
  | noSuchSegment
  /-- An index that no list can have. -/
  | indexTooLarge
  | inverted (bounds : InvertedBounds)
deriving DecidableEq, Repr

namespace BufferError

/-- The words for a line that is out of range. -/
def rangeText (line : Int) (count : Nat) : Except Text.NumeralError String := do
  let line ← Text.writeInt line
  let last ← Text.writeInt (count - 1)
  return "line " ++ line ++ " out of range (0.." ++ last ++ ")"

/-- The error about a line that is out of range. It is put into words at once, so a number that
cannot be written takes its place. -/
def outOfRange (line : Int) (count : Nat) : BufferError :=
  match rangeText line count with
  | .ok _ => .lineOutOfRange line count
  | .error e => .unwritable e

def message : BufferError → String
  | .lineOutOfRange line count => Text.textOr (rangeText line count)
  | .unwritable e => e.message
  | .noSuchLine => "list assignment index out of range"
  | .noSuchSegment => "list index out of range"
  | .indexTooLarge => "cannot fit 'int' into an index-sized integer"
  | .inverted bounds => bounds.message

theorem outOfRange_eq (line : Int) (count : Nat) :
    outOfRange line count =
      if Text.Writable line ∧ Text.Writable (count - 1) then .lineOutOfRange line count
      else .unwritable .tooLongToWrite := by
  by_cases hline : Text.Writable line
  · by_cases hlast : Text.Writable (count - 1)
    · rw [if_pos ⟨hline, hlast⟩, outOfRange, rangeText, Text.writeInt_of_writable hline,
        Text.writeInt_of_writable hlast]
      rfl
    · rw [if_neg fun h => hlast h.2, outOfRange, rangeText, Text.writeInt_of_writable hline,
        Text.writeInt_of_not_writable hlast]
      rfl
  · rw [if_neg fun h => hline h.1, outOfRange, rangeText, Text.writeInt_of_not_writable hline]
    rfl

end BufferError

namespace Buffer

/-- The lines of one file. -/
def ofText (text file : String) : Buffer :=
  let ls := Text.lines text
  ⟨ls, [⟨0, ls.length, file, by omega⟩]⟩

/-- The lines as one text. -/
def text (b : Buffer) : String :=
  Text.unlines b.lines

/-- The number of lines. -/
def size (b : Buffer) : Nat :=
  b.lines.length

def describe (b : Buffer) : String :=
  "TextWithProvenance(lines=" ++ toString b.size ++ ", segments=" ++ toString b.segments.length ++ ")"

/-- The files that have a segment, without repetition. -/
def files (b : Buffer) : List String :=
  (b.segments.map Segment.file).eraseDups

/-- Segments after the lines past `line` have moved down by `delta`. -/
def resizeAll (line delta : Int) : List Segment → Except InvertedBounds (List Segment)
  | [] => .ok []
  | s :: rest =>
    match s.resized line delta with
    | .error e => .error e
    | .ok s' =>
      match resizeAll line delta rest with
      | .error e => .error e
      | .ok rest' => .ok (s' :: rest')

/-- A block of lines in place of one line; the segments follow. -/
def putBlock (b : Buffer) (line : Int) (block : List String) : Except BufferError Buffer :=
  if 0 ≤ line ∧ line < b.size then
    match resizeAll line ((block.length : Int) - 1) b.segments with
    | .error e => .error (.inverted e)
    | .ok segments =>
      .ok ⟨b.lines.take line.toNat ++ block ++ b.lines.drop (line.toNat + 1), segments⟩
  else .error (.outOfRange line b.size)

/-- The lines of a text in place of one line, as lines of `file`. -/
def replaceLine (b : Buffer) (line : Int) (text file : String) : Except BufferError Buffer :=
  let block := Text.lines text
  match b.putBlock line block with
  | .error e => .error e
  | .ok b' =>
    match Segment.make line (line + block.length) file with
    | .error e => .error (.inverted e)
    | .ok s => .ok { b' with segments := b'.segments ++ [s] }

/-- Another buffer in place of one line. The nested buffer is a value of its own, which stays as it is
while its lines and segments are taken over. -/
def splice (b : Buffer) (line : Int) (nested : Buffer) : Except BufferError Buffer :=
  match b.putBlock line nested.lines with
  | .error e => .error e
  | .ok b' => .ok { b' with segments := b'.segments ++ nested.segments.map (·.shifted line) }

/-- The position that an index names in a list of `count` items; a negative index counts from the
end. -/
def position? (count : Nat) (index : Int) : Option Nat :=
  if 0 ≤ index then
    if index < count then some index.toNat else none
  else if -(count : Int) ≤ index then some (count + index).toNat
  else none

/-- The error of an index that names nothing: one beyond 64 bits has its own. -/
def indexError (index : Int) (missing : BufferError) : BufferError :=
  if -(Int.pow 2 63) ≤ index ∧ index < Int.pow 2 63 then missing else .indexTooLarge

/-- Empties a line; an index below zero counts lines from the end. -/
def blankLine (b : Buffer) (index : Int) : Except BufferError Buffer :=
  match position? b.size index with
  | none => .error (indexError index .noSuchLine)
  | some i => .ok { b with lines := b.lines.set i "" }

end Buffer
end ShaderInclude
