import ShaderInclude.Text.Integer

/-!
# ShaderInclude.Segment

A segment is a half-open range of lines `[start, stop)` that one file produced. Its start is never
after its stop: `make` is the checked way to build one, and `make_ok_iff` says when it succeeds.
-/

namespace ShaderInclude

structure Segment where
  start : Int
  stop : Int
  file : String
  start_le_stop : start ≤ stop
deriving DecidableEq

/-- Bounds that make no segment. -/
structure InvertedBounds where
  start : Int
  stop : Int
deriving DecidableEq, Repr

def InvertedBounds.message (e : InvertedBounds) : String :=
  Text.textOr do
    let start ← Text.writeInt e.start
    let stop ← Text.writeInt e.stop
    return "segment starts after it ends: " ++ start ++ " > " ++ stop

namespace Segment

/-- The segment with the given bounds, if they are in order. -/
def make (start stop : Int) (file : String) : Except InvertedBounds Segment :=
  if h : start ≤ stop then .ok ⟨start, stop, file, h⟩ else .error ⟨start, stop⟩

def length (s : Segment) : Int :=
  s.stop - s.start

def contains (s : Segment) (line : Int) : Bool :=
  s.start ≤ line && line < s.stop

/-- Whether the segment lies within another one. -/
def isInside (s outer : Segment) : Bool :=
  outer.start ≤ s.start && s.stop ≤ outer.stop

/-- The segment moved down by a number of lines. -/
def shifted (s : Segment) (offset : Int) : Segment :=
  ⟨s.start + offset, s.stop + offset, s.file, by have := s.start_le_stop; omega⟩

/-- A bound after the lines past `line` have moved down by `delta`. -/
def moveBound (line delta bound : Int) : Int :=
  if bound > line then bound + delta else bound

/-- The segment after the lines past `line` have moved down by `delta`. -/
def resized (s : Segment) (line delta : Int) : Except InvertedBounds Segment :=
  make (moveBound line delta s.start) (moveBound line delta s.stop) s.file

theorem make_ok_iff (start stop : Int) (file : String) :
    (∃ s, make start stop file = .ok s) ↔ start ≤ stop := by
  unfold make
  split <;> simp_all

theorem contains_iff (s : Segment) (line : Int) :
    s.contains line = true ↔ s.start ≤ line ∧ line < s.stop := by
  simp [contains]

theorem isInside_iff (s outer : Segment) :
    s.isInside outer = true ↔ outer.start ≤ s.start ∧ s.stop ≤ outer.stop := by
  simp [isInside]

end Segment
end ShaderInclude
