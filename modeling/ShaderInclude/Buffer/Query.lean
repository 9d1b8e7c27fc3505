import ShaderInclude.Buffer

/-!
# ShaderInclude.Buffer.Query

Where a line of a buffer comes from. The owner of a line is the segment added last among those that
contain it. The parent of a segment is the closest segment before it that encloses it. A line's
number within its owner's file is found by taking away, for each direct child that ends before the
line, the lines that the child has beyond the one it replaced.
-/

namespace ShaderInclude
namespace Buffer

/-- The last index whose item satisfies `p`. -/
def lastIndex? {α : Type} (p : α → Bool) : List α → Option Nat
  | [] => none
  | a :: rest =>
    match lastIndex? p rest with
    | some i => some (i + 1)
    | none => if p a then some 0 else none

/-- The index of the segment that owns a line. -/
def ownerIndex? (b : Buffer) (line : Int) : Option Nat :=
  lastIndex? (·.contains line) b.segments

/-- The segment that owns a line. -/
def owner? (b : Buffer) (line : Int) : Option Segment :=
  (b.ownerIndex? line).bind (b.segments[·]?)

/-- The index of the parent of the segment at an index. -/
def parent? (b : Buffer) (index : Nat) : Option Nat :=
  match b.segments[index]? with
  | none => none
  | some s => lastIndex? (s.isInside ·) (b.segments.take index)

/-- The parent of the segment that an index names. Nothing stands before an index that counts from
the end, so such an index has no parent. -/
def parentIndex (b : Buffer) (index : Int) : Except BufferError (Option Nat) :=
  match position? b.segments.length index with
  | none => .error (indexError index .noSuchSegment)
  | some i => .ok (if 0 ≤ index then b.parent? i else none)

/-- The parent of the first segment equal to the given one. -/
def parentOf? (b : Buffer) (s : Segment) : Option Segment :=
  ((b.segments.findIdx? (· == s)).bind b.parent?).bind (b.segments[·]?)

/-- The indices of the direct children of the segment at an index. -/
def children (b : Buffer) (index : Nat) : List Nat :=
  (List.range b.segments.length).filter fun i => index < i && b.parent? i == some index

/-- The children of the segment that an index names. The search starts at the next index, which must
not lie before the first segment; an index below zero has no children. -/
def childIndices (b : Buffer) (index : Int) : Except BufferError (List Nat) :=
  if 0 ≤ index then .ok (b.children index.toNat)
  else if -(b.segments.length : Int) ≤ index + 1 then .ok []
  else .error (indexError (index + 1) .noSuchSegment)

/-- The lines that a direct child adds to its parent before `line`. -/
def surplusBefore (line : Int) (child : Segment) : Int :=
  if child.stop ≤ line then child.length - 1 else 0

/-- The lines that the direct children of a segment add to it before `line`. -/
def totalSurplus (line : Int) (children : List Segment) : Int :=
  children.foldr (fun child n => surplusBefore line child + n) 0

/-- The file and the line within it that a line of the buffer comes from. -/
def locate? (b : Buffer) (line : Int) : Option (String × Int) :=
  match b.ownerIndex? line with
  | none => none
  | some i =>
    match b.segments[i]? with
    | none => none
    | some s =>
      let children := (b.children i).filterMap (b.segments[·]?)
      some (s.file, line - s.start - totalSurplus line children)

/-- The segments that contain a line, in the order in which they were added. -/
def segmentsAt (b : Buffer) (line : Int) : List Segment :=
  b.segments.filter (·.contains line)

theorem lastIndex?_lt {α : Type} (p : α → Bool) (xs : List α) (i : Nat)
    (h : lastIndex? p xs = some i) : i < xs.length := by
  induction xs generalizing i with
  | nil => simp [lastIndex?] at h
  | cons x xs ih =>
    rw [lastIndex?] at h
    split at h
    · next j hj =>
      have := ih j hj
      simp only [Option.some.injEq] at h
      simp only [List.length_cons]
      omega
    · split at h
      · simp only [Option.some.injEq] at h
        simp [← h]
      · simp at h

theorem lastIndex?_eq_none_iff {α : Type} (p : α → Bool) (xs : List α) :
    lastIndex? p xs = none ↔ ∀ x ∈ xs, p x = false := by
  induction xs with
  | nil => simp [lastIndex?]
  | cons x xs ih =>
    rw [lastIndex?]
    cases h : lastIndex? p xs with
    | some i =>
      rw [h] at ih
      simp only [reduceCtorEq, false_iff] at ih ⊢
      intro hall
      exact ih fun y hy => hall y (by simp [hy])
    | none =>
      rw [h] at ih
      have hxs := ih.1 rfl
      cases hx : p x <;> simp_all

end Buffer
end ShaderInclude
