/-!
# Sets of characters

A set of characters is a list of ranges of code points, ascending, disjoint and not adjacent; the
operations bring any list of ranges into that form.
-/

set_option autoImplicit false

namespace Conform

/-- A set of code points, as ranges with both ends included. -/
abbrev CharSet := List (Nat × Nat)

namespace CharSet

/-- The largest code point. -/
def maxCode : Nat := 0x10FFFF

/-- The code point is in one of the ranges. -/
def mem (n : Nat) : CharSet → Bool
  | [] => false
  | (a, b) :: rs => if n < a then false else n ≤ b || mem n rs

/-- Joins ranges that touch, in a list that ascends by first ends. -/
def join : Nat × Nat → List (Nat × Nat) → CharSet
  | r, [] => [r]
  | (a, b), (c, d) :: rs =>
    if c ≤ b + 1 then join (a, max b d) rs else (a, b) :: join (c, d) rs

/-- Puts a range in its place among ranges that ascend by first ends. -/
def place (r : Nat × Nat) : List (Nat × Nat) → List (Nat × Nat)
  | [] => [r]
  | s :: ss => if r.1 ≤ s.1 then r :: s :: ss else s :: place r ss

/-- The set of all code points in some of the ranges. -/
def ofRanges (ranges : List (Nat × Nat)) : CharSet :=
  match (ranges.filter fun r => r.1 ≤ r.2).foldr place [] with
  | [] => []
  | r :: rs => join r rs

/-- In one of the sets. -/
def union (s t : CharSet) : CharSet := ofRanges (s ++ t)

/-- The code points from `start` on that are in no range. -/
def gaps : Nat → CharSet → CharSet
  | start, [] => if start ≤ maxCode then [(start, maxCode)] else []
  | start, (a, b) :: rs => if start < a then (start, a - 1) :: gaps (b + 1) rs else gaps (b + 1) rs

/-- Not in the set. -/
def compl (s : CharSet) : CharSet := gaps 0 s

/-- In both sets. -/
def inter (s t : CharSet) : CharSet := compl (union (compl s) (compl t))

/-- In the first set and not in the second. -/
def diff (s t : CharSet) : CharSet := inter s (compl t)

/-- In exactly one of the sets. -/
def symmDiff (s t : CharSet) : CharSet := diff (union s t) (inter s t)

end CharSet

end Conform
