import Conform.KeyMap
import Conform.Number.Binary64

/-!
# JSON values

Numbers are integers or doubles, and the two are never equal: `1` and `1.0` are different values.
The members of an object are listed in the order in which they are written; an object that was read
has them in ascending order of their names, each once.
-/

set_option autoImplicit false

namespace Conform

/-- A number: a literal without fraction and exponent that fits 64 bits is an integer, every other
one a finite double. -/
inductive Number
  | int (i : Int)
  | real (x : Binary64)
deriving DecidableEq

namespace Number

/-- The nearest double. -/
def toBinary64 : Number → Binary64
  | int i => .ofInt i
  | real x => x

/-- Integers are equal to integers, and doubles to doubles of the same value. -/
def same : Number → Number → Bool
  | int i, int j => i == j
  | real x, real y => x.eq y
  | _, _ => false

/-- An integer from 0 to `2 ^ 64 - 1`. -/
def isCount : Number → Bool
  | int i => 0 ≤ i && i.toNat < Nat.pow 2 64
  | real _ => false

end Number

/-- A JSON value. -/
inductive Json
  | null
  | bool (b : Bool)
  | num (n : Number)
  | str (s : String)
  | arr (items : List Json)
  | obj (members : List (String × Json))

namespace Json

instance : Inhabited Json := ⟨.null⟩

/-! ## Equality -/

mutual

/-- Equal values, numbers by `Number.same`. -/
def same : Json → Json → Bool
  | null, null => true
  | bool a, bool b => a == b
  | num a, num b => a.same b
  | str a, str b => a == b
  | arr a, arr b => sameItems a b
  | obj a, obj b => sameMembers a b
  | _, _ => false

/-- Equal items in the same order. -/
def sameItems : List Json → List Json → Bool
  | [], [] => true
  | a :: as, b :: bs => same a b && sameItems as bs
  | _, _ => false

/-- Equal members in the same order. -/
def sameMembers : List (String × Json) → List (String × Json) → Bool
  | [], [] => true
  | (k, a) :: as, (l, b) :: bs => k == l && same a b && sameMembers as bs
  | _, _ => false

end

instance : BEq Json := ⟨same⟩

/-! ## Building and looking up -/

/-- The integer `n`. -/
def nat (n : Nat) : Json := num (.int n)

/-- A double; what is not finite has no number and becomes null. -/
def ofBinary64 (x : Binary64) : Json := if x.isFinite then num (.real x) else null

/-- The list of the texts. -/
def strs (texts : List String) : Json := arr (texts.map str)

/-- The value or null. -/
def orNull {α : Type} (f : α → Json) : Option α → Json
  | none => null
  | some a => f a

/-- The value of a member. -/
def get? (key : String) : Json → Option Json
  | obj ms => ms.lookup key
  | _ => none

end Json

end Conform
