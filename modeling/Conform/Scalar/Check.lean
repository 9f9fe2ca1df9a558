import Conform.Json.Text
import Conform.Scalar.Basic
import Conform.Text.Blank
import Conform.Violation

/-!
# Checking scalars

A value is read as the base type first: texts of numbers count as numbers, numbers and truth values
as texts. Then each constraint is checked by itself. `Scalar.problems` lists what is wrong with a
value, or with an absent one.

* `problems_none`, `problems_null`: absent and null values are up to the two flags alone.
-/

set_option autoImplicit false

namespace Conform

/-- A kind of broken rule and its description. -/
structure Problem where
  kind : ViolationKind
  message : String
deriving DecidableEq

namespace Problem

/-- A value is missing. -/
def missing : Problem := ⟨.required, "is a required field"⟩

/-- Null where it is not accepted. -/
def notNull : Problem := ⟨.typeError, "cannot be null"⟩

/-- A value that cannot be read as the named type. -/
def wrongType (name : String) (value : Json) : Problem :=
  ⟨.typeError, s!"must be a `{name}` type, but the final value was: `{value.compact}`"⟩

end Problem

/-- Reports problems at a path in their order. -/
def Collector.pushAll (c : Collector) (path : Path) (ps : List Problem) : Collector :=
  ps.foldl (fun c p => c.push path p.kind p.message) c

/-- A value that was read as a base type. -/
inductive Cast
  | text (s : String)
  | number (x : Binary64)
  | boolean (b : Bool)
  | other (v : Json)

/-- The finite number that a text writes, blanks at its ends apart. -/
def numberOfText? (s : String) : Option Binary64 :=
  (Binary64.ofText? (trimBlanks s)).filter Binary64.isFinite

/-- The value read as a base type, if it can be. -/
def BaseType.cast? : BaseType → Json → Option Cast
  | mixed, v => some (.other v)
  | string, .str s => some (.text s)
  | string, .num n => some (.text n.text)
  | string, .bool b => some (.text (if b then "true" else "false"))
  | number, .num n => some (.number n.toBinary64)
  | number, .str s => (numberOfText? s).map .number
  | boolean, .bool b => some (.boolean b)
  | boolean, .str s =>
    if s = "true" then some (.boolean true) else if s = "false" then some (.boolean false) else none
  | _, _ => none

namespace Cast

/-- What bounds apply to: the length of texts and lists, and the value of numbers. -/
def measure? : Cast → Option Binary64
  | text s => some (.ofNat s.length)
  | number x => some x
  | other (.arr items) => some (.ofNat items.length)
  | other (.str s) => some (.ofNat s.length)
  | other (.num n) => some n.toBinary64
  | _ => none

/-- The value is the same as a literal. A number is also the same as a text that writes it. -/
def isLiteral : Cast → Json → Bool
  | text s, .str t => s == t
  | number x, .num n => n.toBinary64.eq x
  | number x, .str t => (Binary64.ofText? (trimBlanks t)).any (·.eq x)
  | boolean b, .bool c => b == c
  | other v, w => v == w
  | _, _ => false

/-- An empty text. -/
def isEmptyText : Cast → Bool
  | text s => s.isEmpty
  | _ => false

/-- The wording of a broken lower bound. -/
def minMessage (c : Cast) (bound : Binary64) : String :=
  match c with
  | text _ => s!"must be at least {bound.plainText} characters"
  | other (.arr _) => s!"must have at least {bound.plainText} items"
  | _ => s!"must be greater than or equal to {bound.plainText}"

/-- The wording of a broken upper bound. -/
def maxMessage (c : Cast) (bound : Binary64) : String :=
  match c with
  | text _ => s!"must be at most {bound.plainText} characters"
  | other (.arr _) => s!"must have at most {bound.plainText} items"
  | _ => s!"must be less than or equal to {bound.plainText}"

end Cast

/-- What is wrong with a value under a constraint. -/
def Constraint.problem? (c : Cast) : Constraint → Option Problem
  | min bound =>
    match c.measure? with
    | some m => if m.lt bound then some ⟨.min, c.minMessage bound⟩ else none
    | none => none
  | max bound =>
    match c.measure? with
    | some m => if bound.lt m then some ⟨.max, c.maxMessage bound⟩ else none
    | none => none
  | oneOf values =>
    if values.any c.isLiteral then none
    else some ⟨.oneOf, "must be one of the following values: " ++
      ", ".intercalate (values.map Json.compact)⟩
  | integer =>
    match c with
    | .number x => if x.isWhole then none else some ⟨.integer, "must be an integer"⟩
    | _ => none
  | pattern p =>
    match c with
    | .text s =>
      if p.accepts s then none
      else some ⟨.pattern, s!"must match the following: \"{p.source}\""⟩
    | _ => none

namespace Scalar

/-- What is wrong with a value that is there and not null. -/
def valueProblems (s : Scalar) (v : Json) : List Problem :=
  match s.base.cast? v with
  | none => [.wrongType s.base.name v]
  | some c =>
    (if s.required && c.isEmptyText then [.missing] else []) ++
      s.constraints.filterMap (·.problem? c)

/-- What is wrong with a value or with an absent one. -/
def problems (s : Scalar) : Option Json → List Problem
  | none => if s.required then [.missing] else []
  | some .null => if s.required then [.missing] else if s.nullable then [] else [.notNull]
  | some v => s.valueProblems v

theorem problems_none (s : Scalar) :
    s.problems none = if s.required then [.missing] else [] := rfl

theorem problems_null (s : Scalar) :
    s.problems (some .null) =
      if s.required then [.missing] else if s.nullable then [] else [.notNull] := rfl

end Scalar

end Conform
