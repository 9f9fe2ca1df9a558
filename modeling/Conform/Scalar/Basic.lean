import Conform.Json.Basic
import Conform.Pattern

/-!
# Scalars

A `Scalar` checks a single value: its base type, whether null is accepted and a value required, and
constraints that do not depend on one another. A bound, a list of permitted values and the demand
for whole numbers replace an earlier constraint of their kind; patterns add up.

* `Step.apply`: what one step of building does; `Scalar.built` runs a list of steps.
-/

set_option autoImplicit false

namespace Conform

/-- The type that a value is read as before its constraints are checked. -/
inductive BaseType
  | string
  | number
  | boolean
  | mixed
deriving DecidableEq

/-- The name of a base type. -/
def BaseType.name : BaseType → String
  | string => "string"
  | number => "number"
  | boolean => "boolean"
  | mixed => "mixed"

/-- A check on top of the base type. Bounds are on the length of texts and lists and on the value of
numbers. -/
inductive Constraint
  | min (bound : Binary64)
  | max (bound : Binary64)
  | oneOf (values : List Json)
  | integer
  | pattern (p : Pattern)

namespace Constraint

/-- The kinds of constraints. -/
inductive Kind
  | min
  | max
  | oneOf
  | integer
  | pattern
deriving DecidableEq

/-- The kind of a constraint. -/
def kind : Constraint → Kind
  | min _ => .min
  | max _ => .max
  | oneOf _ => .oneOf
  | integer => .integer
  | pattern _ => .pattern

/-- Equal constraints: bounds as numbers, values as values, patterns by their source. -/
def same : Constraint → Constraint → Bool
  | min x, min y => x.eq y
  | max x, max y => x.eq y
  | oneOf vs, oneOf ws => Json.sameItems vs ws
  | integer, integer => true
  | pattern p, pattern q => p.source == q.source
  | _, _ => false

end Constraint

/-- The checks of a single value. -/
structure Scalar where
  base : BaseType
  nullable : Bool
  required : Bool
  constraints : List Constraint

namespace Scalar

/-- The scalar of a base type without anything else. -/
def of (base : BaseType) : Scalar := ⟨base, false, false, []⟩

/-- Any value, null included. -/
def permissive : Scalar := { of .mixed with nullable := true }

/-! ## Building -/

/-- Null is accepted. -/
def allowNull (s : Scalar) : Scalar := { s with nullable := true }

/-- Absent, null and empty values are refused. -/
def require (s : Scalar) : Scalar := { s with required := true }

/-- The constraint in place of the earlier ones of its kind, at the end of the list. -/
def replace (s : Scalar) (c : Constraint) : Scalar :=
  { s with constraints := s.constraints.filter (fun d => d.kind != c.kind) ++ [c] }

/-- A lower bound. -/
def atLeast (s : Scalar) (bound : Binary64) : Scalar := s.replace (.min bound)

/-- An upper bound. -/
def atMost (s : Scalar) (bound : Binary64) : Scalar := s.replace (.max bound)

/-- One of the values. -/
def among (s : Scalar) (values : List Json) : Scalar := s.replace (.oneOf values)

/-- Whole numbers. -/
def whole (s : Scalar) : Scalar := s.replace .integer

/-- Texts that match the pattern, beside the earlier ones. -/
def matching (s : Scalar) (p : Pattern) : Scalar :=
  { s with constraints := s.constraints ++ [.pattern p] }

/-- E-mail addresses. -/
def email (s : Scalar) : Scalar := s.matching .email

/-- A step of building a scalar. -/
inductive Step
  | nullable
  | required
  | integer
  | email
  | min (bound : Binary64)
  | max (bound : Binary64)
  | oneOf (values : List Json)
  | pattern (p : Pattern)

/-- The scalar after a step. -/
def Step.apply (s : Scalar) : Step → Scalar
  | nullable => s.allowNull
  | required => s.require
  | integer => s.whole
  | email => s.email
  | min x => s.atLeast x
  | max x => s.atMost x
  | oneOf vs => s.among vs
  | pattern p => s.matching p

/-- The scalar of a base type after some steps. -/
def built (base : BaseType) (steps : List Step) : Scalar := steps.foldl Step.apply (of base)

/-! ## Looking at a scalar -/

/-- Whole numbers are demanded. -/
def isInteger (s : Scalar) : Bool := s.constraints.any (·.kind == .integer)

/-- The lower bound. -/
def lower? (s : Scalar) : Option Binary64 :=
  s.constraints.findSome? fun | .min x => some x | _ => none

/-- The upper bound. -/
def upper? (s : Scalar) : Option Binary64 :=
  s.constraints.findSome? fun | .max x => some x | _ => none

/-- The permitted values, if they are restricted. -/
def allowed? (s : Scalar) : Option (List Json) :=
  s.constraints.findSome? fun | .oneOf vs => some vs | _ => none

/-- The patterns. -/
def patterns (s : Scalar) : List Pattern :=
  s.constraints.filterMap fun | .pattern p => some p | _ => none

/-- Equal constraints in the same order. -/
def sameConstraints : List Constraint → List Constraint → Bool
  | [], [] => true
  | c :: cs, d :: ds => c.same d && sameConstraints cs ds
  | _, _ => false

/-- Equal in all parts. -/
def same (s t : Scalar) : Bool :=
  s.base == t.base && s.nullable == t.nullable && s.required == t.required &&
    sameConstraints s.constraints t.constraints

end Scalar

/-! ## JSON -/

/-- A constraint as an object with its kind and, if it has one, its value. -/
def Constraint.toJson : Constraint → Json
  | .min x => .obj [("kind", .str "min"), ("value", .ofBinary64 x)]
  | .max x => .obj [("kind", .str "max"), ("value", .ofBinary64 x)]
  | .oneOf vs => .obj [("kind", .str "oneOf"), ("value", .arr vs)]
  | .integer => .obj [("kind", .str "integer")]
  | .pattern p => .obj [("kind", .str "matches"), ("value", .str p.source)]

/-- The parts of a scalar as members. -/
def Scalar.members (s : Scalar) : List (String × Json) :=
  [("base", .str s.base.name), ("nullable", .bool s.nullable), ("required", .bool s.required),
   ("constraints", .arr (s.constraints.map Constraint.toJson))]

/-- A scalar as an object. -/
def Scalar.toJson (s : Scalar) : Json := .obj s.members

end Conform
