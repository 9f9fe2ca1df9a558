import Conform.Scalar.Basic

/-!
# Validators

A `Validator` is a tree of checks: a scalar for a single value, named fields for an object, one
validator for all items of a list with bounds on their number. The fields are in ascending order of
their names.
-/

set_option autoImplicit false

namespace Conform

/-- A tree of checks. -/
inductive Validator
  | scalar (s : Scalar)
  | object (fields : List (String × Validator)) (required nullable : Bool)
  | array (element : Validator) (required nullable : Bool) (least most : Option Nat)

namespace Validator

instance : Inhabited Validator := ⟨.scalar .permissive⟩

/-- The name of the type that is checked. -/
def typeName : Validator → String
  | scalar s => s.base.name
  | object .. => "object"
  | array .. => "array"

/-- An absent value is refused. -/
def isRequired : Validator → Bool
  | scalar s => s.required
  | object _ required _ => required
  | array _ required _ _ _ => required

/-- Null is accepted. -/
def isNullable : Validator → Bool
  | scalar s => s.nullable
  | object _ _ nullable => nullable
  | array _ _ nullable _ _ => nullable

/-- The validator of a field. -/
def field? (name : String) : Validator → Option Validator
  | object fields _ _ => fields.lookup name
  | _ => none

/-- The validator of the items. -/
def element? : Validator → Option Validator
  | array e _ _ _ _ => some e
  | _ => none

/-! ## Equality -/

mutual

/-- Equal in all parts. -/
def same : Validator → Validator → Bool
  | scalar s, scalar t => s.same t
  | object fs r n, object gs q m => sameFields fs gs && r == q && n == m
  | array e r n lo hi, array f q m lo' hi' =>
    same e f && r == q && n == m && lo == lo' && hi == hi'
  | _, _ => false

/-- Equal fields in the same order. -/
def sameFields : List (String × Validator) → List (String × Validator) → Bool
  | [], [] => true
  | (k, v) :: fs, (l, w) :: gs => k == l && same v w && sameFields fs gs
  | _, _ => false

end

/-! ## JSON -/

/-- A member that is left out when there is no number. -/
def countMember (name : String) : Option Nat → List (String × Json)
  | none => []
  | some n => [(name, .nat n)]

mutual

/-- The tree as an object that begins with its type. -/
def toJson : Validator → Json
  | scalar s => .obj (("type", .str "scalar") :: s.members)
  | object fields required nullable =>
    .obj [("type", .str "object"), ("fields", .obj (fieldsToJson fields)),
      ("required", .bool required), ("nullable", .bool nullable)]
  | array element required nullable least most =>
    .obj ([("type", .str "array"), ("element", element.toJson), ("required", .bool required),
      ("nullable", .bool nullable)] ++ countMember "minItems" least ++
      countMember "maxItems" most)

/-- The fields as members. -/
def fieldsToJson : List (String × Validator) → List (String × Json)
  | [] => []
  | (name, v) :: fs => (name, v.toJson) :: fieldsToJson fs

end

end Validator

end Conform
