import Conform.Json.Basic
import Conform.Path

/-!
# Warnings

Compiling a schema never fails; where the schema cannot be taken at its word a more permissive
reading is taken and reported as a warning at a path of the schema.
-/

set_option autoImplicit false

namespace Conform

/-- A permissive reading. -/
inductive WarningKind
  /-- No validator is known for the type. -/
  | unknownType (name : String)
  /-- A list without a schema for its items. -/
  | arrayWithoutItems
  /-- An object without properties. -/
  | objectWithoutProperties
  /-- A required name that is no property. -/
  | unresolvedRequired (name : String)
  /-- Something that is no object where a schema should be. -/
  | nonObjectSchema (found : String)
  /-- A bound that is no count, and what is used in its place. -/
  | coercedBound (keyword found : String) (used : Option Nat)
deriving DecidableEq

namespace WarningKind

/-- The wording of a permissive reading. -/
def message : WarningKind → String
  | unknownType name => s!"unknown type `{name}`, compiled as permissive mixed"
  | arrayWithoutItems => "array without `items`, compiled as a leaf"
  | objectWithoutProperties => "object without `properties`, compiled as a leaf"
  | unresolvedRequired name => s!"required property `{name}` is not declared"
  | nonObjectSchema found =>
    s!"subschema `{found}` is not an object, compiled as permissive mixed"
  | coercedBound keyword found (some n) =>
    s!"`{keyword}` of {found} is not a non-negative integer, used {n}"
  | coercedBound keyword found none => s!"`{keyword}` of {found} is not a usable bound, ignored"

/-- The name of a reading and its details, as members. -/
def members : WarningKind → List (String × Json)
  | unknownType name => [("kind", .str "unknownType"), ("name", .str name)]
  | arrayWithoutItems => [("kind", .str "arrayWithoutItems")]
  | objectWithoutProperties => [("kind", .str "objectWithoutProperties")]
  | unresolvedRequired name => [("kind", .str "unresolvedRequired"), ("name", .str name)]
  | nonObjectSchema found => [("kind", .str "nonObjectSchema"), ("found", .str found)]
  | coercedBound keyword found used =>
    [("kind", .str "coercedBound"), ("keyword", .str keyword), ("found", .str found),
     ("used", Json.orNull Json.nat used)]

end WarningKind

/-- A permissive reading at a path of a schema. -/
structure Warning where
  path : Path
  kind : WarningKind
deriving DecidableEq

namespace Warning

/-- The line that tells of a warning. -/
def line (w : Warning) : String := w.path.label ++ ": " ++ w.kind.message

/-- A warning as an object. -/
def toJson (w : Warning) : Json := .obj (("path", .str w.path.text) :: w.kind.members)

end Warning

end Conform
