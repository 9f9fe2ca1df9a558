import Conform.Validator.Basic

/-!
# Options of a compilation

The types that leaves can have, validators that are taken as they are for fields of a name at any
depth, names that are left out of every object, and whether warnings are errors.
-/

set_option autoImplicit false

namespace Conform

/-- The scalars of type names. -/
abbrev TypeRegistry := KeyMap Scalar

namespace TypeRegistry

/-- Texts, numbers and whole numbers, all of which may be null. -/
def default : TypeRegistry :=
  [("integer", (Scalar.of .number).whole.allowNull), ("number", (Scalar.of .number).allowNull),
   ("string", (Scalar.of .string).allowNull)]

/-- Equal scalars for equal names. -/
def same : TypeRegistry → TypeRegistry → Bool
  | [], [] => true
  | (k, s) :: r, (l, t) :: q => k == l && s.same t && same r q
  | _, _ => false

end TypeRegistry

/-- How schemas are compiled. -/
structure Options where
  types : TypeRegistry
  custom : KeyMap Validator
  blackList : List String
  strict : Bool

namespace Options

/-- The default types and nothing else. -/
def default : Options := ⟨.default, [], [], false⟩

/-- Binds a type name to a scalar. -/
def withType (o : Options) (name : String) (s : Scalar) : Options :=
  { o with types := KeyMap.put name s o.types }

/-- Binds the fields of a name to a validator. -/
def withCustom (o : Options) (name : String) (v : Validator) : Options :=
  { o with custom := KeyMap.put name v o.custom }

/-- Adds names to the blacklist. -/
def withBlackList (o : Options) (names : List String) : Options :=
  { o with blackList := o.blackList ++ names }

/-- Equal in all parts. -/
def same (o p : Options) : Bool :=
  o.types.same p.types && Validator.sameFields o.custom p.custom && o.blackList == p.blackList &&
    o.strict == p.strict

end Options

end Conform
