import Conform.Compile.Options
import Conform.Schema.Basic

/-!
# Configurations

A configuration describes options in JSON: the blacklist, whether warnings are errors, scalars for
type names and scalars for field names. An unknown key is refused. A list stands for an object too,
with the values in the order of `fieldNames` and the missing ones at the end left out.

* `Config.options`: the options, or the name of the first scalar whose pattern cannot be read.
-/

set_option autoImplicit false

namespace Conform

/-- The base type of a described scalar. -/
inductive SpecType
  | string
  | number
  | integer
  | boolean
  | mixed
deriving DecidableEq

/-- A format that has a pattern of its own. -/
inductive Format
  | email
deriving DecidableEq

/-- A described scalar. -/
structure ScalarSpec where
  type : SpecType
  nullable : Bool
  required : Bool
  min : Option Binary64
  max : Option Binary64
  oneOf : Option (List Json)
  integer : Bool
  pattern : Option String
  format : Option Format

/-- A configuration. -/
structure Config where
  blackList : List String
  strict : Bool
  types : KeyMap ScalarSpec
  custom : KeyMap ScalarSpec

/-! ## Reading -/

namespace Json

/-- A truth value. -/
def bool? : Json → Option Bool
  | bool b => some b
  | _ => none

/-- A name on its own, or as the only key of an object with the value null. -/
def name? : Json → Option String
  | str s => some s
  | obj [(name, null)] => some name
  | _ => none

/-- The items of a list. -/
def arr? : Json → Option (List Json)
  | arr vs => some vs
  | _ => none

/-- Gives each member to `set`, or each item under the name of its place. -/
def readRecord {α : Type} (fieldNames : List String) (set : String → Json → α → Option α)
    (start : α) : Json → Option α
  | obj ms => ms.foldlM (fun a m => set m.1 m.2 a) start
  | arr vs =>
    if vs.length ≤ fieldNames.length then
      (fieldNames.zip vs).foldlM (fun a m => set m.1 m.2 a) start
    else none
  | _ => none

end Json

/-- The type of a name. -/
def SpecType.ofName? : String → Option SpecType
  | "string" => some .string
  | "number" => some .number
  | "integer" => some .integer
  | "boolean" => some .boolean
  | "mixed" => some .mixed
  | _ => none

/-- The format of a name. -/
def Format.ofName? : String → Option Format
  | "email" => some .email
  | _ => none

namespace ScalarSpec

/-- Any value but null. -/
def default : ScalarSpec := ⟨.mixed, false, false, none, none, none, false, none, none⟩

/-- The fields in the order of their places in a list. -/
def fieldNames : List String :=
  ["type", "nullable", "required", "min", "max", "oneOf", "integer", "pattern", "format"]

/-- A field that may be null. -/
def nullable? {α : Type} (read? : Json → Option α) : Json → Option (Option α)
  | .null => some none
  | v => (read? v).map some

/-- The description with one more field. -/
def set? (key : String) (v : Json) (s : ScalarSpec) : Option ScalarSpec :=
  match key with
  | "type" => (v.name?.bind SpecType.ofName?).map fun t => { s with type := t }
  | "nullable" => v.bool?.map fun b => { s with nullable := b }
  | "required" => v.bool?.map fun b => { s with required := b }
  | "min" => (nullable? Json.binary64? v).map fun x => { s with min := x }
  | "max" => (nullable? Json.binary64? v).map fun x => { s with max := x }
  | "oneOf" => (nullable? Json.arr? v).map fun vs => { s with oneOf := vs }
  | "integer" => v.bool?.map fun b => { s with integer := b }
  | "pattern" => (nullable? Json.str? v).map fun p => { s with pattern := p }
  | "format" =>
    (nullable? (fun v => v.name?.bind Format.ofName?) v).map fun f => { s with format := f }
  | _ => none

/-- The description in a value. -/
def ofJson? (v : Json) : Option ScalarSpec := v.readRecord fieldNames set? default

/-- Descriptions under names. -/
def ofMembers? : List (String × Json) → Option (KeyMap ScalarSpec)
  | [] => some []
  | (name, v) :: ms => do
    let s ← ofJson? v
    let ss ← ofMembers? ms
    some ((name, s) :: ss)

end ScalarSpec

namespace Config

/-- Nothing is configured. -/
def default : Config := ⟨[], false, [], []⟩

/-- The fields in the order of their places in a list. -/
def fieldNames : List String := ["blackList", "strict", "validationTypes", "customValidationFields"]

/-- The configuration with one more field. -/
def set? (key : String) (v : Json) (c : Config) : Option Config :=
  match key with
  | "blackList" => (v.arr?.bind Json.strs?).map fun names => { c with blackList := names }
  | "strict" => v.bool?.map fun b => { c with strict := b }
  | "validationTypes" =>
    match v with
    | .obj ms => (ScalarSpec.ofMembers? ms).map fun ss => { c with types := ss }
    | _ => none
  | "customValidationFields" =>
    match v with
    | .obj ms => (ScalarSpec.ofMembers? ms).map fun ss => { c with custom := ss }
    | _ => none
  | _ => none

/-- The configuration in a value. -/
def ofJson? (v : Json) : Option Config := v.readRecord fieldNames set? default

end Config

/-! ## Options -/

/-- The base type of a described type, before the demand for whole numbers. -/
def SpecType.base : SpecType → BaseType
  | string => .string
  | number => .number
  | integer => .number
  | boolean => .boolean
  | mixed => .mixed

/-- The scalar that is described. `pattern` turns a source into a pattern, if it is one. -/
def ScalarSpec.scalar {ε : Type} (pattern : String → Except ε Pattern) (s : ScalarSpec) :
    Except ε Scalar := do
  let v := Scalar.of s.type.base
  let v := if s.type = .integer then v.whole else v
  let v := if s.nullable then v.allowNull else v
  let v := if s.integer then v.whole else v
  let v := s.oneOf.elim v v.among
  let v := s.min.elim v v.atLeast
  let v := s.max.elim v v.atMost
  let v ← match s.pattern with
    | some source => (pattern source).map v.matching
    | none => .ok v
  let v := if s.format = some .email then v.email else v
  return if s.required then v.require else v

/-- A pattern that cannot be read, and the name of the scalar it belongs to. -/
structure PatternError (ε : Type) where
  name : String
  reason : ε

namespace Config

/-- Gives the scalar of each description to `add`, in the order of the names. -/
def addScalars {ε : Type} (pattern : String → Except ε Pattern)
    (add : Options → String → Scalar → Options) :
    KeyMap ScalarSpec → Options → Except (PatternError ε) Options
  | [], o => .ok o
  | (name, s) :: ss, o =>
    match s.scalar pattern with
    | .ok v => addScalars pattern add ss (add o name v)
    | .error e => .error ⟨name, e⟩

/-- The options that are configured, types first. -/
def options {ε : Type} (pattern : String → Except ε Pattern) (c : Config) :
    Except (PatternError ε) Options := do
  let o := { (Options.default.withBlackList c.blackList) with strict := c.strict }
  let o ← addScalars pattern Options.withType c.types o
  addScalars pattern (fun o name v => o.withCustom name (.scalar v)) c.custom o

end Config

end Conform
