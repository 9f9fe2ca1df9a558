import Conform.Json.Basic

/-!
# Schemas

A `Schema` describes values: its facets are the keywords that hold no schema, and it may hold
schemas for the properties of an object, for the items of a list, and schemas that apply as well
(`allOf`). Keywords outside this dialect are kept as they are.

`Schema.ofJson?` reads a schema from its JSON form and `Schema.toJson` writes it.
-/

set_option autoImplicit false

namespace Conform

/-- The keyword `type`: one name, or several of which any will do. -/
inductive TypeDecl
  | one (name : String)
  | union (names : List String)
deriving DecidableEq

namespace TypeDecl

/-- The name that counts: of several the first that is not `null`, else the first. -/
def primary? : TypeDecl → Option String
  | one name => some name
  | union names => (names.find? (· != "null")).or names.head?

/-- A name or a list of names. -/
def toJson : TypeDecl → Json
  | one name => .str name
  | union names => .strs names

end TypeDecl

/-- The keywords of a schema that hold no schema. -/
structure Facets where
  type : Option TypeDecl
  required : Option (List String)
  enum : Option (List Json)
  minimum : Option Binary64
  maximum : Option Binary64
  minLength : Option Nat
  maxLength : Option Nat
  minItems : Option Nat
  maxItems : Option Nat
  extra : KeyMap Json

/-- No keywords. -/
def Facets.empty : Facets := ⟨none, none, none, none, none, none, none, none, none, []⟩

/-- A description of values. -/
structure Schema where
  facets : Facets
  properties : Option (List (String × Schema))
  items : Option Schema
  allOf : Option (List Schema)

namespace Schema

/-- The schema without keywords. -/
def empty : Schema := ⟨.empty, none, none, none⟩

instance : Inhabited Schema := ⟨empty⟩

/-- The type that the schema is compiled as. -/
def typeName? (s : Schema) : Option String := s.facets.type.bind TypeDecl.primary?

/-- The first bound that is there. The one that belongs to the declared type comes first. -/
def boundFor (type : Option String) (value : Option Binary64) (length items : Option Nat) :
    Option Binary64 :=
  let length := length.map Binary64.ofNat
  let items := items.map Binary64.ofNat
  if type = some "string" then (length.or value).or items
  else if type = some "array" then (items.or value).or length
  else (value.or length).or items

/-- The lower bound of a leaf. -/
def lower? (s : Schema) : Option Binary64 :=
  boundFor s.typeName? s.facets.minimum s.facets.minLength s.facets.minItems

/-- The upper bound of a leaf. -/
def upper? (s : Schema) : Option Binary64 :=
  boundFor s.typeName? s.facets.maximum s.facets.maxLength s.facets.maxItems

/-! ## Size -/

mutual

/-- The number of schemas in a schema, itself included. -/
def size : Schema → Nat
  | ⟨_, properties, items, allOf⟩ =>
    1 + sizeProperties properties + sizeItems items + sizeAllOf allOf

/-- The number of schemas in the properties. -/
def sizeProperties : Option (List (String × Schema)) → Nat
  | none => 0
  | some ps => sizeNamed ps

/-- The number of schemas in the schema of the items. -/
def sizeItems : Option Schema → Nat
  | none => 0
  | some s => size s

/-- The number of schemas in the list of those that apply as well. -/
def sizeAllOf : Option (List Schema) → Nat
  | none => 0
  | some ss => sizeList ss

/-- The number of schemas in a map. -/
def sizeNamed : List (String × Schema) → Nat
  | [] => 0
  | (_, s) :: ps => size s + sizeNamed ps

/-- The number of schemas in a list. -/
def sizeList : List Schema → Nat
  | [] => 0
  | s :: ss => size s + sizeList ss

end

end Schema

/-! ## Writing -/

/-- A member for a keyword that is there. -/
def Json.optional {α : Type} (key : String) (f : α → Json) : Option α → List (String × Json)
  | none => []
  | some a => [(key, f a)]

/-- The members of the keywords that hold no schema. -/
def Facets.members (f : Facets) : List (String × Json) :=
  Json.optional "type" TypeDecl.toJson f.type ++
  Json.optional "required" .strs f.required ++
  Json.optional "enum" .arr f.enum ++
  Json.optional "minimum" .ofBinary64 f.minimum ++
  Json.optional "maximum" .ofBinary64 f.maximum ++
  Json.optional "minLength" .nat f.minLength ++
  Json.optional "maxLength" .nat f.maxLength ++
  Json.optional "minItems" .nat f.minItems ++
  Json.optional "maxItems" .nat f.maxItems ++
  f.extra

namespace Schema

mutual

/-- The schema as an object; absent keywords are left out. -/
def toJson : Schema → Json
  | ⟨facets, properties, items, allOf⟩ =>
    .obj (KeyMap.ofList (facets.members ++ propertiesToJson properties ++ itemsToJson items ++
      allOfToJson allOf))

/-- The member of the properties. -/
def propertiesToJson : Option (List (String × Schema)) → List (String × Json)
  | none => []
  | some ps => [("properties", .obj (namedToJson ps))]

/-- The member of the schema of the items. -/
def itemsToJson : Option Schema → List (String × Json)
  | none => []
  | some s => [("items", toJson s)]

/-- The member of the schemas that apply as well. -/
def allOfToJson : Option (List Schema) → List (String × Json)
  | none => []
  | some ss => [("allOf", .arr (listToJson ss))]

/-- Named schemas as members. -/
def namedToJson : List (String × Schema) → List (String × Json)
  | [] => []
  | (name, s) :: ps => (name, toJson s) :: namedToJson ps

/-- Schemas as items. -/
def listToJson : List Schema → List Json
  | [] => []
  | s :: ss => toJson s :: listToJson ss

end

end Schema

/-! ## Reading -/

namespace Json

/-- The text of a value. -/
def str? : Json → Option String
  | str s => some s
  | _ => none

/-- The texts of a list of texts. -/
def strs? : List Json → Option (List String)
  | [] => some []
  | v :: vs => do
    let s ← v.str?
    let ss ← strs? vs
    some (s :: ss)

/-- The double of a number. -/
def binary64? : Json → Option Binary64
  | num n => some n.toBinary64
  | _ => none

/-- An integer from 0 to `2 ^ 64 - 1`. -/
def count? : Json → Option Nat
  | num (.int i) => if 0 ≤ i ∧ i.toNat < Nat.pow 2 64 then some i.toNat else none
  | _ => none

end Json

/-- A type name or a list of them. -/
def TypeDecl.ofJson? : Json → Option TypeDecl
  | .str s => some (.one s)
  | .arr vs => (Json.strs? vs).map .union
  | _ => none

namespace Facets

/-- The value of a keyword that may be there: null says that it is not. -/
def keyword? {α : Type} (read? : Json → Option α) : Json → Option (Option α)
  | .null => some none
  | v => (read? v).map some

/-- The keywords with one more; a name that is no keyword is kept with its value. -/
def withMember? (key : String) (v : Json) (f : Facets) : Option Facets :=
  match key with
  | "type" => (keyword? TypeDecl.ofJson? v).map fun t => { f with type := t }
  | "required" =>
    (keyword? (fun | .arr vs => Json.strs? vs | _ => none) v).map fun r => { f with required := r }
  | "enum" => (keyword? (fun | .arr vs => some vs | _ => none) v).map fun e => { f with enum := e }
  | "minimum" => (keyword? Json.binary64? v).map fun x => { f with minimum := x }
  | "maximum" => (keyword? Json.binary64? v).map fun x => { f with maximum := x }
  | "minLength" => (keyword? Json.count? v).map fun n => { f with minLength := n }
  | "maxLength" => (keyword? Json.count? v).map fun n => { f with maxLength := n }
  | "minItems" => (keyword? Json.count? v).map fun n => { f with minItems := n }
  | "maxItems" => (keyword? Json.count? v).map fun n => { f with maxItems := n }
  | key => some { f with extra := KeyMap.put key v f.extra }

end Facets

namespace Schema

mutual

/-- The schema of an object. Each keyword has to be of its form or null. -/
def ofJson? : Json → Option Schema
  | .obj ms => ofMembers? ms
  | _ => none

/-- The schema of the members of an object. -/
def ofMembers? : List (String × Json) → Option Schema
  | [] => some empty
  | (key, v) :: ms => do
    let s ← ofMembers? ms
    if key = "properties" then
      match v with
      | .null => some s
      | .obj ps => (named? ps).map fun ps => { s with properties := some ps }
      | _ => none
    else if key = "items" then
      match v with
      | .null => some s
      | v => (ofJson? v).map fun i => { s with items := some i }
    else if key = "allOf" then
      match v with
      | .null => some s
      | .arr vs => (list? vs).map fun ss => { s with allOf := some ss }
      | _ => none
    else (s.facets.withMember? key v).map fun f => { s with facets := f }

/-- The schemas of the members of an object under their names. -/
def named? : List (String × Json) → Option (List (String × Schema))
  | [] => some []
  | (name, v) :: ms => do
    let s ← ofJson? v
    let ps ← named? ms
    some ((name, s) :: ps)

/-- The schemas of the items of a list. -/
def list? : List Json → Option (List Schema)
  | [] => some []
  | v :: vs => do
    let s ← ofJson? v
    let ss ← list? vs
    some (s :: ss)

end

end Schema

end Conform
