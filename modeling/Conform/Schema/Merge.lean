import Conform.Schema.Basic

/-!
# Merging schemas

`Schema.merge` lays one schema over another: a type or a bound of the layer wins, lists are joined,
properties and items are merged one by one, and unknown keywords are merged as JSON. A schema with
`allOf` is the merge of those schemas in their order, with its own keywords on top; `normalize`
works this out at the top of a schema and leaves what is below for later.
-/

set_option autoImplicit false

namespace Conform

/-! ## JSON values -/

mutual

/-- Lays a value over another: objects are merged member by member, lists joined, null changes
nothing, and any other value wins. -/
def Json.merge (target : Json) : Json → Json
  | .null => target
  | .obj ms =>
    match target with
    | .obj ns => .obj (Json.mergeMembers ns ms)
    | _ => .obj ms
  | .arr vs =>
    match target with
    | .arr ws => .arr (ws ++ vs)
    | _ => .arr vs
  | v => v

/-- Lays members over others. -/
def Json.mergeMembers (target : List (String × Json)) :
    List (String × Json) → List (String × Json)
  | [] => target
  | (key, v) :: ms =>
    Json.mergeMembers (KeyMap.alter key (fun old => old.elim v (fun t => Json.merge t v)) target) ms

end

/-! ## Facets -/

/-- A list of the layer behind the one of the target. -/
def joinLists {α : Type} : Option (List α) → Option (List α) → Option (List α)
  | target, none => target
  | target, some more => some (target.getD [] ++ more)

/-- Lays keywords over others. -/
def Facets.merge (target layer : Facets) : Facets where
  type := layer.type.or target.type
  required := joinLists target.required layer.required
  enum := joinLists target.enum layer.enum
  minimum := layer.minimum.or target.minimum
  maximum := layer.maximum.or target.maximum
  minLength := layer.minLength.or target.minLength
  maxLength := layer.maxLength.or target.maxLength
  minItems := layer.minItems.or target.minItems
  maxItems := layer.maxItems.or target.maxItems
  extra := Json.mergeMembers target.extra layer.extra

namespace Schema

/-! ## Schemas -/

mutual

/-- Lays a schema over another. -/
def merge (target : Schema) : Schema → Schema
  | ⟨facets, properties, items, allOf⟩ =>
    { facets := target.facets.merge facets
      properties := mergeProperties target.properties properties
      items := mergeItems target.items items
      allOf := joinLists target.allOf allOf }

/-- Lays properties, if there are any, over others. -/
def mergeProperties (target : Option (List (String × Schema))) :
    Option (List (String × Schema)) → Option (List (String × Schema))
  | none => target
  | some ps => some (mergeNamed (target.getD []) ps)

/-- Lays the schema of the items, if there is one, over another. -/
def mergeItems (target : Option Schema) : Option Schema → Option Schema
  | none => target
  | some s => some (target.elim s (fun t => merge t s))

/-- Lays named schemas over others, one by one. -/
def mergeNamed (target : List (String × Schema)) :
    List (String × Schema) → List (String × Schema)
  | [] => target
  | (name, s) :: ps =>
    mergeNamed (KeyMap.alter name (fun old => old.elim s (fun t => merge t s)) target) ps

end

mutual

/-- The schema with its `allOf` merged into it. One without `allOf` is left as it is. -/
def normalize : Schema → Schema
  | ⟨facets, properties, items, none⟩ => ⟨facets, properties, items, none⟩
  | ⟨facets, properties, items, some entries⟩ =>
    merge (normalizeOnto empty entries) ⟨facets, properties, items, none⟩

/-- Lays schemas over a target, each normalized, in their order. -/
def normalizeOnto (target : Schema) : List Schema → Schema
  | [] => target
  | s :: ss => normalizeOnto (merge target (normalize s)) ss

end

end Schema

/-- The properties without the blacklisted names. -/
def prune (blacklist : List String) (properties : List (String × Schema)) :
    List (String × Schema) :=
  properties.filter fun p => !blacklist.contains p.1

end Conform
