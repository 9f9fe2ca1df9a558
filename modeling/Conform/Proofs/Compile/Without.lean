import Conform.Proofs.Compile.Simulation
import Conform.Proofs.Schema.Edit

/-!
# The blacklist as an edit of the schema

`Schema.without names` leaves names out of a schema at every depth: no property has such a name, and
no list `required` asks for one. Compiling with these names on the blacklist is compiling what is
left of the schema without a blacklist. The two compilations keep step (`Options.leavingOut`): after
every turn they have the same slots, warnings and required paths, and the waiting maps of one are
those of the other without the names (`Build.without`).

* `root_without`: whole compilations keep step.
* `compile_without`: the same validator and the same warnings in the same order.
-/

set_option autoImplicit false

namespace Conform

/-- The schema without properties of the given names and without demands for them. -/
def Schema.without (names : List String) (s : Schema) : Schema := s.edit (.dropNames names)

/-- The waiting map with these names left out below its fields. The blacklist has been applied to
the fields themselves. -/
def Pending.without (names : List String) (p : Pending) : Pending :=
  { p with fields := p.fields.map fun f => (f.1, f.2.without names) }

/-- The compilation with these names left out of all that waits. -/
def Build.without (names : List String) (b : Build) : Build :=
  { b with stack := b.stack.map (Pending.without names) }

namespace Schema

variable {names : List String} {s : Schema}

theorem facets_without (names : List String) (s : Schema) :
    (s.without names).facets = { s.facets with
      required := s.facets.required.map (·.filter fun name => !names.contains name) } :=
  facets_edit s

theorem properties_without (names : List String) (s : Schema) :
    (s.without names).properties =
      s.properties.map fun ps => (prune names ps).map fun p => (p.1, p.2.without names) := by
  rw [without, properties_edit]
  exact congrArg (s.properties.map ·) (funext editNamed_eq)

theorem items_without (names : List String) (s : Schema) :
    (s.without names).items = s.items.map (without names) := items_edit s

theorem allOf_without (names : List String) (s : Schema) :
    (s.without names).allOf = s.allOf.map (·.map (without names)) := allOf_edit s

theorem normalize_without (hs : s.Sorted) :
    (s.without names).normalize = s.normalize.without names := (edit_normalize hs).symm

end Schema

namespace Options

/-- The options without a blacklist. -/
abbrev bare (o : Options) : Options := { o with blackList := [] }

/-- Leaving the blacklisted names out of a schema instead. -/
def leavingOut (o : Options) : Simulation o o.bare where
  onSchema := Schema.without o.blackList
  onField _ := Schema.without o.blackList
  keeps name := !o.blackList.contains name
  types := rfl
  custom := rfl
  blackList name := by simp
  facets s := ⟨s.facets.extra, Schema.facets_without o.blackList s⟩
  properties := Schema.properties_without o.blackList
  items := Schema.items_without o.blackList
  allOf s := by rw [Schema.allOf_without, Option.isSome_map]
  field _ _ _ := rfl
  normalize _ := Schema.normalize_without

end Options

theorem Build.root_without (o : Options) {s : Schema} (hs : s.Sorted) :
    root o.bare (s.without o.blackList) = (root o s).without o.blackList :=
  root_through o.leavingOut hs

/-- **The blacklist is an edit of the schema.** Compiling with a blacklist gives the validator and
the warnings, in their order, of compiling without one what is left of the schema when the names are
taken out of it everywhere. -/
theorem compile_without (o : Options) (names : List String) {s : Schema} (hs : s.Sorted) :
    compile { o with blackList := names } s =
      compile { o with blackList := [] } (s.without names) := by
  have h : Build.root { o with blackList := [] } (s.without names) =
      (Build.root { o with blackList := names } s).without names :=
    Build.root_without { o with blackList := names } hs
  rw [compile, compile, h]
  rfl

/-- Without secrets and names a shipment has a note, and stops of which nothing is asked. -/
theorem compile_without_shipment :
    Schema.shipment.Sorted ∧
    compile ⟨.default, [], ["name", "secret"], false⟩ .shipment =
      compile ⟨.default, [], [], false⟩
        (.ofProperties
          [("note", .ofType "string"),
            ("stops", .ofItems { Schema.empty with allOf := some [.ofProperties [] []] })]
          ["stops"]) := by
  refine ⟨Schema.sorted_shipment,
    (compile_without ⟨.default, [], [], false⟩ ["name", "secret"] Schema.sorted_shipment).trans ?_⟩
  rfl

end Conform
