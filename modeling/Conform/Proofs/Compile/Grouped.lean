import Conform.Proofs.Compile.Parts
import Conform.Proofs.Schema.Parts

/-!
# Schemas in a group of their own

A schema and an `allOf` with nothing but this schema in it (`Schema.inGroup`) describe the same
values. A whole schema and the items of a list are normalized before their form decides what they
compile to, so the group makes no difference there. The form of a property is looked at first, and
any `allOf` makes it an object.

* `compile_inGroup`: what a group makes of a schema, of the items of a list and of a property.
-/

set_option autoImplicit false

namespace Conform

namespace Schema

/-- Nothing but the schema as the only one in `allOf`. -/
def inGroup (s : Schema) : Schema := empty.withAllOf [s]

theorem Sorted.inGroup {s : Schema} (h : s.Sorted) : s.inGroup.Sorted :=
  sorted_withAllOf fun _ ht => List.mem_singleton.1 ht ▸ h

theorem normalize_inGroup (s : Schema) : s.inGroup.normalize = merge empty s.normalize := by
  rw [inGroup, withAllOf, normalize, normalizeOnto, normalizeOnto]
  exact merge_empty _

/-- A group changes nothing but the form of unknown keywords. -/
theorem parts_normalize_inGroup {s : Schema} (hs : s.Sorted) :
    s.inGroup.normalize.properties = s.normalize.properties ∧
    s.inGroup.normalize.items = s.normalize.items ∧
    Edit.dropUnknown.onFacets s.inGroup.normalize.facets =
      Edit.dropUnknown.onFacets s.normalize.facets := by
  rw [normalize_inGroup]
  refine ⟨?_, ?_, (Agree.empty_merge hs.normalize).top.facets⟩
  · rw [properties_merge]
    cases hp : s.normalize.properties with
    | none => rw [mergeProperties]; rfl
    | some ps =>
      rw [mergeProperties, mergeNamed_eq]
      exact congrArg some (KeyMap.overlay_nil (hs.normalize.map hp).ascending _)
  · rw [items_merge, mergeItems_eq]
    exact Option.merge_none_left

end Schema

namespace Plain

variable {o : Options} {s t : Schema} {required : Bool}

/-- Unknown keywords make no difference to a position whose type decides. -/
theorem typed_congr (hp : s.properties = t.properties) (hi : s.items = t.items)
    (hf : Edit.dropUnknown.onFacets s.facets = Edit.dropUnknown.onFacets t.facets) :
    typed o s required = typed o t required := by
  obtain ⟨⟨_, _, _, _, _, _, _, _, _, _⟩, _, _, _⟩ := s
  obtain ⟨⟨_, _, _, _, _, _, _, _, _, _⟩, _, _, _⟩ := t
  cases hp
  cases hi
  cases hf
  rw [typed, typed]
  rfl

theorem root_inGroup (hs : s.Sorted) : root o s.inGroup = root o s := by
  obtain ⟨hp, -, hf⟩ := Schema.parts_normalize_inGroup hs
  have hr := congrArg Facets.required hf
  rw [root, root, hp]
  exact congrArg (object o _ · false) hr

theorem item_inGroup (hs : s.Sorted) : item o s.inGroup = item o s := by
  obtain ⟨hp, hi, hf⟩ := Schema.parts_normalize_inGroup hs
  have hr := congrArg Facets.required hf
  have ht := congrArg (fun f : Facets => f.type.bind TypeDecl.primary?) hf
  have htype : s.inGroup.normalize.typeName? = s.normalize.typeName? := ht
  have hobject : s.inGroup.normalize.isObjectItem = s.normalize.isObjectItem := by
    rw [Schema.isObjectItem, Schema.isObjectItem, hp, htype]
  rw [item, item, hobject, hp, typed_congr hp hi hf]
  split
  · exact congrArg (object o _ · false) hr
  · rfl

/-- A group makes an object of any property. -/
theorem field_inGroup {name : String} (hc : o.custom.lookup name = none) (hs : s.Sorted) :
    field o name s.inGroup required =
      object o s.normalize.properties s.normalize.facets.required required := by
  obtain ⟨hp, -, hf⟩ := Schema.parts_normalize_inGroup hs
  have hr := congrArg Facets.required hf
  rw [field_of_allOf hc rfl, hp]
  exact congrArg (object o _ · required) hr

/-- An object is what the type says of objects with properties only. -/
theorem object_eq_typed_iff :
    object o s.properties s.facets.required required = typed o s required ↔
      s.typeName? = some "object" ∧ s.properties.isSome = true := by
  have hobject : ∀ ps names, ∃ fields, object o ps names required = .object fields required false :=
    fun ps names => ⟨_, by rw [object]⟩
  obtain ⟨fields, hfields⟩ := hobject s.properties s.facets.required
  by_cases ha : s.typeName? = some "array"
  · cases hi : s.items with
    | none => simp [typed_of_no_items ha hi, hfields, ha]
    | some i => simp [typed_of_items ha hi, hfields, ha]
  · by_cases ht : s.typeName? = some "object"
    · cases hp : s.properties with
      | none =>
        rw [hp] at hfields
        simp [typed_of_no_properties ht hp, hfields]
      | some ps => simp [typed_of_properties ht hp, ht]
    · simp [typed_of_other ha ht, hfields, ht]

/-- The properties for which a group makes no difference. -/
theorem field_inGroup_iff {name : String} (hc : o.custom.lookup name = none) (hs : s.Sorted) :
    field o name s.inGroup required = field o name s required ↔
      s.allOf.isSome = true ∨ s.typeName? = some "object" ∧ s.properties.isSome = true := by
  rw [field_inGroup hc hs]
  by_cases ha : s.allOf.isSome = true
  · simp [field_of_allOf hc ha, ha]
  · have hn : s.normalize = s :=
      Schema.normalize_of_allOf_eq_none (by simpa using ha)
    rw [field_of_typed hc ha, hn, object_eq_typed_iff]
    exact (or_iff_right ha).symm

end Plain

open Validator

/-- **Where a group is absorbed.** A schema in an `allOf` of its own compiles to what it compiles to
by itself, and so does the schema of the items of a list. A property in a group is always an object
over the properties of the normalized schema, so the group makes no difference only to a property
that has an `allOf` itself or is an object with properties. -/
theorem compile_inGroup (o : Options) {r r' : Schema} (hr : r.Sorted) (hr' : r'.Sorted) :
    (r' = r.inGroup → (compile o r').validator = (compile o r).validator) ∧
    (∀ path i, HasItems o r path i → HasItems o r' path i.inGroup →
      part? path.items (compile o r').validator = part? path.items (compile o r).validator) ∧
    ∀ path name s required, o.custom.lookup name = none → HasProperty o r path name s required →
      HasProperty o r' path name s.inGroup required →
      part? (path.child name) (compile o r').validator =
        some (Plain.object o s.normalize.properties s.normalize.facets.required required) ∧
      (part? (path.child name) (compile o r').validator =
          part? (path.child name) (compile o r).validator ↔
        s.allOf.isSome = true ∨ s.typeName? = some "object" ∧ s.properties.isSome = true) := by
  refine ⟨fun he => ?_, fun path i hi hi' => ?_, fun path name s required hc hp hp' => ?_⟩
  · have hgroup := Plain.root_inGroup (o := o) hr
    rw [he] at hr' ⊢
    exact (assemble_root o hr').trans (hgroup.trans (assemble_root o hr).symm)
  · rw [hi.part?_eq hr, hi'.part?_eq hr', Plain.item_inGroup (hi.sorted hr)]
  · have hs := hp.sorted hr
    rw [hp.part?_eq hr, hp'.part?_eq hr', Option.some_inj, Option.some_inj]
    exact ⟨Plain.field_inGroup hc hs, Plain.field_inGroup_iff hc hs⟩

namespace Schema

theorem hasItems_labelled (i : Schema) :
    HasItems .default (labelled (ofItems i)) [.field "label"] i := by
  refine ⟨ofItems i, ?_, rfl, rfl⟩
  rw [Position.ofRoot, normalize_of_allOf_eq_none rfl, Position.ofObject]
  refine List.mem_cons_of_mem _ ?_
  show _ ∈ Position.ofFields .default .root [("label", ofItems i)]
  have hfield : Position.ofField .default [.field "label"] "label" (ofItems i) =
      Position.ofTyped .default [.field "label"] (ofItems i) := by
    rw [Position.ofField]
    rfl
  rw [Position.ofFields]
  refine List.mem_append_left _ ?_
  show _ ∈ Position.ofField .default [.field "label"] "label" (ofItems i)
  rw [hfield, Position.ofTyped_of_items rfl rfl]
  exact List.mem_cons_self

end Schema

theorem compile_inGroup_stop :
    Schema.stop.Sorted ∧
    (compile .default Schema.stop.inGroup).validator =
      (compile .default Schema.stop).validator ∧
    part? [.field "label", .items]
        (compile .default (Schema.labelled (Schema.ofItems Schema.stop.inGroup))).validator =
      part? [.field "label", .items]
        (compile .default (Schema.labelled (Schema.ofItems Schema.stop))).validator ∧
    part? [.field "label"] (compile .default (Schema.labelled Schema.stop.inGroup)).validator =
      part? [.field "label"] (compile .default (Schema.labelled Schema.stop)).validator := by
  have hs := Schema.sorted_stop
  have hlist := Schema.sorted_labelled (Schema.sorted_ofItems hs)
  have hlist' := Schema.sorted_labelled (Schema.sorted_ofItems hs.inGroup)
  obtain ⟨hroot, -, -⟩ := compile_inGroup .default hs hs.inGroup
  obtain ⟨-, hitems, -⟩ := compile_inGroup .default hlist hlist'
  obtain ⟨-, -, hproperty⟩ := compile_inGroup .default (Schema.sorted_labelled hs)
    (Schema.sorted_labelled hs.inGroup)
  refine ⟨hs, hroot rfl, ?_, ?_⟩
  · exact hitems [.field "label"] _ (Schema.hasItems_labelled _) (Schema.hasItems_labelled _)
  · exact (hproperty .root "label" _ true rfl (Schema.hasProperty_labelled _)
      (Schema.hasProperty_labelled _)).2.2 (.inl rfl)

/-- Properties without a type do not make an object of a label, but a group does. -/
theorem compile_inGroup_untyped_ne :
    part? [.field "label"] (compile .default (Schema.labelled
        (Schema.ofProperties [("name", Schema.ofType "string")] ["name"]).inGroup)).validator ≠
      part? [.field "label"] (compile .default (Schema.labelled
        (Schema.ofProperties [("name", Schema.ofType "string")] ["name"]))).validator := by
  have hs : (Schema.ofProperties [("name", Schema.ofType "string")] ["name"]).Sorted :=
    Schema.sorted_ofProperties _ ⟨List.pairwise_singleton _ _, by simp [Schema.sorted_ofType]⟩
  have hgroup := (Schema.hasProperty_labelled _).part?_eq (Schema.sorted_labelled hs.inGroup)
  have hplain := (Schema.hasProperty_labelled _).part?_eq (Schema.sorted_labelled hs)
  intro h
  have hsome := hgroup.symm.trans (h.trans hplain)
  rcases (Plain.field_inGroup_iff rfl hs).1 (Option.some.inj hsome) with ha | ⟨ht, -⟩
  · cases ha
  · cases ht

end Conform
