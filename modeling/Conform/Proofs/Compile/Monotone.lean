import Conform.Proofs.Compile.Meaning
import Conform.Proofs.Schema.AsksMore
import Conform.Proofs.Schema.Normalize
import Conform.Proofs.Validator.Stricter

/-!
# Requiring more is monotone

A schema with more required names compiles to a stricter validator (`Plain.root_stricter`): the same
one, but for more parts that are required. So a document that breaks a rule of the first schema at
some path breaks one of the second there.

* `validate_asksMore`: what requiring more does to the violations of a document.
-/

set_option autoImplicit false

namespace Conform

namespace Schema

variable {s t : Schema}

theorem AsksMore.facets (h : AsksMore s t) : s.facets.AsksMore t.facets := by
  cases h with
  | intro facets properties items allOf => exact facets

theorem AsksMore.properties (h : AsksMore s t) : PropertiesAskMore s.properties t.properties := by
  cases h with
  | intro facets properties items allOf => exact properties

theorem AsksMore.items_of_some (h : AsksMore s t) {i : Schema} (hi : s.items = some i) :
    ∃ j, t.items = some j ∧ AsksMore i j := by
  cases h with
  | intro facets properties items allOf =>
    cases items with
    | none => cases hi
    | some item =>
      cases hi
      exact ⟨_, rfl, item⟩

theorem AsksMore.items_of_none (h : AsksMore s t) (hi : s.items = none) : t.items = none := by
  cases h with
  | intro facets properties items allOf =>
    cases items with
    | none => rfl
    | some item => cases hi

theorem AsksMore.typeName?_eq (h : AsksMore s t) : t.typeName? = s.typeName? := by
  rw [typeName?, h.facets.rest]
  rfl

theorem AsksMore.isSome_properties (h : AsksMore s t) :
    t.properties.isSome = s.properties.isSome := by
  cases h with
  | intro facets properties items allOf => cases properties <;> rfl

theorem AsksMore.isSome_allOf (h : AsksMore s t) : t.allOf.isSome = s.allOf.isSome := by
  cases h with
  | intro facets properties items allOf => cases allOf <;> rfl

theorem AsksMore.isObjectItem_eq (h : AsksMore s t) : t.isObjectItem = s.isObjectItem := by
  rw [isObjectItem, isObjectItem, h.isSome_properties, h.typeName?_eq]

end Schema

namespace Options

variable (o : Options) {s t : Schema} {required required' : Bool}

/-- Two leaves of the same keywords, of which the second one is required if the first one is. -/
theorem leafScalar_stricter (h : s.AsksMore t) (flag : required = true → required' = true) :
    (o.leafScalar s required).Stricter (o.leafScalar t required') := by
  have hsame : o.leafScalar t required' = o.leafScalar s required' := by
    obtain ⟨f, ps, i, a⟩ := s
    cases h with
    | intro facets properties items allOf =>
      rw [facets.rest]
      rfl
  rw [hsame]
  cases required with
  | true => rw [flag rfl]; exact ⟨rfl, id⟩
  | false =>
    cases required' with
    | false => exact ⟨rfl, id⟩
    | true => exact ⟨rfl, fun _ => rfl⟩

end Options

namespace Plain

open Schema Validator

variable {o : Options}

/-- **More required names compile to a stricter object.** -/
theorem object_stricter (ps qs : Option (List (String × Schema)))
    (names names' : Option (List String)) (required required' : Bool)
    (h : PropertiesAskMore ps qs) (hn : ∀ n ∈ names.getD [], n ∈ names'.getD [])
    (flag : required = true → required' = true) :
    Stricter (object o ps names required) (object o qs names' required') := by
  have leaf : ∀ (s t : Schema) (required required' : Bool), AsksMore s t →
      (required = true → required' = true) →
      Stricter (.scalar (o.leafScalar s required)) (.scalar (o.leafScalar t required')) :=
    fun s t required required' h flag => .scalar (o.leafScalar_stricter h flag)
  -- along the recursion on the first schema; the second one has the same shape everywhere
  refine (Plain.object.mutual_induct o
    (fun ps names required => ∀ qs names' required', PropertiesAskMore ps qs →
      (∀ n ∈ names.getD [], n ∈ names'.getD []) → (required = true → required' = true) →
      Stricter (object o ps names required) (object o qs names' required'))
    (fun names ps => ∀ names' qs, NamedAskMore ps qs → (∀ n ∈ names, n ∈ names') →
      FieldsStricter (fields o names ps) (fields o names' qs))
    (fun name s required => ∀ t required', AsksMore s t → (required = true → required' = true) →
      Stricter (field o name s required) (field o name t required'))
    (fun s required => ∀ t required', AsksMore s t → (required = true → required' = true) →
      Stricter (typed o s required) (typed o t required'))
    (fun i => ∀ j, AsksMore i j → Stricter (item o i) (item o j))
    ?_ ?_ ?_ ?_ ?_ ?_ ?_ ?_ ?_ ?_ ?_ ?_ ?_).1 ps names required qs names' required' h hn flag
  · intro ps names required ih qs names' required' h hn flag
    rw [object, object]
    exact .object false flag (ih _ _ (h.getD.prune o.blackList) hn)
  · intro names names' qs h _
    cases h
    rw [fields, fields]
    exact .nil
  · intro names name s ps ihs ihps names' qs h hn
    cases h with
    | cons name head tail =>
      have hflag : names.contains name = true → names'.contains name = true := by
        simp only [List.contains_iff_mem]
        exact hn name
      rw [fields, fields]
      exact .cons name (ihs _ _ head hflag) (ihps _ _ tail hn)
  · intro name s required v hv t required' _ _
    rw [field_of_custom hv, field_of_custom hv]
    exact .refl v
  · intro name s required hc ha ih t required' h flag
    have hnormal := AsksMore.normalize s t h
    rw [field_of_allOf hc ha, field_of_allOf hc (h.isSome_allOf.trans ha)]
    exact ih _ _ _ hnormal.properties hnormal.facets.required flag
  · intro name s required hc ha ih t required' h flag
    rw [field_of_typed hc ha, field_of_typed hc (by rwa [h.isSome_allOf])]
    exact ih _ _ h flag
  · intro s required ht i hi ih t required' h flag
    obtain ⟨j, hj, hij⟩ := h.items_of_some hi
    have hsame : t.facets.minItems = s.facets.minItems ∧ t.facets.maxItems = s.facets.maxItems := by
      rw [h.facets.rest]
      exact ⟨rfl, rfl⟩
    rw [typed_of_items ht hi, typed_of_items (h.typeName?_eq.trans ht) hj, hsame.1, hsame.2]
    exact .array false _ _ flag (ih _ hij)
  · intro s required ht hi t required' h flag
    rw [typed_of_no_items ht hi,
      typed_of_no_items (h.typeName?_eq.trans ht) (h.items_of_none hi)]
    exact leaf s t required required' h flag
  · intro s required _ ht ps hp ih t required' h flag
    have hproperties := h.properties
    cases hq : t.properties with
    | none =>
      have hsome := h.isSome_properties
      rw [hp, hq] at hsome
      cases hsome
    | some qs =>
      rw [hp, hq] at hproperties
      rw [typed_of_properties ht hp, typed_of_properties (h.typeName?_eq.trans ht) hq]
      exact ih _ _ _ hproperties h.facets.required flag
  · intro s required _ ht hp t required' h flag
    have hq : t.properties = none := by
      have hsome := h.isSome_properties
      rwa [hp, Option.isSome_none, Option.isSome_eq_false_iff, Option.isNone_iff_eq_none] at hsome
    rw [typed_of_no_properties ht hp, typed_of_no_properties (h.typeName?_eq.trans ht) hq]
    exact leaf s t required required' h flag
  · intro s required ha ht t required' h flag
    rw [typed_of_other ha ht, typed_of_other (by rwa [h.typeName?_eq]) (by rwa [h.typeName?_eq])]
    exact leaf s t required required' h flag
  · intro i hi ih j h
    have hnormal := AsksMore.normalize i j h
    rw [item, item, if_pos hi, if_pos (hnormal.isObjectItem_eq.trans hi)]
    exact ih _ _ _ hnormal.properties hnormal.facets.required id
  · intro i hi ih j h
    have hnormal := AsksMore.normalize i j h
    rw [item, item, if_neg hi, if_neg (by rwa [hnormal.isObjectItem_eq])]
    exact ih _ _ hnormal id

theorem root_stricter (o : Options) {s t : Schema} (h : AsksMore s t) :
    Stricter (root o s) (root o t) :=
  have hnormal := AsksMore.normalize s t h
  object_stricter _ _ _ _ _ _ hnormal.properties hnormal.facets.required id

end Plain

/-- **Requiring more is monotone.** If a schema differs from another one by more required names
only, at whatever depth, a document that breaks a rule of the other one at some path breaks a rule
of this one there. So what is valid for this one is valid for the other one. -/
theorem validate_asksMore (o : Options) {s t : Schema} (hs : s.Sorted) (ht : t.Sorted)
    (h : s.AsksMore t) (d : Json) :
    (∀ e ∈ (compile o s).validator.validate d,
      ∃ f ∈ (compile o t).validator.validate d, f.path = e.path) ∧
    ((compile o t).validator.isValid d = true → (compile o s).validator.isValid d = true) := by
  have hstricter : Validator.Stricter (compile o s).validator (compile o t).validator := by
    rw [show (compile o s).validator = _ from assemble_root o hs,
      show (compile o t).validator = _ from assemble_root o ht]
    exact Plain.root_stricter o h
  have hcovers : Validator.Covers ((compile o s).validator.validate d)
      ((compile o t).validator.validate d) := by
    rw [Validator.validate_eq, Validator.validate_eq]
    exact Validator.Stricter.reports _ _ hstricter (some d)
  refine ⟨hcovers, fun hvalid => ?_⟩
  rw [Validator.isValid_iff] at hvalid ⊢
  rw [hvalid] at hcovers
  refine List.eq_nil_iff_forall_not_mem.2 fun e he => ?_
  obtain ⟨f, hf, -⟩ := hcovers e he
  cases hf

namespace Schema

/-- A crate with a box in it, and a label on the box by way of `allOf`. -/
def crate (names below : List String) : Schema :=
  ofProperties [("box", empty.withAllOf [ofProperties [("label", ofType "string")] below])] names

theorem sorted_crate (names below : List String) : (crate names below).Sorted := by
  have hlabel : (ofProperties [("label", ofType "string")] below).Sorted :=
    sorted_ofProperties _ ⟨List.pairwise_singleton _ _, by simp [sorted_ofType]⟩
  have hbox : (empty.withAllOf [ofProperties [("label", ofType "string")] below]).Sorted :=
    sorted_withAllOf fun _ ht => List.mem_singleton.1 ht ▸ hlabel
  exact sorted_ofProperties _ ⟨List.pairwise_singleton _ _, by simp [hbox]⟩

theorem asksMore_crate {names more below deep : List String} (h : ∀ n ∈ names, n ∈ more)
    (h' : ∀ n ∈ below, n ∈ deep) : AsksMore (crate names below) (crate more deep) := by
  have htype : AsksMore (ofType "string") (ofType "string") := .intro (.refl _) .none .none .none
  have hlabel : AsksMore (ofProperties [("label", ofType "string")] below)
      (ofProperties [("label", ofType "string")] deep) :=
    .intro ⟨rfl, h'⟩ (.some (.cons "label" htype .nil)) .none .none
  have hbox : AsksMore (empty.withAllOf [ofProperties [("label", ofType "string")] below])
      (empty.withAllOf [ofProperties [("label", ofType "string")] deep]) :=
    .intro (.refl _) .none .none (.some (.cons hlabel .nil))
  exact .intro ⟨rfl, h⟩ (.some (.cons "box" hbox .nil)) .none .none

end Schema

theorem Plain.root_crate (names : List String) :
    root .default (Schema.crate names []) =
      .object [("box", .object [("label", .scalar (Scalar.of .string).allowNull)]
        (names.contains "box") false)] false false := by
  simp [root, object, fields, field, typed, leaf_eq, Schema.crate, Schema.withAllOf,
    Schema.ofProperties, Schema.ofType, Schema.normalize, Schema.normalizeOnto, Schema.merge,
    Schema.mergeProperties, Schema.mergeNamed, Schema.mergeItems, Schema.empty, Schema.typeName?,
    KeyMap.alter, Facets.merge, joinLists, prune, Facets.empty, TypeDecl.primary?, Options.default]
  rfl

/-- A box that is null is no object, and where it is required it is missing. -/
theorem validate_asksMore_crate :
    (Schema.crate [] []).Sorted ∧ (Schema.crate ["box"] ["label"]).Sorted ∧
    Schema.AsksMore (Schema.crate [] []) (Schema.crate ["box"] ["label"]) ∧
    (compile .default (Schema.crate [] [])).validator.validate (.obj [("box", .null)]) =
      [⟨[.field "box"], .typeError, "cannot be null"⟩] ∧
    ∃ f ∈ (compile .default (Schema.crate ["box"] ["label"])).validator.validate
      (.obj [("box", .null)]), f.path = [.field "box"] := by
  have hs := Schema.sorted_crate [] []
  have ht := Schema.sorted_crate ["box"] ["label"]
  have hmore : Schema.AsksMore (Schema.crate [] []) (Schema.crate ["box"] ["label"]) :=
    Schema.asksMore_crate (by simp) (by simp)
  have hnull : (compile .default (Schema.crate [] [])).validator.validate (.obj [("box", .null)]) =
      [⟨[.field "box"], .typeError, "cannot be null"⟩] := by
    rw [show (compile _ _).validator = _ from assemble_root _ hs, Plain.root_crate]
    decide
  refine ⟨hs, ht, hmore, hnull, ?_⟩
  exact (validate_asksMore .default hs ht hmore (.obj [("box", .null)])).1
    ⟨[.field "box"], .typeError, "cannot be null"⟩ (by simp [hnull])

end Conform
