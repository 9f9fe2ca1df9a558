import Conform.Proofs.Compile.Meaning
import Conform.Proofs.Compile.Warnings
import Conform.Proofs.Validator.Demands

/-!
# What a compilation demands

The set of required paths that a compilation keeps is the list of the required parts of the
validator that it gives (`required_root`): every path in the set is the one of a part, and every
part is marked as required whose path is in the set. So validating an empty document reports the
paths in the set that go through no list, in their order.

* `Build.mem_required_root`: the required paths of a compilation are those of its positions.
* `Plain.mem_asked_ofObject`: so are the demands of the plain recursion.
* `validate_emptyObject`: the violations of an empty document.

All is said of options without validators for fields of a name and without types that are required
by themselves, since these make parts required that no schema asks for.
-/

set_option autoImplicit false

namespace Conform

open Position

theorem Position.mem_asked {o : Options} {ps : List Position} {t : Path} :
    t ∈ asked o ps ↔ ∃ path properties names name, .object path properties names ∈ ps ∧
      name ∈ names ∧ name ∈ KeyMap.keys (prune o.blackList properties) ∧ t = path.child name := by
  simp only [asked, List.mem_flatMap]
  constructor
  · rintro ⟨p, hp, ht⟩
    cases p with
    | typed path s => cases ht
    | object path properties names =>
      obtain ⟨name, hn, hk, rfl⟩ := mem_resolved.1 ht
      exact ⟨path, properties, names, name, hp, hn, hk, rfl⟩
  · rintro ⟨path, properties, names, name, hp, hn, hk, rfl⟩
    exact ⟨_, hp, mem_resolved.2 ⟨name, hn, hk, rfl⟩⟩

/-! ## The set of a compilation -/

namespace Build

variable {o : Options}

/-- The paths that are required, and those that are asked for below the waiting maps. -/
def demanded (o : Options) (b : Build) : List Path :=
  b.required.paths ++ asked o (b.stack.flatMap fun q => ofFields o q.path q.fields)

/-- Compiling some positions adds the paths that these ask for. -/
theorem Takes.mem_demanded {b c : Build} {ps taken : List Position} {waiting : List Pending}
    (h : Takes o b c ps taken waiting) (t : Path) :
    t ∈ demanded o c ↔ t ∈ demanded o b ∨ t ∈ asked o ps := by
  have hpos : t ∈ asked o ps ↔ _ := (h.positions.flatMap_right (Position.required o)).mem_iff
  simp only [hpos, demanded, h.required, h.stack, asked, RequiredSet.mem_insertAll,
    List.flatMap_append, List.mem_append]
  exact ⟨by rintro ((h | h) | h | h) <;> simp [h], by rintro ((h | h) | h | h) <;> simp [h]⟩

/-- A turn changes nothing in the sum. -/
theorem mem_demanded_expand {b : Build} {p : Pending} {rest : List Pending}
    (hs : b.stack = p :: rest) (t : Path) :
    t ∈ demanded o (expand o p { b with stack := rest }) ↔ t ∈ demanded o b := by
  obtain ⟨_, _, h⟩ := fields_takes (o := o) p.path p.fields { b with stack := rest }
  refine (h.mem_demanded t).trans ?_
  simp only [demanded, hs, asked, List.flatMap_cons, List.flatMap_append, List.mem_append]
  exact ⟨by rintro ((h | h) | h) <;> simp [h], by rintro (h | h | h) <;> simp [h]⟩

theorem mem_demanded_run (b : Build) (t : Path) :
    t ∈ demanded o (run o b) ↔ t ∈ demanded o b := by
  fun_induction run o b with
  | case1 b _ => rfl
  | case2 b p rest hs ih => exact ih.trans (mem_demanded_expand hs t)

theorem mem_demanded_start (o : Options) (s : Schema) (t : Path) :
    t ∈ demanded o (start o s) ↔ t ∈ asked o (ofRoot o s) := by
  obtain ⟨b, _, _, h, -, hreq, hs⟩ := start_takes o s
  refine (h.mem_demanded t).trans (or_iff_right ?_)
  simp [demanded, hreq, hs]

/-- With no map waiting, the required paths are those that the positions ask for. -/
theorem mem_required_root (o : Options) (s : Schema) (t : Path) :
    t ∈ (root o s).required.paths ↔ t ∈ asked o (ofRoot o s) := by
  have h := (mem_demanded_run (start o s) t).trans (mem_demanded_start o s t)
  rwa [demanded, stack_run, List.flatMap_nil, asked, List.flatMap_nil, List.append_nil] at h

theorem ascending_run {b : Build} (h : Path.Ascending b.required.paths) :
    Path.Ascending (run o b).required.paths := by
  fun_induction run o b with
  | case1 b _ => exact h
  | case2 b p rest hs ih =>
    obtain ⟨taken, _, ht⟩ := fields_takes (o := o) p.path p.fields { b with stack := rest }
    have hreq : (expand o p { b with stack := rest }).required =
        b.required.insertAll (asked o taken) := ht.required
    exact ih (hreq ▸ RequiredSet.ascending_insertAll h _)

theorem ascending_root (o : Options) (s : Schema) :
    Path.Ascending (root o s).required.paths := by
  obtain ⟨b, _, _, h, -, hreq, -⟩ := start_takes o s
  refine ascending_run (b := start o s) ?_
  rw [h.required]
  refine RequiredSet.ascending_insertAll ?_ _
  rw [hreq]
  exact List.Pairwise.nil

end Build

/-! ## The required parts of a compiled validator -/

namespace Options

/-- No type is registered with a scalar that refuses absent values by itself. -/
def Lenient (o : Options) : Prop := ∀ t ∈ o.types, t.2.required = false

variable {o : Options}

/-- A leaf is required if it is built so. -/
theorem Lenient.required_leafScalar (h : o.Lenient) (s : Schema) (required : Bool) :
    (o.leafScalar s required).required = required := by
  have hbase : (o.leafBase s).required = false := by
    rw [leafBase]
    cases s.typeName? with
    | none => rfl
    | some name =>
      change ((o.types.lookup name).getD .permissive).required = false
      cases hl : o.types.lookup name with
      | none => rfl
      | some t => exact h (name, t) (KeyMap.mem_of_lookup hl)
  rw [leafScalar]
  cases s.facets.enum <;> cases s.lower? <;> cases s.upper? <;> cases required <;>
    first | exact hbase | rfl

end Options

namespace Plain

open Validator

variable {o : Options}

theorem isRequired_typed (h : o.Lenient) (s : Schema) (required : Bool) :
    (typed o s required).isRequired = required := by
  have hleaf : (Validator.scalar (o.leafScalar s required)).isRequired = required :=
    h.required_leafScalar s required
  by_cases ha : s.typeName? = some "array"
  · cases hi : s.items with
    | some i => rw [typed_of_items ha hi]; rfl
    | none => rw [typed_of_no_items ha hi, hleaf]
  · by_cases ht : s.typeName? = some "object"
    · cases hp : s.properties with
      | some ps => rw [typed_of_properties ht hp, object]; rfl
      | none => rw [typed_of_no_properties ht hp, hleaf]
    · rw [typed_of_other ha ht, hleaf]

theorem isRequired_field (h : o.Lenient) (hc : o.custom = []) (name : String) (s : Schema)
    (required : Bool) : (field o name s required).isRequired = required := by
  have hn : o.custom.lookup name = none := by rw [hc, List.lookup_nil]
  by_cases ha : s.allOf.isSome = true
  · rw [field_of_allOf hn ha, object]; rfl
  · rw [field_of_typed hn ha, isRequired_typed h]

theorem isRequired_item (h : o.Lenient) (i : Schema) : (item o i).isRequired = false := by
  by_cases hi : i.normalize.isObjectItem = true
  · rw [item, if_pos hi, object]; rfl
  · rw [item, if_neg hi, isRequired_typed h]

/-! ## The fields of a compiled validator are maps -/

theorem keys_fields (names : List String) (ps : List (String × Schema)) :
    KeyMap.keys (fields o names ps) = KeyMap.keys ps := by
  rw [fields_eq, KeyMap.keys, KeyMap.keys, List.map_map]
  rfl

/-- Compiling a schema whose properties are maps gives a validator whose fields are maps. -/
theorem sorted_object (hc : ∀ f ∈ o.custom, f.2.Sorted) (ps : Option (List (String × Schema)))
    (names : Option (List String)) (required : Bool) (h : Schema.SortedMap (ps.getD [])) :
    (object o ps names required).Sorted := by
  refine induct_object .scalar (fun _ _ _ _ => .array) (fun names ps required hs ih => ?_)
    ps names required h
  refine .object ?_ fun f hf => ?_
  · rw [KeyMap.sorted_iff_keys, keys_fields]
    exact KeyMap.sorted_iff_keys.1 hs.ascending
  · rw [fields_eq] at hf
    obtain ⟨⟨name, s⟩, hm, rfl⟩ := List.mem_map.1 hf
    cases hn : o.custom.lookup name with
    | none => exact ih name s hm hn
    | some v =>
      rw [field_of_custom hn]
      exact hc _ (KeyMap.mem_of_lookup hn)

theorem sorted_root (hc : ∀ f ∈ o.custom, f.2.Sorted) {s : Schema} (hs : s.Sorted) :
    (root o s).Sorted :=
  sorted_object hc _ _ _ hs.normalize.getD_properties

/-! ## Demands and positions -/

/-- **The positions below a path ask for what the plain recursion demands**, each part below its
own path. -/
theorem mem_asked_ofObject (h : o.Lenient) (hc : o.custom = []) (path : Path)
    (ps : Option (List (String × Schema))) (names : Option (List String)) (required : Bool)
    (t : Path) :
    t ∈ asked o (ofObject o path ps names) ↔
      t ∈ (object o ps names required).demandsBelow.map (path ++ ·) := by
  refine (Position.ofObject.mutual_induct o
    (fun path ps names => ∀ required, t ∈ asked o (ofObject o path ps names) ↔
      t ∈ (object o ps names required).demandsBelow.map (path ++ ·))
    (fun path ps => ∀ names : List String,
      t ∈ (resolve path (KeyMap.keys ps) names).resolved ∨ t ∈ asked o (ofFields o path ps) ↔
      t ∈ (fieldDemands (fields o names ps)).map (path ++ ·))
    (fun path name s => ∀ required, t ∈ asked o (ofField o path name s) ↔
      t ∈ (field o name s required).demandsBelow.map (path ++ ·))
    (fun path s => ∀ required, t ∈ asked o (ofTyped o path s) ↔
      t ∈ (typed o s required).demandsBelow.map (path ++ ·))
    (fun path i => t ∈ asked o (ofItem o path i) ↔
      t ∈ (item o i).demandsBelow.map (path ++ ·))
    ?_ ?_ ?_ ?_ ?_ ?_ ?_ ?_ ?_ ?_ ?_ ?_ ?_).1 path ps names required
  · intro path ps names ih required
    rw [ofObject, asked, List.flatMap_cons, List.mem_append, Position.required, object,
      demandsBelow]
    exact ih (names.getD [])
  · intro path names
    rw [ofFields, fields, fieldDemands]
    simp [resolve, KeyMap.keys]
  · intro path name s ps ihs ihps names
    rw [ofFields, fields, mem_map_fieldDemands_cons, mem_map_demands, isRequired_field h hc,
      ← ihs, ← ihps, asked, List.flatMap_append, List.mem_append]
    simp only [mem_resolved, KeyMap.keys_cons, List.mem_cons, List.contains_iff_mem]
    constructor
    · rintro (⟨k, hk, rfl | hm, rfl⟩ | hr | hr)
      · exact .inl (.inl ⟨hk, rfl⟩)
      · exact .inr (.inl ⟨k, hk, hm, rfl⟩)
      · exact .inl (.inr hr)
      · exact .inr (.inr hr)
    · rintro ((⟨hk, rfl⟩ | hr) | ⟨k, hk, hm, rfl⟩ | hr)
      · exact .inl ⟨name, hk, .inl rfl, rfl⟩
      · exact .inr (.inl hr)
      · exact .inl ⟨k, hk, .inr hm, rfl⟩
      · exact .inr (.inr hr)
  · intro path name s v hv
    simp [hc] at hv
  · intro path name s hn ha ih required
    rw [ofField, hn, field_of_allOf hn ha]
    simp only [if_pos ha]
    exact ih required
  · intro path name s hn ha ih required
    rw [ofField, hn, field_of_typed hn ha]
    simp only [if_neg ha]
    exact ih required
  · intro path s ht i hi ih required
    rw [ofTyped_of_items ht hi, typed_of_items ht hi, map_demandsBelow_array, mem_map_demands,
      isRequired_item h, ← ih]
    simp [Position.required]
  · intro path s ht hi required
    rw [ofTyped_of_no_items ht hi, typed_of_no_items ht hi]
    simp [Position.required, demandsBelow]
  · intro path s _ ht ps hp ih required
    rw [ofTyped_of_properties ht hp, typed_of_properties ht hp]
    exact ih required
  · intro path s _ ht hp required
    rw [ofTyped_of_no_properties ht hp, typed_of_no_properties ht hp]
    simp [Position.required, demandsBelow]
  · intro path s ha ht required
    rw [ofTyped, if_neg ha, if_neg ht, typed_of_other ha ht]
    simp [Position.required, demandsBelow]
  · intro path i hi ih
    rw [ofItem, if_pos hi, item, if_pos hi]
    exact ih false
  · intro path i hi ih
    rw [ofItem, if_neg hi, item, if_neg hi]
    exact ih false

/-- A whole schema demands nothing at the root. -/
theorem demands_root (o : Options) (s : Schema) :
    (root o s).demands = (root o s).demandsBelow := by
  rw [demands_eq, root, object]
  rfl

end Plain

/-- The set of required paths is the list of the required parts of the compiled validator. -/
theorem required_root {o : Options} (h : o.Lenient) (hc : o.custom = []) {s : Schema}
    (hs : s.Sorted) : (Build.root o s).required.paths = (Plain.root o s).demands := by
  have hcustom : ∀ f ∈ o.custom, f.2.Sorted := by simp [hc]
  refine (Build.ascending_root o s).eq_of_mem_iff
    (Validator.ascending_demands (Plain.sorted_root hcustom hs)) fun t => ?_
  rw [Plain.demands_root, Build.mem_required_root]
  refine (Plain.mem_asked_ofObject h hc .root _ _ false t).trans ?_
  simp [Path.root, Plain.root]

/-- **An empty document lacks exactly the fields that are known to be required**: with no
validators for fields of a name and no type that is required by itself, its violations are those
of the required paths of the compilation that go through no list, in ascending order. These lead
from an object that is reached through fields alone to a property that the object requires. -/
theorem validate_emptyObject {o : Options} (h : o.Lenient) (hc : o.custom = []) {s : Schema}
    (hs : s.Sorted) :
    let paths := (Build.root o s).required.paths.filter Path.isPlain
    (compile o s).validator.validate (.obj []) =
      paths.map (⟨·, .required, "is a required field"⟩) ∧
    Path.Ascending paths ∧
    (∀ t, t ∈ paths ↔ ∃ path properties names name,
      .object path properties names ∈ ofRoot o s ∧ .items ∉ path ∧ name ∈ names ∧
        name ∈ KeyMap.keys (prune o.blackList properties) ∧ t = path.child name) ∧
    ((compile o s).validator.isValid (.obj []) = true ↔ paths = []) := by
  intro paths
  have hbelow : (Plain.root o s).reports (some (.obj [])) = paths.map Violation.missing := by
    simp only [paths]
    rw [required_root h hc hs, Plain.demands_root, Plain.root, Plain.object]
    exact Validator.reports_emptyObject _ _ _
  have hvalid : (compile o s).validator.validate (.obj []) = paths.map Violation.missing := by
    rw [Validator.validate_eq, ← hbelow]
    exact congrArg (Validator.reports · (some (.obj []))) (assemble_root o hs)
  refine ⟨hvalid, (Build.ascending_root o s).filter _, fun t => ?_, ?_⟩
  · simp only [paths]
    rw [List.mem_filter, Build.mem_required_root, mem_asked]
    constructor
    · rintro ⟨⟨path, properties, names, name, hp, hn, hk, rfl⟩, ht⟩
      rw [Path.isPlain_child, Path.isPlain_iff] at ht
      exact ⟨path, properties, names, name, hp, ht, hn, hk, rfl⟩
    · rintro ⟨path, properties, names, name, hp, ht, hn, hk, rfl⟩
      rw [Path.isPlain_child, Path.isPlain_iff]
      exact ⟨⟨path, properties, names, name, hp, hn, hk, rfl⟩, ht⟩
  · rw [Validator.isValid_iff, hvalid, List.map_eq_nil_iff]

theorem Options.lenient_default : Options.default.Lenient := by
  simp [Lenient, default, TypeRegistry.default, Scalar.of, Scalar.allowNull, Scalar.whole,
    Scalar.replace]

/-- A parcel has stops, and it may have a sender. -/
def Schema.parcel : Schema := ofProperties [("sender", stop), ("stops", ofItems stop)] ["stops"]

theorem Schema.sorted_parcel : parcel.Sorted :=
  sorted_ofProperties _ ⟨by decide, by simp [sorted_stop, sorted_ofItems sorted_stop]⟩

theorem Plain.root_parcel :
    Plain.root .default Schema.parcel =
      .object
        [("sender", .object [("name", .scalar (Scalar.of .string).allowNull.require)] false false),
          ("stops", .array (.object [("name", .scalar (Scalar.of .string).allowNull.require)]
            false false) true false none none)]
        false false := by
  simp [Plain.root, Plain.object, Plain.fields, Plain.field, Plain.typed, Plain.item,
    Plain.leaf_eq, Schema.parcel, Schema.stop, Schema.ofProperties, Schema.ofItems,
    Schema.ofType, Schema.isObjectItem, Schema.normalize, Schema.normalizeOnto, Schema.merge,
    Schema.mergeProperties, Schema.mergeNamed, Schema.mergeItems, Schema.empty, Schema.typeName?,
    KeyMap.alter, Facets.merge, joinLists, prune, Facets.empty, TypeDecl.primary?,
    Options.default]
  rfl

theorem validate_emptyObject_parcel :
    Options.default.Lenient ∧ Options.default.custom = [] ∧ Schema.parcel.Sorted ∧
    (Build.root .default .parcel).required.paths =
      [[.field "sender", .field "name"], [.field "stops"],
        [.field "stops", .items, .field "name"]] ∧
    (compile .default .parcel).validator.validate (.obj []) =
      [⟨[.field "sender", .field "name"], .required, "is a required field"⟩,
        ⟨[.field "stops"], .required, "is a required field"⟩] ∧
    (compile .default .parcel).validator.isValid (.obj []) = false := by
  have hpaths : (Build.root .default .parcel).required.paths =
      [[.field "sender", .field "name"], [.field "stops"],
        [.field "stops", .items, .field "name"]] := by
    rw [required_root Options.lenient_default rfl Schema.sorted_parcel, Plain.root_parcel]
    decide
  obtain ⟨hreports, -, -, hvalid⟩ :=
    validate_emptyObject Options.lenient_default rfl Schema.sorted_parcel
  rw [hpaths] at hreports hvalid
  refine ⟨Options.lenient_default, rfl, Schema.sorted_parcel, hpaths, hreports, ?_⟩
  exact Bool.eq_false_iff.2 fun h => by cases hvalid.1 h

end Conform
