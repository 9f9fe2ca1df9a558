import Conform.Proofs.Compile.Parts
import Conform.Proofs.Compile.Simulation
import Conform.Proofs.Schema.Blank

/-!
# Validators that are given for fields

The options may give a validator for the fields of a name. It is taken as it is wherever such a
field stands, and what the schema has there is not looked at: schemas that agree once it is blanked
out compile to the same (`compile_congr`), whatever their unknown keywords are. So the schemas of
these fields have no say about their own compilation nor about anything else.

* `Options.droppingUnknown`, `Options.blanking`: neither change is noticed.
* `Verbatim`: in a compiled validator all fields of these names are the given validators.
-/

set_option autoImplicit false

namespace Conform

open Schema

namespace Options

/-- A validator is given for the fields of this name. -/
def overrides (o : Options) (name : String) : Bool := KeyMap.has name o.custom

theorem overrides_eq_false_iff {o : Options} {name : String} :
    o.overrides name = false ↔ o.custom.lookup name = none := by
  rw [overrides, KeyMap.has, Option.isSome_eq_false_iff, Option.isNone_iff_eq_none]

/-- Leaving unknown keywords out. -/
def droppingUnknown (o : Options) : Simulation o o where
  onSchema := Schema.edit .dropUnknown
  onField _ := Schema.edit .dropUnknown
  keeps _ := true
  types := rfl
  custom := rfl
  blackList _ := by simp
  facets s := ⟨[], by rw [facets_edit, map_filter_true]; rfl⟩
  properties s := by
    rw [properties_edit]
    refine congrArg (s.properties.map ·) (funext fun ps => ?_)
    rw [editNamed_eq]
    rfl
  items := items_edit
  allOf s := by rw [allOf_edit, Option.isSome_map]
  field _ _ _ := rfl
  normalize _ hs := (edit_normalize hs).symm

/-- Blanking out the schemas of fields for which a validator is given. -/
def blanking (o : Options) : Simulation o o where
  onSchema := Schema.blank o.overrides
  onField name s := if o.overrides name then Schema.empty else s.blank o.overrides
  keeps _ := true
  types := rfl
  custom := rfl
  blackList _ := by simp
  facets s := ⟨s.facets.extra, by rw [facets_blank, map_filter_true]⟩
  properties s := by
    rw [properties_blank]
    refine congrArg (s.properties.map ·) (funext fun ps => ?_)
    rw [List.filter_eq_self.2 fun _ _ => rfl]
  items := items_blank
  allOf s := by rw [allOf_blank, Option.isSome_map]
  field name s hn := by
    rw [overrides_eq_false_iff.2 hn]
    rfl
  normalize s hs := (passesMerge_blank.normalize s hs).symm

end Options

/-- Schemas that agree once the fields for which a validator is given are blanked out compile to the
same. -/
theorem compile_congr (o : Options) {s t : Schema} (hs : s.Sorted) (ht : t.Sorted)
    (h : Agree (s.blank o.overrides) (t.blank o.overrides)) : compile o s = compile o t := by
  have hs' : compile o ((s.blank o.overrides).edit .dropUnknown) = compile o s :=
    (o.droppingUnknown.compile_eq hs.blank).trans (o.blanking.compile_eq hs)
  have ht' : compile o ((t.blank o.overrides).edit .dropUnknown) = compile o t :=
    (o.droppingUnknown.compile_eq ht.blank).trans (o.blanking.compile_eq ht)
  exact hs'.symm.trans ((congrArg (compile o) h).trans ht')

/-! ## Given validators -/

/-- No step of the path is a field for which a validator is given. -/
def Path.Outside (o : Options) (path : Path) : Prop :=
  ∀ name, .field name ∈ path → o.custom.lookup name = none

/-- Outside of given validators every field for which one is given is that validator. -/
def Verbatim (o : Options) (v : Validator) : Prop :=
  ∀ path name w u, Path.Outside o path → o.custom.lookup name = some w →
    Validator.part? (path.child name) v = some u → u = w

namespace Verbatim

variable {o : Options}

theorem scalar (s : Scalar) : Verbatim o (.scalar s) := by
  intro path name w u _ _ hu
  cases path with
  | nil => cases hu
  | cons seg path => cases seg <;> cases hu

theorem array {element : Validator} (h : Verbatim o element) (required nullable : Bool)
    (least most : Option Nat) : Verbatim o (.array element required nullable least most) := by
  intro path name w u hpath hw hu
  cases path with
  | nil => cases hu
  | cons seg path =>
    cases seg with
    | items => exact h path name w u (fun k hk => hpath k (List.mem_cons_of_mem _ hk)) hw hu
    | field k => cases hu
    | index i => cases hu

theorem object {fields : List (String × Validator)}
    (given : ∀ name v w, fields.lookup name = some v → o.custom.lookup name = some w → v = w)
    (other : ∀ name v, fields.lookup name = some v → o.custom.lookup name = none → Verbatim o v)
    (required nullable : Bool) : Verbatim o (.object fields required nullable) := by
  intro path name w u hpath hw hu
  cases path with
  | nil =>
    obtain ⟨v, hv, hu⟩ := Option.bind_eq_some_iff.1 hu
    cases hu
    exact given name u w hv hw
  | cons seg path =>
    cases seg with
    | field k =>
      obtain ⟨v, hv, hu⟩ := Option.bind_eq_some_iff.1 hu
      exact other k v hv (hpath k List.mem_cons_self) path name w u
        (fun j hj => hpath j (List.mem_cons_of_mem _ hj)) hw hu
    | items => cases hu
    | index i => cases hu

end Verbatim

namespace Plain

variable {o : Options}

/-- In what an object compiles to the given validators are taken as they are. -/
theorem verbatim_object (ps : Option (List (String × Schema))) (names : Option (List String))
    (required : Bool) (h : SortedMap (ps.getD [])) : Verbatim o (object o ps names required) := by
  refine induct_object .scalar (fun _ _ _ _ hv => hv.array _ _ _ _)
    (fun names ps required _ ih => ?_) ps names required h
  refine .object (fun name v w hv hw => ?_) (fun name v hv hn => ?_) required false
  · rw [lookup_fields, Option.map_eq_some_iff] at hv
    obtain ⟨s, -, rfl⟩ := hv
    exact field_of_custom hw
  · rw [lookup_fields, Option.map_eq_some_iff] at hv
    obtain ⟨s, hs, rfl⟩ := hv
    exact ih name s (KeyMap.mem_of_lookup hs) hn

end Plain

/-- **Given validators are taken as they are**, and what the schema has in their place is not looked
at. Schemas that agree but for unknown keywords and for what stands under the names for which a
validator is given compile to the same validator with the same warnings. In it every field of such a
name is the given validator, and every property of such a name has become one, also where the list
of required names asks for it. -/
theorem compile_overrides (o : Options) {s t : Schema} (hs : s.Sorted) (ht : t.Sorted) :
    (Agree (s.blank o.overrides) (t.blank o.overrides) → compile o s = compile o t) ∧
    (∀ path name w u, Path.Outside o path → o.custom.lookup name = some w →
      Validator.part? (path.child name) (compile o s).validator = some u → u = w) ∧
    ∀ path name p required w, HasProperty o s path name p required →
      o.custom.lookup name = some w →
        Validator.part? (path.child name) (compile o s).validator = some w := by
  refine ⟨compile_congr o hs ht, ?_, fun path name p required w hp hw => ?_⟩
  · rw [show (compile o s).validator = Plain.root o s from assemble_root o hs]
    exact Plain.verbatim_object _ _ _ hs.normalize.getD_properties
  · rw [hp.part?_eq hs, Plain.field_of_custom hw]

/-- Options that give a validator for labels. -/
def Options.labels : Options := ⟨.default, [("label", .scalar .permissive)], [], false⟩

/-- A parcel with a title, and with a label of an unknown type. -/
def Schema.titled : Schema :=
  { labelled (empty.withAllOf [ofType "barcode"]) with
    facets := { Facets.empty with
      required := some ["label"]
      extra := [("title", .str "Parcel")] } }

theorem Schema.sorted_titled : titled.Sorted := by
  have h : (labelled (empty.withAllOf [ofType "barcode"])).Sorted :=
    sorted_labelled (sorted_withAllOf (by simp [sorted_ofType]))
  exact .of_parts (fun _ hp => h.map hp) (fun _ hi => h.item hi) (fun _ hs _ ht => h.entry hs ht)

/-- With a validator for labels it makes no difference that the type is unknown. -/
theorem compile_overrides_titled :
    titled.Sorted ∧ (labelled (ofType "string")).Sorted ∧
    compile .labels titled = compile .labels (labelled (ofType "string")) ∧
    Validator.part? (Path.root.child "label") (compile .labels titled).validator =
      some (.scalar .permissive) := by
  have hs := sorted_titled
  have ht : (labelled (ofType "string")).Sorted := sorted_labelled (sorted_ofType _)
  have hproperty : HasProperty .labels titled .root "label" (empty.withAllOf [ofType "barcode"])
      true := by
    refine ⟨[("label", empty.withAllOf [ofType "barcode"])], ["label"], ?_, List.mem_cons_self, rfl⟩
    rw [Position.ofRoot, normalize_of_allOf_eq_none rfl, Position.ofObject]
    exact List.mem_cons_self
  obtain ⟨hcongr, -, hgiven⟩ := compile_overrides .labels hs ht
  exact ⟨hs, ht, hcongr rfl, hgiven _ _ _ _ _ hproperty rfl⟩

end Conform
