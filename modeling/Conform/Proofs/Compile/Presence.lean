import Conform.Proofs.Compile.Demands
import Conform.Proofs.Compile.Parts

/-!
# What is reported of required fields

A field that its object requires compiles to a part that is required itself
(`isRequired_field_true`), so an absent value and null are reported wherever a validation comes to
the object. An empty text is reported too, because it is no object, list, number or truth value, or
because it is an empty text. Only a leaf of any type takes it for a value like others.

* `mem_validate_iff`: the violations at a visited path are what is wrong with the value there.
* `validate_required`: what is reported of a required field.
-/

set_option autoImplicit false

namespace Conform

/-- The path with any item of a list in place of the item at an index, as in paths of schemas. -/
def Path.generic (path : Path) : Path :=
  path.map fun
    | .index _ => .items
    | seg => seg

namespace Validator

open Violation

variable {v w : Validator} {d : Json} {p : Path} {x : Option Json}

/-! ## The part that is visited -/

/-- What is visited at a path is the part of the validator there. -/
theorem part?_of_visits (hv : v.Sorted) (h : Visits v d p w x) : part? p.generic v = some w := by
  have hconcat : ∀ (p : Path) (seg : Segment), Path.generic (p ++ [seg]) =
      p.generic ++ Path.generic [seg] := fun p seg => List.map_append
  have hfield : ∀ (fields : List (String × Validator)) (required nullable : Bool) (name : String),
      (object fields required nullable).Sorted → ∀ u, (name, u) ∈ fields →
        part? [.field name] (object fields required nullable) = some u := by
    intro fields required nullable name hs u hu
    cases hs with
    | object ascending => simp [part?, ascending.lookup_eq_some_iff.2 hu]
  induction h with
  | root => rfl
  | absent above field ih =>
    have hs := hv.follow ((visits_iff hv).1 above)
    rw [Path.child, hconcat, part?_append, ih, Option.bind_some]
    exact hfield _ _ _ _ hs _ field
  | member above field ih =>
    have hs := hv.follow ((visits_iff hv).1 above)
    rw [Path.child, hconcat, part?_append, ih, Option.bind_some]
    exact hfield _ _ _ _ hs _ field
  | item above item ih =>
    rw [Path.index, hconcat, part?_append, ih, Option.bind_some]
    rfl

/-! ## The violations at a path -/

theorem mem_reports_root {k : ViolationKind} {m : String} :
    ⟨.root, k, m⟩ ∈ w.reports x ↔ ⟨k, m⟩ ∈ w.ownProblems x := by
  have hunder : ∀ (seg : Segment) (es : List Violation),
      (⟨.root, k, m⟩ : Violation) ∉ es.map (under [seg]) := by
    intro seg es he
    obtain ⟨e, -, he⟩ := List.mem_map.1 he
    cases congrArg Violation.path he
  have hfields : ∀ (fields : List (String × Validator)) (ms : List (String × Json)),
      (⟨.root, k, m⟩ : Violation) ∉ fieldReports fields ms := by
    intro fields ms
    induction fields with
    | nil => rw [fieldReports]; exact List.not_mem_nil
    | cons f fields ih =>
      obtain ⟨name, u⟩ := f
      rw [fieldReports, List.mem_append]
      exact fun h => h.elim (hunder _ _) ih
  have hitems : ∀ (report : Json → List Violation) (items : List Json),
      (⟨.root, k, m⟩ : Violation) ∉ itemReports report items := by
    intro report items h
    obtain ⟨y, -, h⟩ := List.mem_flatMap.1 h
    exact hunder _ _ h
  have hown : (⟨.root, k, m⟩ : Violation) ∈ (w.ownProblems x).map Problem.violation ↔
      ⟨k, m⟩ ∈ w.ownProblems x := by
    rw [List.mem_map]
    constructor
    · rintro ⟨⟨k', m'⟩, hm, he⟩
      cases he
      exact hm
    · exact fun hm => ⟨⟨k, m⟩, hm, rfl⟩
  rw [reports.eq_def, List.mem_append, hown]
  refine or_iff_left fun h => ?_
  match w with
  | scalar s => cases h
  | object fields required nullable =>
    cases hm : membersBelow x with
    | none => simp [hm] at h
    | some ms =>
      rw [hm] at h
      exact hfields fields ms h
  | array element required nullable least most => exact hitems _ _ h

/-- **The violations at a visited path** are what is wrong with the value there. -/
theorem mem_validate_iff (hv : v.Sorted) (h : Visits v d p w x) {k : ViolationKind} {m : String} :
    ⟨p, k, m⟩ ∈ v.validate d ↔ ⟨k, m⟩ ∈ w.ownProblems x := by
  rw [← List.count_pos_iff, count_validate_of_visits hv h, List.count_pos_iff, collect_eq,
    mem_reports_root]

theorem exists_mem_validate_iff (hv : v.Sorted) (h : Visits v d p w x) :
    (∃ e ∈ v.validate d, e.path = p) ↔ w.ownProblems x ≠ [] := by
  constructor
  · rintro ⟨⟨q, k, m⟩, he, rfl⟩
    exact List.ne_nil_of_mem ((mem_validate_iff hv h).1 he)
  · intro hne
    obtain ⟨⟨k, m⟩, hm⟩ := List.exists_mem_of_ne_nil _ hne
    exact ⟨⟨p, k, m⟩, (mem_validate_iff hv h).2 hm, rfl⟩

/-! ## Required parts -/

theorem missing_mem_ownProblems (hr : w.isRequired = true) (hx : x = none ∨ x = some .null) :
    Problem.missing ∈ w.ownProblems x := by
  rcases hx with rfl | rfl
  · rw [ownProblems_none, if_pos hr]
    exact List.mem_singleton_self _
  · cases w with
    | scalar s =>
      have hs : s.required = true := hr
      simp [ownProblems, Scalar.problems_null, hs]
    | object fields required nullable =>
      have hs : required = true := hr
      simp [ownProblems, containerProblems, hs]
    | array element required nullable least most =>
      have hs : required = true := hr
      simp [ownProblems, containerProblems, hs]

theorem numberOfText?_empty : numberOfText? "" = none := by decide

/-- A required part finds nothing wrong with an empty text only if it is a leaf of any type, and no
constraint of it is broken. -/
theorem ownProblems_emptyText_eq_nil_iff (hr : w.isRequired = true) :
    w.ownProblems (some (.str "")) = [] ↔
      ∃ t, w = .scalar t ∧ t.base = .mixed ∧
        ∀ c ∈ t.constraints, c.problem? (.other (.str "")) = none := by
  cases w with
  | object fields required nullable => simp [ownProblems, containerProblems, Json.isObject]
  | array element required nullable least most =>
    simp [ownProblems, containerProblems, Json.isArray]
  | scalar t =>
    have hrequired : t.required = true := hr
    have hproblems : (scalar t).ownProblems (some (.str "")) = t.valueProblems (.str "") := rfl
    rw [hproblems, Scalar.valueProblems]
    cases hb : t.base with
    | mixed => simp [BaseType.cast?, Cast.isEmptyText, hb]
    | string => simp [BaseType.cast?, Cast.isEmptyText, hb, hrequired]
    | number => simp [BaseType.cast?, numberOfText?_empty, hb]
    | boolean => simp [BaseType.cast?, hb]

end Validator

/-! ## Required fields -/

namespace Plain

variable {o : Options}

theorem isRequired_leaf_true (s : Schema) :
    (Validator.scalar (o.leafScalar s true)).isRequired = true := by
  rw [Options.leafScalar]
  rfl

/-- A required field compiles to a required part, unless there is a validator for its name. -/
theorem isRequired_field_true {name : String} (hc : o.custom.lookup name = none) (s : Schema) :
    (field o name s true).isRequired = true := by
  by_cases hallOf : s.allOf.isSome = true
  · rw [field_of_allOf hc hallOf, object]
    rfl
  · rw [field_of_typed hc hallOf]
    by_cases ha : s.typeName? = some "array"
    · cases hi : s.items with
      | some i => rw [typed_of_items ha hi]; rfl
      | none => rw [typed_of_no_items ha hi, isRequired_leaf_true]
    · by_cases ht : s.typeName? = some "object"
      · cases hp : s.properties with
        | some ps => rw [typed_of_properties ht hp, object]; rfl
        | none => rw [typed_of_no_properties ht hp, isRequired_leaf_true]
      · rw [typed_of_other ha ht, isRequired_leaf_true]

end Plain

open Validator

variable {o : Options} {r s : Schema} {path : Path} {name : String} {required : Bool} {d : Json}
  {w : Validator} {x : Option Json} {ms : List (String × Json)}

theorem sorted_compile (hc : ∀ f ∈ o.custom, f.2.Sorted) (hr : r.Sorted) :
    (compile o r).validator.Sorted := by
  rw [show (compile o r).validator = Plain.root o r from assemble_root o hr]
  exact Plain.sorted_root hc hr

/-- Where a validation comes to an object, it comes to each of its properties. -/
theorem HasProperty.visits (hc : ∀ f ∈ o.custom, f.2.Sorted) (hr : r.Sorted)
    (h : HasProperty o r path.generic name s required)
    (hv : Visits (compile o r).validator d path w x) (hm : membersBelow x = some ms) :
    Visits (compile o r).validator d (path.child name) (Plain.field o name s required)
      (ms.lookup name) := by
  have hsorted := sorted_compile hc hr
  -- the part at the path of the object is known, and its field is the part at that of the property
  have hpart := h.part?_eq hr
  rw [Path.child, part?_append, part?_of_visits hsorted hv, Option.bind_some] at hpart
  refine visits_of_step hv ?_
  cases w with
  | object fields flag nullable =>
    obtain ⟨u, hu, he⟩ := Option.bind_eq_some_iff.1 hpart
    cases he
    simp [Validator.step, hm, hu]
  | scalar t => cases hpart
  | array element flag nullable least most => cases hpart

/-- **What is reported of a required field**, wherever a validation comes to its object: that it is
missing if it is absent or null. An empty text is reported in one way or another as well, unless the
field compiles to a leaf of any type none of whose constraints is broken by an empty text. -/
theorem validate_required (hc : ∀ f ∈ o.custom, f.2.Sorted) (hr : r.Sorted)
    (hp : HasProperty o r path.generic name s true) (hn : o.custom.lookup name = none)
    (hv : Visits (compile o r).validator d path w x) (hm : membersBelow x = some ms) :
    (ms.lookup name = none ∨ ms.lookup name = some .null →
      Violation.missing (path.child name) ∈ (compile o r).validator.validate d) ∧
    (ms.lookup name = some (.str "") →
      ((∃ e ∈ (compile o r).validator.validate d, e.path = path.child name) ↔
        ¬ ∃ t, part? (path.generic.child name) (compile o r).validator = some (.scalar t) ∧
          t.base = .mixed ∧ ∀ c ∈ t.constraints, c.problem? (.other (.str "")) = none)) := by
  have hsorted := sorted_compile hc hr
  have hrequired := Plain.isRequired_field_true hn s
  have hvisits := hp.visits hc hr hv hm
  refine ⟨fun hx => ?_, fun hx => ?_⟩
  · exact (mem_validate_iff hsorted hvisits).2 (missing_mem_ownProblems hrequired hx)
  · rw [exists_mem_validate_iff hsorted hvisits, hx, hp.part?_eq hr]
    refine not_congr ((ownProblems_emptyText_eq_nil_iff hrequired).trans ?_)
    simp only [Option.some_inj]

theorem Plain.root_labelled (label : Schema) :
    root .default (Schema.labelled label) =
      .object [("label", field .default "label" label true)] false false := by
  have hnormal : (Schema.labelled label).normalize = Schema.labelled label :=
    Schema.normalize_of_allOf_eq_none rfl
  have hfields : prune Options.default.blackList [("label", label)] = [("label", label)] := rfl
  rw [root, hnormal, object]
  simp only [Schema.labelled, Schema.ofProperties, Option.getD_some, hfields, fields]
  rfl

/-- A label is missing if it is absent, and an empty one is reported if it has to be a text. -/
theorem validate_required_labelled :
    (∀ f ∈ Options.default.custom, f.2.Sorted) ∧
    (Schema.labelled (Schema.ofType "string")).Sorted ∧
    Violation.missing [.field "label"] ∈ (compile .default
      (Schema.labelled (Schema.ofType "string"))).validator.validate (.obj []) ∧
    ∃ e ∈ (compile .default (Schema.labelled (Schema.ofType "string"))).validator.validate
      (.obj [("label", .str "")]), e.path = [.field "label"] := by
  have hc : ∀ f ∈ Options.default.custom, f.2.Sorted := by simp [Options.default]
  have hs := Schema.sorted_labelled (Schema.sorted_ofType "string")
  have hp : HasProperty .default (Schema.labelled (Schema.ofType "string")) (Path.generic .root)
      "label" (Schema.ofType "string") true := Schema.hasProperty_labelled _
  have hfield : Plain.field .default "label" (Schema.ofType "string") true =
      .scalar (Scalar.of .string).allowNull.require := by
    have hn : ¬ (Schema.ofType "string").allOf.isSome = true := by
      simp [Schema.ofType, Schema.empty]
    rw [Plain.field_of_typed rfl hn, Plain.typed_of_other (by decide) (by decide)]
    rfl
  refine ⟨hc, hs, ?_, ?_⟩
  · exact (validate_required hc hs hp rfl .root rfl).1 (.inl rfl)
  · refine ((validate_required hc hs hp rfl .root rfl).2 rfl).2 ?_
    rintro ⟨t, ht, hbase, -⟩
    rw [hp.part?_eq hs, hfield] at ht
    cases Option.some.inj ht
    cases hbase

/-- A label of any type may be an empty text, although it is required. -/
theorem validate_required_silent :
    (compile .default (Schema.labelled .empty)).validator.validate
      (.obj [("label", .str "")]) = [] := by
  have hs := Schema.sorted_labelled Schema.sorted_empty
  have hfield : Plain.field .default "label" .empty true = .scalar Scalar.permissive.require := by
    have hn : ¬ Schema.empty.allOf.isSome = true := by simp [Schema.empty]
    rw [Plain.field_of_typed rfl hn, Plain.typed_of_other (by decide) (by decide)]
    rfl
  rw [show (compile _ _).validator = _ from assemble_root _ hs, Plain.root_labelled, hfield]
  decide

end Conform
