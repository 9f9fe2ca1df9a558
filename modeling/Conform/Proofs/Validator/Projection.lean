import Conform.Proofs.Validator.Visits

/-!
# What a validator looks at

`Validator.project` leaves of a document what a validator looks at: where an object is expected and
there is one, the members that are declared, each with what its field looks at; where a list is
expected and there is one, what the element looks at in each item; every other value as a whole,
since it may be written into a message. Members that are not declared have no influence.

* `reports_project`: the reports of a value are those of what is looked at.
* `validate_project`: documents of which the same is looked at have the same violations.
-/

set_option autoImplicit false

namespace Conform.Validator

mutual

/-- What a validator looks at in a value. -/
def project (v : Validator) (x : Json) : Json :=
  match v with
  | scalar _ => x
  | object fields _ _ =>
    match x with
    | .obj ms => .obj (ms.filterMap fun m => (projectField fields m.1 m.2).map (m.1, ·))
    | x => x
  | array element _ _ _ _ =>
    match x with
    | .arr items => .arr (items.map fun y => project element y)
    | x => x

/-- What the field of a name looks at in a value, if there is such a field. -/
def projectField : List (String × Validator) → String → Json → Option Json
  | [], _, _ => none
  | (name, v) :: rest, key, x =>
    if key = name then some (project v x) else projectField rest key x

end

/-! ## Looking once more -/

mutual

/-- A validator looks at all of what it looks at. -/
theorem project_project (v : Validator) (x : Json) : v.project (v.project x) = v.project x := by
  match v with
  | scalar s => rw [project, project]
  | object fields required nullable =>
    cases x with
    | obj ms =>
      rw [project, project, List.filterMap_filterMap]
      refine congrArg (fun f => Json.obj (ms.filterMap f)) (funext fun m => ?_)
      cases h : projectField fields m.1 m.2 with
      | none => rfl
      | some y => simp only [Option.map_some, Option.bind_some, projectField_of_eq_some fields h]
    | _ => rfl
  | array element required nullable least most =>
    cases x with
    | arr items =>
      rw [project, project, List.map_map]
      exact congrArg Json.arr (List.map_congr_left fun y _ => project_project element y)
    | _ => rfl

theorem projectField_of_eq_some (fields : List (String × Validator)) {key : String} {x y : Json}
    (h : projectField fields key x = some y) : projectField fields key y = some y := by
  match fields with
  | [] => cases h
  | (name, v) :: rest =>
    rw [projectField] at h ⊢
    split at h
    · cases h
      rw [if_pos ‹_›, project_project v x]
    · rw [if_neg ‹_›]
      exact projectField_of_eq_some rest h

end

/-! ## Reports -/

theorem projectField_eq (fields : List (String × Validator)) (key : String) (x : Json) :
    projectField fields key x = (fields.lookup key).map (·.project x) := by
  induction fields with
  | nil => rfl
  | cons f fields ih =>
    obtain ⟨name, v⟩ := f
    rw [projectField, ih, KeyMap.lookup_cons_eq_ite]
    split <;> rfl

/-- A declared member is there as its field looks at it. -/
theorem lookup_projectField {fields : List (String × Validator)} {name : String} {w : Validator}
    (hw : fields.lookup name = some w) (ms : List (String × Json)) :
    (ms.filterMap fun m => (projectField fields m.1 m.2).map (m.1, ·)).lookup name =
      (ms.lookup name).map w.project := by
  induction ms with
  | nil => rfl
  | cons m ms ih =>
    obtain ⟨key, x⟩ := m
    rw [List.filterMap_cons, KeyMap.lookup_cons_eq_ite]
    by_cases hkey : name = key
    · subst hkey
      rw [projectField_eq, hw, if_pos rfl]
      exact (KeyMap.lookup_cons_eq_ite ..).trans (if_pos rfl)
    · rw [if_neg hkey, ← ih]
      cases projectField fields key x with
      | none => rfl
      | some y => exact (KeyMap.lookup_cons_eq_ite ..).trans (if_neg hkey)

/-- What is wrong with a value itself is wrong with what is looked at. -/
theorem ownProblems_project (v : Validator) (x : Option Json) :
    v.ownProblems (x.map v.project) = v.ownProblems x := by
  match v, x with
  | _, none => rfl
  | scalar s, some x => rfl
  | object fields required nullable, some x => cases x <;> rfl
  | array element required nullable least most, some x =>
    cases x with
    | arr items => exact congrArg (countProblems least most) (List.length_map _)
    | _ => rfl

theorem itemReports_map (report : Json → List Violation) (f : Json → Json) (items : List Json) :
    itemReports report (items.map f) = itemReports (fun y => report (f y)) items := by
  rw [itemReports, List.zipIdx_map, List.flatMap_map]
  rfl

mutual

/-- **The reports of a value are those of what is looked at.** -/
theorem reports_project (v : Validator) (hv : v.Sorted) (x : Option Json) :
    v.reports (x.map v.project) = v.reports x := by
  rw [reports.eq_def, ownProblems_project, reports.eq_def v x]
  congr 1
  match v, hv with
  | scalar s, _ => rfl
  | object fields required nullable, .object ascending sorted =>
    have hlookup : ∀ f ∈ fields, fields.lookup f.1 = some f.2 := fun f hf =>
      ascending.lookup_eq_some_iff.2 hf
    match x with
    | none => rfl
    | some (.obj ms) =>
      exact fieldReports_project fields sorted fun f hf => lookup_projectField (hlookup f hf) ms
    | some .null | some (.bool _) | some (.num _) | some (.str _) | some (.arr _) => rfl
  | array element required nullable least most, .array sorted =>
    match x with
    | some (.arr items) =>
      have helement : (fun y => element.reports (some (element.project y))) =
          fun y => element.reports (some y) :=
        funext fun y => reports_project element sorted (some y)
      exact (itemReports_map _ _ items).trans (congrArg (itemReports · items) helement)
    | none | some .null | some (.bool _) | some (.num _) | some (.str _) | some (.obj _) => rfl

/-- Fields report the same of members that are there as the fields look at them. -/
theorem fieldReports_project (fields : List (String × Validator)) (hs : ∀ f ∈ fields, f.2.Sorted)
    {ms ns : List (String × Json)}
    (h : ∀ f ∈ fields, ns.lookup f.1 = (ms.lookup f.1).map f.2.project) :
    fieldReports fields ns = fieldReports fields ms := by
  match fields with
  | [] => rw [fieldReports, fieldReports]
  | (name, v) :: rest =>
    obtain ⟨hname, hrest⟩ := List.forall_mem_cons.1 h
    obtain ⟨hv, hsorted⟩ := List.forall_mem_cons.1 hs
    rw [fieldReports, fieldReports, hname, reports_project v hv,
      fieldReports_project rest hsorted hrest]

end

/-- **Members that are not declared have no influence.** A document and what a validator looks at in
it have the same violations, all of them or the first one, so documents in which the validator
looks at the same cannot be told apart. -/
theorem validate_project {v : Validator} (hv : v.Sorted) (abortEarly : Bool) (d e : Json) :
    v.validateWith abortEarly (v.project d) = v.validateWith abortEarly d ∧
    v.project (v.project d) = v.project d ∧
    (v.project d = v.project e →
      v.validateWith abortEarly d = v.validateWith abortEarly e) := by
  have hproject : ∀ d, v.validateWith abortEarly (v.project d) = v.validateWith abortEarly d := by
    intro d
    have hreports : v.reports (some (v.project d)) = v.reports (some d) :=
      reports_project v hv (some d)
    rw [validateWith, validateWith, check_eq, check_eq, hreports]
  refine ⟨hproject d, project_project v d, fun h => ?_⟩
  rw [← hproject d, h, hproject e]

/-- A cargo has a weight and boxes with labels. -/
def cargo : Validator :=
  object
    [("boxes", array (object [("label", scalar (Scalar.of .string).require)] false false)
        false false none none),
      ("weight", scalar (Scalar.of .number))]
    false false

theorem sorted_cargo : cargo.Sorted := by
  refine .object (by decide) fun f hf => ?_
  rcases List.mem_cons.1 hf with rfl | hf
  · exact .array (.object (List.pairwise_singleton _ _) fun f hf => by
      cases List.mem_singleton.1 hf
      exact .scalar _)
  · cases List.mem_singleton.1 hf
    exact .scalar _

/-- Two boxes, of which one has no label, and a weight that is no number. -/
def plainCargo : Json :=
  .obj [("boxes", .arr [.obj [("label", .str "A")], .obj []]), ("weight", .obj [("kg", .nat 3)])]

/-- The same with notes here and there. -/
def notedCargo : Json :=
  .obj [("boxes", .arr [.obj [("label", .str "A"), ("note", .null)], .obj [("name", .str "B")]]),
    ("note", .obj [("weight", .nat 1)]), ("weight", .obj [("kg", .nat 3)])]

theorem validate_project_cargo :
    cargo.Sorted ∧ cargo.project notedCargo = plainCargo ∧
    cargo.project notedCargo = cargo.project plainCargo ∧
    cargo.validateWith false notedCargo = cargo.validateWith false plainCargo ∧
    cargo.validateWith true notedCargo = cargo.validateWith true plainCargo ∧
    (cargo.validate plainCargo).map (·.path) =
      [[.field "boxes", .index 1, .field "label"], [.field "weight"]] := by
  have hnoted : cargo.project notedCargo = plainCargo := rfl
  have hsame : cargo.project notedCargo = cargo.project plainCargo := rfl
  exact ⟨sorted_cargo, hnoted, hsame, (validate_project sorted_cargo false _ _).2.2 hsame,
    (validate_project sorted_cargo true _ _).2.2 hsame, by decide⟩

end Conform.Validator
