import Conform.Proofs.KeyMap
import Conform.Proofs.Validator.Reports

/-!
# Where a validation reports what

`Visits v d path w x` says that the validation of a document `d` by `v` comes to `path`, where the
part `w` of the validator meets the value `x`, or an absent one. What is reported at a path and
below is what that part alone reports for that value, and nothing is reported anywhere else.

* `visits_iff`: the part and the value at a path are found by following the path.
* `within_reports`: the reports below a path, in order.
* `validate_exact`: how often each violation is reported.

All is said of validators whose fields are a map (`Validator.Sorted`).
-/

set_option autoImplicit false

namespace Conform

/-- The fields of all objects have their names in ascending order. -/
inductive Validator.Sorted : Validator → Prop
  | scalar (s : Scalar) : Sorted (.scalar s)
  | object {fields : List (String × Validator)} {required nullable : Bool}
    (ascending : KeyMap.Sorted fields) (sorted : ∀ f ∈ fields, Sorted f.2) :
    Sorted (.object fields required nullable)
  | array {element : Validator} {required nullable : Bool} {least most : Option Nat}
    (sorted : Sorted element) : Sorted (.array element required nullable least most)

/-- A validation comes to a path. The fields of an object are visited if it is there or absent, and
the items of a list if it is there. -/
inductive Visits (v : Validator) (d : Json) : Path → Validator → Option Json → Prop
  | root : Visits v d .root v (some d)
  | absent {path : Path} {fields : List (String × Validator)} {required nullable : Bool}
    {name : String} {w : Validator}
    (above : Visits v d path (.object fields required nullable) none)
    (field : (name, w) ∈ fields) : Visits v d (path.child name) w none
  | member {path : Path} {fields : List (String × Validator)} {required nullable : Bool}
    {ms : List (String × Json)} {name : String} {w : Validator}
    (above : Visits v d path (.object fields required nullable) (some (.obj ms)))
    (field : (name, w) ∈ fields) : Visits v d (path.child name) w (ms.lookup name)
  | item {path : Path} {element : Validator} {required nullable : Bool} {least most : Option Nat}
    {items : List Json} {i : Nat} {y : Json}
    (above : Visits v d path (.array element required nullable least most) (some (.arr items)))
    (item : items[i]? = some y) : Visits v d (path.index i) element (some y)

namespace Validator

/-- The part of a validator behind a step, and the value that it meets there. -/
def step : Segment → Validator → Option Json → Option (Validator × Option Json)
  | .field name, object fields _ _, x =>
    (membersBelow x).bind fun ms => (fields.lookup name).map fun w => (w, ms.lookup name)
  | .index i, array element _ _ _ _, x => (itemsBelow x)[i]?.map fun y => (element, some y)
  | _, _, _ => none

/-- The part of a validator at the end of a path, and the value that it meets there. -/
def follow : Path → Validator → Option Json → Option (Validator × Option Json)
  | [], v, x => some (v, x)
  | s :: p, v, x => (step s v x).bind fun y => follow p y.1 y.2

/-! ## Following paths -/

theorem follow_append (p q : Path) (v : Validator) (x : Option Json) :
    follow (p ++ q) v x = (follow p v x).bind fun y => follow q y.1 y.2 := by
  induction p generalizing v x with
  | nil => rfl
  | cons s p ih =>
    rw [List.cons_append, follow, follow]
    cases step s v x with
    | none => rfl
    | some y => exact ih y.1 y.2

theorem follow_concat (p : Path) (s : Segment) (v : Validator) (x : Option Json) :
    follow (p ++ [s]) v x = (follow p v x).bind fun y => step s y.1 y.2 := by
  rw [follow_append]
  cases follow p v x with
  | none => rfl
  | some y =>
    rw [Option.bind_some, Option.bind_some, follow]
    exact Option.bind_fun_some _

theorem membersBelow_eq_some {x : Option Json} {ms : List (String × Json)}
    (h : membersBelow x = some ms) : (x = none ∧ ms = []) ∨ x = some (.obj ms) := by
  match x with
  | none => exact .inl ⟨rfl, (Option.some.inj h).symm⟩
  | some (.obj ns) => exact .inr (by rw [Option.some.inj h])
  | some .null | some (.bool _) | some (.num _) | some (.str _) | some (.arr _) => cases h

theorem itemsBelow_getElem?_eq_some {x : Option Json} {i : Nat} {y : Json}
    (h : (itemsBelow x)[i]? = some y) : ∃ items, x = some (.arr items) ∧ items[i]? = some y := by
  match x with
  | some (.arr items) => exact ⟨items, rfl, h⟩
  | none | some .null | some (.bool _) | some (.num _) | some (.str _) | some (.obj _) =>
    simp [itemsBelow] at h

variable {v w : Validator} {d : Json} {p : Path} {s : Segment} {x y : Option Json}

/-- A step leads from an object to one of its fields, or from a list to one of its items. -/
theorem step_cases (h : step s v x = some (w, y)) :
    (∃ name fields required nullable ms, s = .field name ∧ v = .object fields required nullable ∧
      membersBelow x = some ms ∧ (name, w) ∈ fields ∧ y = ms.lookup name) ∨
    ∃ i required nullable least most items z, s = .index i ∧
      v = .array w required nullable least most ∧ x = some (.arr items) ∧
      items[i]? = some z ∧ y = some z := by
  unfold step at h
  split at h
  · obtain ⟨ms, hms, h⟩ := Option.bind_eq_some_iff.1 h
    obtain ⟨u, hu, h⟩ := Option.map_eq_some_iff.1 h
    cases h
    exact .inl ⟨_, _, _, _, ms, rfl, rfl, hms, KeyMap.mem_of_lookup hu, rfl⟩
  · obtain ⟨z, hz, h⟩ := Option.map_eq_some_iff.1 h
    cases h
    obtain ⟨items, rfl, hi⟩ := itemsBelow_getElem?_eq_some hz
    exact .inr ⟨_, _, _, _, _, items, z, rfl, rfl, rfl, hi, rfl⟩
  · cases h

theorem visits_of_step {u : Validator} (h : Visits v d p w x) (hs : step s w x = some (u, y)) :
    Visits v d (p ++ [s]) u y := by
  rcases step_cases hs with ⟨name, fields, required, nullable, ms, rfl, rfl, hms, hu, rfl⟩ |
    ⟨i, required, nullable, least, most, items, z, rfl, rfl, rfl, hi, rfl⟩
  · rcases membersBelow_eq_some hms with ⟨rfl, rfl⟩ | rfl
    · exact .absent h hu
    · exact .member h hu
  · exact .item h hi

/-- What is followed from a visited path is visited. -/
theorem visits_of_follow {q : Path} {u : Validator} (h : Visits v d p w x)
    (hf : follow q w x = some (u, y)) : Visits v d (p ++ q) u y := by
  induction q generalizing p w x with
  | nil =>
    cases hf
    rwa [List.append_nil]
  | cons s q ih =>
    obtain ⟨z, hz, hf⟩ := Option.bind_eq_some_iff.1 hf
    rw [List.append_cons]
    exact ih (visits_of_step h hz) hf

theorem Sorted.step (hv : v.Sorted) (hs : v.step s x = some (w, y)) : w.Sorted := by
  rcases step_cases hs with ⟨name, fields, required, nullable, ms, rfl, rfl, -, hw, -⟩ |
    ⟨i, required, nullable, least, most, items, z, rfl, rfl, -⟩
  · cases hv with
    | object ascending sorted => exact sorted _ hw
  · cases hv with
    | array sorted => exact sorted

/-- What is followed in a sorted validator is sorted. -/
theorem Sorted.follow (hv : v.Sorted) (hf : v.follow p x = some (w, y)) : w.Sorted := by
  induction p generalizing v x with
  | nil =>
    cases hf
    exact hv
  | cons s p ih =>
    obtain ⟨z, hz, hf⟩ := Option.bind_eq_some_iff.1 hf
    exact ih (hv.step hz) hf

theorem visits_iff (hv : v.Sorted) :
    Visits v d p w x ↔ follow p v (some d) = some (w, x) := by
  constructor
  · intro h
    induction h with
    | root => rfl
    | absent above field ih =>
      cases hv.follow ih with
      | object ascending =>
        rw [Path.child, follow_concat, ih]
        simp [Validator.step, membersBelow, ascending.lookup_eq_some_iff.2 field]
    | member above field ih =>
      cases hv.follow ih with
      | object ascending =>
        rw [Path.child, follow_concat, ih]
        simp [Validator.step, membersBelow, ascending.lookup_eq_some_iff.2 field]
    | item above item ih =>
      rw [Path.index, follow_concat, ih]
      simp [Validator.step, itemsBelow, item]
  · exact fun hf => visits_of_follow .root hf

end Validator

/-! ## Violations within a path -/

namespace Violation

/-- The violations at a path and below. -/
def within (p : Path) (es : List Violation) : List Violation := es.filter fun e => p <+: e.path

@[simp] theorem within_append (p : Path) (es fs : List Violation) :
    within p (es ++ fs) = within p es ++ within p fs := List.filter_append ..

@[simp] theorem within_root (es : List Violation) : within .root es = es := by
  simp [within, Path.root]

/-- What a value has wrong itself is not below a step. -/
theorem within_own (s : Segment) (p : Path) (ps : List Problem) :
    within (s :: p) (ps.map Problem.violation) = [] := by
  simp [within, Path.root]

/-- What is below a step is within the paths that begin with it. -/
theorem within_under (s t : Segment) (p : Path) (es : List Violation) :
    within (s :: p) (es.map (under [t])) =
      if t = s then (within p es).map (under [t]) else [] := by
  by_cases h : t = s
  · subst h
    simp [within, List.filter_map, Function.comp_def, List.cons_prefix_cons]
  · simp [within, h, List.cons_prefix_cons, Ne.symm h]

end Violation

namespace Validator

open Violation

variable {v w : Validator} {d : Json} {p : Path} {x : Option Json}

/-- The reports below a field are those of the field. -/
theorem within_fieldReports {fields : List (String × Validator)} (hs : KeyMap.Sorted fields)
    (ms : List (String × Json)) (name : String) (p : Path) :
    within (.field name :: p) (fieldReports fields ms) =
      (fields.lookup name).elim [] fun w =>
        (within p (w.reports (ms.lookup name))).map (under [.field name]) := by
  induction fields with
  | nil => rfl
  | cons f fields ih =>
    obtain ⟨k, w⟩ := f
    rw [fieldReports, within_append, within_under, ih hs.tail, List.lookup_cons]
    by_cases hk : name = k
    · subst hk
      rw [KeyMap.lookup_of_notMem hs.head_notMem]
      simp
    · have hb : (name == k) = false := by simpa using hk
      simp [hb, Ne.symm hk]

/-- An object reports nothing below an index. -/
theorem within_fieldReports_of_ne {s : Segment} (hs : ∀ name, s ≠ .field name)
    (fields : List (String × Validator)) (ms : List (String × Json)) (p : Path) :
    within (s :: p) (fieldReports fields ms) = [] := by
  induction fields with
  | nil => rfl
  | cons f fields ih =>
    obtain ⟨k, w⟩ := f
    rw [fieldReports, within_append, within_under, ih, if_neg (Ne.symm (hs k))]
    rfl

/-- Items from an index on report nothing below anything else. -/
theorem within_items_of_ne {s : Segment} {k : Nat} (hs : ∀ i, k ≤ i → s ≠ .index i)
    (report : Json → List Violation) (items : List Json) (p : Path) :
    within (s :: p) ((items.zipIdx k).flatMap fun y => (report y.1).map (under [.index y.2])) =
      [] := by
  induction items generalizing k with
  | nil => rfl
  | cons y items ih =>
    rw [List.zipIdx_cons, List.flatMap_cons, within_append, within_under,
      if_neg (Ne.symm (hs k (Nat.le_refl k))), ih fun i hi => hs i (by omega)]
    rfl

theorem within_itemReports_of_ne {s : Segment} (hs : ∀ i, s ≠ .index i)
    (report : Json → List Violation) (items : List Json) (p : Path) :
    within (s :: p) (itemReports report items) = [] :=
  within_items_of_ne (k := 0) (fun i _ => hs i) report items p

/-- The reports below an index are those of the item. -/
theorem within_itemReports (report : Json → List Violation) (items : List Json) (i : Nat)
    (p : Path) :
    within (.index i :: p) (itemReports report items) =
      items[i]?.elim [] fun y => (within p (report y)).map (under [.index i]) := by
  have h : ∀ k, within (.index (k + i) :: p) ((items.zipIdx k).flatMap fun y =>
      (report y.1).map (under [.index y.2])) =
        items[i]?.elim [] fun y => (within p (report y)).map (under [.index (k + i)]) := by
    induction items generalizing i with
    | nil => simp [within]
    | cons y items ih =>
      intro k
      rw [List.zipIdx_cons, List.flatMap_cons, within_append, within_under]
      cases i with
      | zero =>
        rw [within_items_of_ne fun j hj => by simp; omega]
        simp
      | succ i =>
        have hk : k + (i + 1) = k + 1 + i := by omega
        rw [hk, ih i (k + 1), if_neg (by simp; omega)]
        rfl
  have h0 := h 0
  rw [Nat.zero_add] at h0
  exact h0

/-- The reports below a step are those of the part of the validator behind it. -/
theorem within_step (hv : v.Sorted) (s : Segment) (p : Path) (x : Option Json) :
    within (s :: p) (v.reports x) =
      (step s v x).elim [] fun y => (within p (y.1.reports y.2)).map (under [s]) := by
  rw [reports.eq_def, within_append, within_own, List.nil_append]
  cases hv with
  | scalar c => cases s <;> rfl
  | @object fields required nullable ascending =>
    cases hm : membersBelow x with
    | none => cases s <;> simp [step, hm, within]
    | some ms =>
      cases s with
      | field name =>
        simp only [step, hm, within_fieldReports ascending, Option.bind_some]
        cases fields.lookup name <;> rfl
      | index i => exact within_fieldReports_of_ne (fun _ h => by cases h) fields ms p
      | items => exact within_fieldReports_of_ne (fun _ h => by cases h) fields ms p
  | @array element required nullable least most =>
    cases s with
    | index i =>
      simp only [step, within_itemReports]
      cases (itemsBelow x)[i]? <;> rfl
    | field name =>
      exact within_itemReports_of_ne (fun _ h => by cases h)
        (fun y => element.reports (some y)) (itemsBelow x) p
    | items =>
      exact within_itemReports_of_ne (fun _ h => by cases h)
        (fun y => element.reports (some y)) (itemsBelow x) p

/-- **The reports within a path** are those of the part of the validator at its end, below the
path. -/
theorem within_reports (hv : v.Sorted) (p : Path) (x : Option Json) :
    within p (v.reports x) =
      (follow p v x).elim [] fun y => (y.1.reports y.2).map (under p) := by
  induction p generalizing v x with
  | nil =>
    have hu : under [] = id := funext under_root
    exact (within_root _).trans (by simp [follow, hu])
  | cons s p ih =>
    rw [within_step hv, follow]
    cases hs : step s v x with
    | none => rfl
    | some y =>
      rw [Option.elim_some, Option.bind_some, ih (hv.step hs)]
      cases follow p y.1 y.2 with
      | none => rfl
      | some z =>
        show ((z.1.reports z.2).map (under p)).map (under [s]) = _
        rw [List.map_map]
        exact List.map_congr_left fun e _ => (under_append [s] p e).symm

/-! ## Whole documents -/

/-- No visited path goes through any item of a list; each goes through items one by one. -/
theorem items_notMem_of_visits (h : Visits v d p w x) : .items ∉ p := by
  induction h with
  | root => simp [Path.root]
  | absent _ _ ih => simp [Path.child, ih]
  | member _ _ ih => simp [Path.child, ih]
  | item _ _ ih => simp [Path.index, ih]

theorem count_map_under (p : Path) (k : ViolationKind) (m : String) (es : List Violation) :
    (es.map (under p)).count ⟨p, k, m⟩ = es.count ⟨.root, k, m⟩ := by
  rw [List.count_eq_countP, List.countP_map, List.count_eq_countP]
  refine List.countP_congr fun e _ => ?_
  have he : (⟨p, k, m⟩ : Violation) = under p ⟨.root, k, m⟩ := by simp [under, Path.root]
  simp only [Function.comp_apply, beq_iff_eq, he, (under_injective p).eq_iff]

theorem count_within (p q : Path) (k : ViolationKind) (m : String) (es : List Violation)
    (h : p <+: q) : (within p es).count ⟨q, k, m⟩ = es.count ⟨q, k, m⟩ :=
  List.count_filter (by simpa using h)

/-- What is reported within a visited path is what the part visited there reports by itself. -/
theorem within_validate (hv : v.Sorted) (h : Visits v d p w x) :
    within p (v.validate d) = (w.collect x).map (under p) := by
  rw [validate_eq, collect_eq, within_reports hv, (visits_iff hv).1 h]
  rfl

theorem count_validate_of_visits (hv : v.Sorted) (h : Visits v d p w x) (k : ViolationKind)
    (m : String) : (v.validate d).count ⟨p, k, m⟩ = (w.collect x).count ⟨.root, k, m⟩ := by
  rw [← count_within p p k m _ (List.prefix_refl p), within_validate hv h, count_map_under]

theorem count_validate_of_not_visits (hv : v.Sorted) (h : ∀ w x, ¬ Visits v d p w x)
    (k : ViolationKind) (m : String) : (v.validate d).count ⟨p, k, m⟩ = 0 := by
  have hf : follow p v (some d) = none := by
    cases hf : follow p v (some d) with
    | none => rfl
    | some y => exact absurd ((visits_iff hv).2 hf) (h y.1 y.2)
  rw [← count_within p p k m _ (List.prefix_refl p), validate_eq, within_reports hv, hf]
  rfl

/-- The path of a violation is visited. -/
theorem visits_of_mem_validate (hv : v.Sorted) {e : Violation} (he : e ∈ v.validate d) :
    ∃ w x, Visits v d e.path w x := by
  apply Classical.byContradiction
  intro hn
  have hpos : 0 < (v.validate d).count ⟨e.path, e.kind, e.message⟩ := List.count_pos_iff.2 he
  rw [count_validate_of_not_visits hv fun w x h => hn ⟨w, x, h⟩] at hpos
  exact Nat.lt_irrefl 0 hpos

/-- **Reports are exact and local.** Within a visited path a validation reports what the part of the
validator that is visited there reports for the value there by itself, in the same order, and it
reports nothing at any other path. -/
theorem validate_exact (hv : v.Sorted) (d : Json) :
    (∀ p w x, Visits v d p w x → within p (v.validate d) = (w.collect x).map (under p) ∧
      ∀ k m, (v.validate d).count ⟨p, k, m⟩ = (w.collect x).count ⟨.root, k, m⟩) ∧
    (∀ p, (∀ w x, ¬ Visits v d p w x) → ∀ k m, (v.validate d).count ⟨p, k, m⟩ = 0) ∧
    ∀ e ∈ v.validate d, .items ∉ e.path ∧ ∃ w x, Visits v d e.path w x ∧
      ⟨.root, e.kind, e.message⟩ ∈ w.collect x := by
  refine ⟨fun p w x h => ⟨within_validate hv h, count_validate_of_visits hv h⟩,
    fun p h => count_validate_of_not_visits hv h, fun e he => ?_⟩
  obtain ⟨w, x, h⟩ := visits_of_mem_validate hv he
  have hpos : 0 < (v.validate d).count ⟨e.path, e.kind, e.message⟩ := List.count_pos_iff.2 he
  rw [count_validate_of_visits hv h] at hpos
  exact ⟨items_notMem_of_visits h, w, x, h, List.count_pos_iff.1 hpos⟩

/-- An order has a number and tags. -/
def order : Validator :=
  object
    [("id", scalar (Scalar.of .number).require),
      ("tags", array (scalar (Scalar.of .string).require) false false none none)]
    false false

theorem sorted_order : order.Sorted := by
  refine .object (by decide) fun f hf => ?_
  rcases List.mem_cons.1 hf with rfl | hf
  · exact .scalar _
  · cases List.mem_singleton.1 hf
    exact .array (.scalar _)

/-- An order without a number, and with a tag that is null. -/
def badOrder : Json := .obj [("tags", .arr [.str "new", .null])]

theorem validate_exact_order :
    order.Sorted ∧
    (order.validate badOrder).count ⟨[.field "id"], .required, "is a required field"⟩ = 1 ∧
    within [.field "tags", .index 1] (order.validate badOrder) =
      [⟨[.field "tags", .index 1], .required, "is a required field"⟩] ∧
    (order.validate badOrder).count
      ⟨[.field "tags", .items], .required, "is a required field"⟩ = 0 := by
  obtain ⟨hvisited, hunvisited, -⟩ := validate_exact sorted_order badOrder
  have hid : Visits order badOrder [.field "id"] _ none := .member .root List.mem_cons_self
  have htags : Visits order badOrder [.field "tags"] _ (some (.arr [.str "new", .null])) :=
    .member .root (List.mem_cons_of_mem _ List.mem_cons_self)
  have htag : Visits order badOrder [.field "tags", .index 1] _ (some .null) :=
    .item (i := 1) htags rfl
  refine ⟨sorted_order, ?_, ?_, hunvisited _ (fun w x h => ?_) _ _⟩
  · rw [(hvisited _ _ _ hid).2]
    decide
  · rw [(hvisited _ _ _ htag).1]
    decide
  · exact items_notMem_of_visits h (by simp)

end Validator

end Conform
