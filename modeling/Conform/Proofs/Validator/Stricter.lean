import Conform.Proofs.Validator.Reports

/-!
# Stricter validators

`Stricter v w` says that `w` is `v` with more parts required and nothing else changed. The reports
of the two may differ in their kinds, since a null that was of a wrong type can become a missing
value, and the stricter one may report more than once where the other one reports once. But wherever
`v` reports something, so does `w` (`Stricter.reports`).
-/

set_option autoImplicit false

namespace Conform

/-- The same scalar, or one that is required. -/
structure Scalar.Stricter (s t : Scalar) : Prop where
  rest : t = { s with required := t.required }
  required : s.required = true → t.required = true

namespace Validator

mutual

/-- The second validator is the first one with more required parts. -/
inductive Stricter : Validator → Validator → Prop
  | scalar {s t : Scalar} (stricter : s.Stricter t) : Stricter (.scalar s) (.scalar t)
  | object {fields more : List (String × Validator)} {required required' : Bool} (nullable : Bool)
    (flag : required = true → required' = true) (below : FieldsStricter fields more) :
    Stricter (.object fields required nullable) (.object more required' nullable)
  | array {element more : Validator} {required required' : Bool} (nullable : Bool)
    (least most : Option Nat) (flag : required = true → required' = true)
    (below : Stricter element more) :
    Stricter (.array element required nullable least most)
      (.array more required' nullable least most)

/-- The same for fields of the same names. -/
inductive FieldsStricter : List (String × Validator) → List (String × Validator) → Prop
  | nil : FieldsStricter [] []
  | cons {v w : Validator} {fields more : List (String × Validator)} (name : String)
    (head : Stricter v w) (tail : FieldsStricter fields more) :
    FieldsStricter ((name, v) :: fields) ((name, w) :: more)

end

mutual

theorem Stricter.refl (v : Validator) : Stricter v v := by
  match v with
  | .scalar s => exact .scalar ⟨rfl, id⟩
  | .object fields required nullable => exact .object nullable id (FieldsStricter.refl fields)
  | .array element required nullable least most =>
    exact .array nullable least most id (Stricter.refl element)

theorem FieldsStricter.refl (fields : List (String × Validator)) :
    FieldsStricter fields fields := by
  match fields with
  | [] => exact .nil
  | (name, v) :: fields => exact .cons name (Stricter.refl v) (FieldsStricter.refl fields)

end

/-! ## What is wrong with a value itself -/

/-- A flag that is only ever set is not set where the later one is not. -/
theorem eq_false_of_flag {required required' : Bool} (flag : required = true → required' = true)
    (h : required' = false) : required = false := by
  cases required with
  | false => rfl
  | true => exact absurd (flag rfl) (by simp [h])

theorem problems_eq_nil_of_stricter {s t : Scalar} (h : s.Stricter t) {x : Option Json}
    (hx : t.problems x = []) : s.problems x = [] := by
  have hflag := eq_false_of_flag h.required
  have hnullable : t.nullable = s.nullable := by rw [h.rest]
  have hbase : t.base = s.base := by rw [h.rest]
  have hconstraints : t.constraints = s.constraints := by rw [h.rest]
  have hvalue : ∀ v, t.valueProblems v = [] → s.valueProblems v = [] := by
    intro v hv
    rw [Scalar.valueProblems, hbase, hconstraints] at hv
    rw [Scalar.valueProblems]
    cases hc : s.base.cast? v with
    | none => simp [hc] at hv
    | some c =>
      simp only [hc, List.append_eq_nil_iff] at hv ⊢
      refine ⟨?_, hv.2⟩
      cases ht : t.required with
      | false => simp [hflag ht]
      | true =>
        have hempty : c.isEmptyText = false := by simpa [ht] using hv.1
        simp [hempty]
  match x with
  | none =>
    have ht : t.required = false := by simpa [Scalar.problems] using hx
    simp [Scalar.problems, hflag ht]
  | some .null =>
    have ht : t.required = false ∧ t.nullable = true := by
      cases hr : t.required <;> cases hn : t.nullable <;> simp_all [Scalar.problems]
    simp [Scalar.problems, hflag ht.1, ← hnullable, ht.2]
  | some (.bool _) | some (.num _) | some (.str _) | some (.arr _) | some (.obj _) =>
    exact hvalue _ hx

theorem containerProblems_eq_nil {name : String} {required required' nullable : Bool}
    {fits : Json → Bool} {x : Option Json} (flag : required = true → required' = true)
    (hx : containerProblems name required' nullable fits x = []) :
    containerProblems name required nullable fits x = [] := by
  have hflag := eq_false_of_flag flag
  match x with
  | none =>
    have ht : required' = false := by simpa [containerProblems] using hx
    simp [containerProblems, hflag ht]
  | some .null =>
    have ht : required' = false ∧ nullable = true := by
      cases required' <;> cases nullable <;> simp_all [containerProblems]
    simp [containerProblems, hflag ht.1, ht.2]
  | some (.bool _) | some (.num _) | some (.str _) | some (.arr _) | some (.obj _) => exact hx

/-- Where a validator finds something wrong with a value itself, a stricter one does. -/
theorem Stricter.ownProblems_ne_nil {v w : Validator} (h : Stricter v w) {x : Option Json}
    (hx : v.ownProblems x ≠ []) : w.ownProblems x ≠ [] := by
  intro hw
  apply hx
  cases h with
  | scalar stricter => exact problems_eq_nil_of_stricter stricter hw
  | object nullable flag below => exact containerProblems_eq_nil flag hw
  | array nullable least most flag below =>
    obtain ⟨hcontainer, hcount⟩ := List.append_eq_nil_iff.1 hw
    exact List.append_eq_nil_iff.2 ⟨containerProblems_eq_nil flag hcontainer, hcount⟩

/-! ## Reports -/

open Violation

/-- Each path that carries one of the violations carries one of the others. -/
def Covers (es fs : List Violation) : Prop := ∀ e ∈ es, ∃ f ∈ fs, f.path = e.path

namespace Covers

variable {es fs es' fs' : List Violation}

theorem nil (fs : List Violation) : Covers [] fs := fun _ h => nomatch h

theorem append (h : Covers es fs) (h' : Covers es' fs') : Covers (es ++ es') (fs ++ fs') := by
  intro e he
  rcases List.mem_append.1 he with he | he
  · obtain ⟨f, hf, hp⟩ := h e he
    exact ⟨f, List.mem_append_left _ hf, hp⟩
  · obtain ⟨f, hf, hp⟩ := h' e he
    exact ⟨f, List.mem_append_right _ hf, hp⟩

theorem map_under (h : Covers es fs) (path : Path) :
    Covers (es.map (under path)) (fs.map (under path)) := by
  intro e he
  obtain ⟨d, hd, rfl⟩ := List.mem_map.1 he
  obtain ⟨f, hf, hp⟩ := h d hd
  exact ⟨under path f, List.mem_map_of_mem hf, by rw [path_under, path_under, hp]⟩

/-- Problems of a value are all at the root. -/
theorem own {ps qs : List Problem} (h : ps ≠ [] → qs ≠ []) :
    Covers (ps.map Problem.violation) (qs.map Problem.violation) := by
  intro e he
  obtain ⟨p, hp, rfl⟩ := List.mem_map.1 he
  obtain ⟨q, hq⟩ := List.exists_mem_of_ne_nil _ (h (List.ne_nil_of_mem hp))
  exact ⟨q.violation, List.mem_map_of_mem hq, rfl⟩

theorem items {report other : Json → List Violation} (h : ∀ y, Covers (report y) (other y))
    (items : List Json) : Covers (itemReports report items) (itemReports other items) := by
  intro e he
  obtain ⟨y, hy, he⟩ := List.mem_flatMap.1 he
  obtain ⟨f, hf, hp⟩ := (h y.1).map_under [.index y.2] e he
  exact ⟨f, List.mem_flatMap.2 ⟨y, hy, hf⟩, hp⟩

end Covers

mutual

/-- **Where a validator reports something, a stricter one does.** -/
theorem Stricter.reports (v w : Validator) (h : Stricter v w) (x : Option Json) :
    Covers (v.reports x) (w.reports x) := by
  have hown := Covers.own (Stricter.ownProblems_ne_nil h (x := x))
  rw [Validator.reports.eq_def, Validator.reports.eq_def]
  match v, h with
  | .scalar _, .scalar _ => exact hown.append (.nil _)
  | .object fields _ _, .object nullable _ below =>
    refine hown.append ?_
    cases membersBelow x with
    | none => exact .nil _
    | some ms => exact FieldsStricter.reports fields _ below ms
  | .array element _ _ _ _, .array _ _ _ _ below =>
    exact hown.append (.items (fun y => Stricter.reports element _ below (some y)) _)

theorem FieldsStricter.reports (fields more : List (String × Validator))
    (h : FieldsStricter fields more) (ms : List (String × Json)) :
    Covers (fieldReports fields ms) (fieldReports more ms) := by
  match fields, h with
  | [], .nil => rw [fieldReports]; exact .nil _
  | (_, v) :: fields, .cons name head tail =>
    rw [fieldReports, fieldReports]
    exact ((Stricter.reports v _ head _).map_under _).append
      (FieldsStricter.reports fields _ tail ms)

end

end Validator

end Conform
