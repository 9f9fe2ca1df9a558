import Conform.Validator.Check

/-!
# What a check reports

`Validator.reports` lists the violations of a value, or of an absent one, by a recursion on the
validator: first those of the value itself, then those of its fields or items, each below its step.
A check adds these to its collector below the path where it is made, whatever has been found before
(`check_eq`). So the threading of path and collector can be left out of everything that is said
about reports.

* `collect_eq`: without an early end, the violations of a value are its reports.
* `check_early`: a check that ends early keeps step with one that goes on.
* `validateWith_abortEarly`: what ends early finds the first violation.
-/

set_option autoImplicit false

namespace Conform

namespace Violation

/-- The violation with its path continued from another one. -/
def under (path : Path) (e : Violation) : Violation := { e with path := path ++ e.path }

@[simp] theorem under_root (e : Violation) : under .root e = e := rfl

@[simp] theorem path_under (path : Path) (e : Violation) : (under path e).path = path ++ e.path :=
  rfl

theorem under_append (p q : Path) (e : Violation) : under (p ++ q) e = under p (under q e) := by
  simp [under]

theorem under_injective (path : Path) : Function.Injective (under path) := by
  rintro ⟨p, k, m⟩ ⟨q, l, n⟩ h
  simpa [under] using h

end Violation

/-- A problem of the value at the root. -/
def Problem.violation (p : Problem) : Violation := ⟨.root, p.kind, p.message⟩

@[simp] theorem Problem.path_violation (p : Problem) : p.violation.path = .root := rfl

/-! ## Collecting -/

namespace Collector

/-- Reports violations in their order. -/
def addAll (c : Collector) (es : List Violation) : Collector :=
  es.foldl (fun c e => c.push e.path e.kind e.message) c

@[simp] theorem addAll_nil (c : Collector) : c.addAll [] = c := rfl

@[simp] theorem addAll_append (c : Collector) (es fs : List Violation) :
    c.addAll (es ++ fs) = (c.addAll es).addAll fs := List.foldl_append

theorem addAll_of_isDone {c : Collector} (h : c.isDone = true) (es : List Violation) :
    c.addAll es = c := by
  induction es with
  | nil => rfl
  | cons e es ih =>
    have hc : c.addAll (e :: es) = (c.push e.path e.kind e.message).addAll es := rfl
    rw [hc, push_of_isDone h, ih]

theorem pushAll_eq (c : Collector) (path : Path) (ps : List Problem) :
    c.pushAll path ps = c.addAll ((ps.map Problem.violation).map (Violation.under path)) := by
  induction ps generalizing c with
  | nil => rfl
  | cons p ps ih =>
    have hp : c.pushAll path (p :: ps) = (c.push path p.kind p.message).pushAll path ps := rfl
    rw [hp, ih, List.map_cons, List.map_cons]
    simp [addAll, Problem.violation, Violation.under, Path.root]

/-- A collector that goes on keeps everything. -/
theorem found_addAll (es : List Violation) :
    ((start false).addAll es).found.toList = es := by
  have h : ∀ found : Array Violation,
      ((⟨false, found⟩ : Collector).addAll es).found.toList = found.toList ++ es := by
    induction es with
    | nil => simp
    | cons e es ih =>
      intro found
      have hc : (⟨false, found⟩ : Collector).addAll (e :: es) =
          (⟨false, found.push e⟩ : Collector).addAll es := rfl
      rw [hc, ih]
      simp
  exact h #[]

/-- The collector that has kept the first violation and looks for no other one. -/
def early (c : Collector) : Collector := ⟨true, c.found.take 1⟩

/-- The first report is kept by both collectors, and a later one makes no difference to the early
one, which is done by then. -/
theorem early_push {c : Collector} (h : c.abortEarly = false) (p : Path) (k : ViolationKind)
    (m : String) : (c.push p k m).early = c.early.push p k m := by
  have hgoes : c.isDone = false := by rw [isDone, h, Bool.false_and]
  rw [push_of_not_isDone hgoes]
  obtain ⟨abort, ⟨found⟩⟩ := c
  cases found with
  | nil => rfl
  | cons e es =>
    have hdone : (early ⟨abort, ⟨e :: es⟩⟩).isDone = true := by simp [early, isDone]
    rw [push_of_isDone hdone]
    simp [early]

theorem early_addAll {c : Collector} (h : c.abortEarly = false) (es : List Violation) :
    (c.addAll es).early = c.early.addAll es := by
  induction es generalizing c with
  | nil => rfl
  | cons e es ih =>
    have hpush : (c.push e.path e.kind e.message).abortEarly = false := by
      rw [push]
      split <;> exact h
    exact (ih hpush).trans (congrArg (·.addAll es) (early_push h _ _ _))

end Collector

/-! ## Reports -/

namespace Validator

/-- The reports of the items of a list, each below its index. -/
def itemReports (report : Json → List Violation) (items : List Json) : List Violation :=
  items.zipIdx.flatMap fun y => (report y.1).map (Violation.under [.index y.2])

mutual

/-- The violations of a value, or of an absent one: its own first, then those below. -/
def reports (v : Validator) (x : Option Json) : List Violation :=
  (v.ownProblems x).map Problem.violation ++
    match v with
    | scalar _ => []
    | object fields _ _ =>
      match membersBelow x with
      | some ms => fieldReports fields ms
      | none => []
    | array element _ _ _ _ => itemReports (fun y => reports element (some y)) (itemsBelow x)

/-- The reports of the fields of an object, each below its name. -/
def fieldReports (fields : List (String × Validator)) (ms : List (String × Json)) :
    List Violation :=
  match fields with
  | [] => []
  | (name, v) :: rest =>
    (reports v (ms.lookup name)).map (Violation.under [.field name]) ++ fieldReports rest ms

end

/-- Items are checked by adding their reports if each of them is. -/
theorem checkItems_eq {check : Json → Path → Collector → Collector}
    {report : Json → List Violation}
    (h : ∀ y path c, check y path c = c.addAll ((report y).map (Violation.under path)))
    (path : Path) (i : Nat) (items : List Json) (c : Collector) :
    checkItems check path i items c = c.addAll (((items.zipIdx i).flatMap fun y =>
      (report y.1).map (Violation.under [.index y.2])).map (Violation.under path)) := by
  induction items generalizing i c with
  | nil => rfl
  | cons y items ih =>
    have hi : path.index i = path ++ [.index i] := rfl
    rw [checkItems, ih, h, hi, List.zipIdx_cons, List.flatMap_cons, List.map_append,
      Collector.addAll_append, List.map_map]
    congr 3
    exact funext fun e => Violation.under_append _ _ e

mutual

/-- **A check adds the reports of the value, below its path.** -/
theorem check_eq (v : Validator) (x : Option Json) (path : Path) (c : Collector) :
    v.check x path c = c.addAll ((v.reports x).map (Violation.under path)) := by
  rw [check.eq_def]
  by_cases hd : c.isDone = true
  · rw [if_pos hd, Collector.addAll_of_isDone hd]
  · rw [if_neg hd, reports.eq_def, List.map_append, Collector.addAll_append, ← Collector.pushAll_eq]
    match v with
    | scalar s => rfl
    | object fields required nullable =>
      cases membersBelow x with
      | none => rfl
      | some ms => exact checkFields_eq fields ms path _
    | array element required nullable least most =>
      exact checkItems_eq (fun y => check_eq element (some y)) path 0 _ _

theorem checkFields_eq (fields : List (String × Validator)) (ms : List (String × Json))
    (path : Path) (c : Collector) :
    checkFields fields ms path c =
      c.addAll ((fieldReports fields ms).map (Violation.under path)) := by
  match fields with
  | [] => rw [checkFields, fieldReports]; rfl
  | (name, v) :: rest =>
    rw [checkFields, fieldReports, checkFields_eq rest, check_eq v, List.map_append,
      Collector.addAll_append, List.map_map]
    congr 3
    exact funext fun e => Violation.under_append _ _ e

end

/-- All violations of a value, or of an absent one, when nothing else is checked. -/
def collect (v : Validator) (x : Option Json) : List Violation :=
  (v.check x .root (.start false)).found.toList

theorem collect_eq (v : Validator) (x : Option Json) : v.collect x = v.reports x := by
  have hu : Violation.under .root = id := funext Violation.under_root
  rw [collect, check_eq, hu, List.map_id, Collector.found_addAll]

theorem validate_eq (v : Validator) (d : Json) : v.validate d = v.reports (some d) :=
  collect_eq v (some d)

/-! ## Ending early -/

theorem check_early (v : Validator) (x : Option Json) (path : Path) {c : Collector}
    (h : c.abortEarly = false) : v.check x path c.early = (v.check x path c).early := by
  rw [check_eq, check_eq, Collector.early_addAll h]

theorem validateFirst_eq (v : Validator) (d : Json) :
    v.validateFirst d = (v.validate d).take 1 := by
  have hstart : Collector.start true = (Collector.start false).early := rfl
  rw [validateFirst, validate, validateWith, validateWith, hstart, check_early v _ _ rfl]
  simp [Collector.early]

theorem isValid_iff (v : Validator) (d : Json) : v.isValid d = true ↔ v.validate d = [] := by
  rw [isValid, validateFirst_eq, List.isEmpty_iff]
  cases v.validate d <;> simp

/-- **A validation that ends early agrees with a full one**: it finds the first violation of the
full list and no other, or none if there is none, and it decides whether the document is valid. -/
theorem validateWith_abortEarly (v : Validator) (d : Json) :
    v.validateWith true d = (v.validateWith false d).head?.toList ∧
    (v.validateWith true d = [] ↔ v.validateWith false d = []) ∧
    (v.isValid d = true ↔ v.validateWith false d = []) := by
  have hfirst : v.validateWith true d = (v.validateWith false d).head?.toList := by
    rw [← List.take_one]
    exact validateFirst_eq v d
  refine ⟨hfirst, ?_, isValid_iff v d⟩
  rw [hfirst]
  cases v.validateWith false d <;> simp

end Validator

end Conform
