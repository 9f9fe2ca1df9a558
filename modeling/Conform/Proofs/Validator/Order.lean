import Conform.Proofs.PathOrder
import Conform.Proofs.Validator.Visits

/-!
# The order of a report

A validation reports the violations of a value first and then those below it, field by field and
item by item; fields are ascending by their names, items by their indices. So the paths of a report
never go back in the order of paths (`Violation.Ordered`): the violations at one path are together
(`Ordered.eq_split`), and those of a value stand before all that is reported inside it.

* `ordered_fieldReports`, `ordered_itemReports`: the reports below a value.
* `validate_ordered`: the order of a report.
-/

set_option autoImplicit false

namespace Conform

namespace Violation

/-- The paths of the violations never go back. -/
def Ordered (es : List Violation) : Prop :=
  es.Pairwise fun e f => e.path = f.path ∨ e.path.lt f.path = true

variable {es fs : List Violation}

theorem Ordered.under (h : Ordered es) (s : Segment) : Ordered (es.map (under [s])) := by
  refine List.pairwise_map.2 (List.Pairwise.imp (fun hle => ?_) h)
  rcases hle with he | hlt
  · exact .inl (by rw [path_under, path_under, he])
  · exact .inr (Path.lt_cons_iff.2 (.inr ⟨rfl, hlt⟩))

/-- Reports behind a step come before reports behind a later one. -/
theorem Ordered.append {s : Segment} (he : Ordered es) (hf : Ordered fs)
    (hes : ∀ e ∈ es, ∃ p, e.path = s :: p)
    (hfs : ∀ f ∈ fs, ∃ t p, s.lt t = true ∧ f.path = t :: p) : Ordered (es ++ fs) := by
  refine List.pairwise_append.2 ⟨he, hf, fun e hm f hm' => ?_⟩
  obtain ⟨p, hp⟩ := hes e hm
  obtain ⟨t, q, hlt, hq⟩ := hfs f hm'
  rw [hp, hq]
  exact .inr (Path.lt_cons_iff.2 (.inl hlt))

/-- What a value has wrong itself comes before all that is below a step. -/
theorem Ordered.own_append (hf : Ordered fs) (ps : List Problem)
    (hfs : ∀ f ∈ fs, ∃ t p, f.path = t :: p) : Ordered (ps.map Problem.violation ++ fs) := by
  have hown : Ordered (ps.map Problem.violation) := by
    refine List.pairwise_map.2 (List.pairwise_of_forall fun p q => ?_)
    exact .inl rfl
  refine List.pairwise_append.2 ⟨hown, hf, fun e hm f hm' => ?_⟩
  obtain ⟨p, -, rfl⟩ := List.mem_map.1 hm
  obtain ⟨t, q, hq⟩ := hfs f hm'
  rw [hq]
  exact .inr rfl

theorem filter_lt_eq_nil {p : Path} (h : ∀ e ∈ es, p = e.path ∨ p.lt e.path = true) :
    es.filter (·.path.lt p) = [] := by
  refine List.filter_eq_nil_iff.2 fun e he hlt => ?_
  rcases h e he with hp | hp
  · rw [← hp] at hlt
    exact Path.lt_irrefl _ hlt
  · exact Path.lt_irrefl _ (Path.lt_trans hp hlt)

/-- What comes before a path, what is at it and what comes after it. -/
theorem Ordered.eq_split (h : Ordered es) (p : Path) :
    es = es.filter (·.path.lt p) ++ es.filter (·.path = p) ++ es.filter (fun e => p.lt e.path) := by
  induction es with
  | nil => rfl
  | cons e es ih =>
    obtain ⟨hle, hes⟩ := List.pairwise_cons.1 h
    have hrest := ih hes
    by_cases he : e.path = p
    · subst he
      -- nothing behind the first violation at the path is before it
      have hbefore : es.filter (·.path.lt e.path) = [] := filter_lt_eq_nil hle
      rw [hbefore, List.nil_append] at hrest
      simp only [List.filter_cons, Path.lt_irrefl, hbefore, decide_true, if_true, if_false,
        List.nil_append, List.cons_append, Bool.false_eq_true]
      rw [← hrest]
    by_cases hlt : e.path.lt p = true
    · have hgt : ¬ p.lt e.path = true := fun hgt => Path.lt_irrefl _ (Path.lt_trans hlt hgt)
      simp only [List.filter_cons, hlt, hgt, he, decide_false, if_true, if_false,
        List.cons_append, Bool.false_eq_true]
      rw [← hrest]
    · -- nothing behind a violation after the path is at it or before it
      have hgt := Path.lt_of_not_lt he hlt
      have hafter : ∀ f ∈ e :: es, p.lt f.path = true := by
        refine List.forall_mem_cons.2 ⟨hgt, fun f hf => ?_⟩
        rcases hle f hf with hfe | hfe
        · rwa [← hfe]
        · exact Path.lt_trans hgt hfe
      have hat : (e :: es).filter (·.path = p) = [] := by
        refine List.filter_eq_nil_iff.2 fun f hf hp => ?_
        have hpf := hafter f hf
        rw [of_decide_eq_true hp] at hpf
        exact Path.lt_irrefl _ hpf
      rw [filter_lt_eq_nil fun f hf => .inr (hafter f hf), hat, List.filter_eq_self.2 hafter]
      rfl

end Violation

namespace Validator

open Violation

/-! ## Reports below a value -/

theorem path_of_mem_fieldReports {fields : List (String × Validator)} {ms : List (String × Json)}
    {e : Violation} (he : e ∈ fieldReports fields ms) :
    ∃ name ∈ KeyMap.keys fields, ∃ p, e.path = .field name :: p := by
  induction fields with
  | nil =>
    rw [fieldReports] at he
    cases he
  | cons f fields ih =>
    obtain ⟨name, w⟩ := f
    rw [fieldReports] at he
    rcases List.mem_append.1 he with he | he
    · obtain ⟨g, -, rfl⟩ := List.mem_map.1 he
      exact ⟨name, List.mem_cons_self, g.path, rfl⟩
    · obtain ⟨k, hk, hp⟩ := ih he
      exact ⟨k, List.mem_cons_of_mem _ hk, hp⟩

theorem ordered_fieldReports {fields : List (String × Validator)} (hs : KeyMap.Sorted fields)
    (hf : ∀ f ∈ fields, ∀ x, Ordered (f.2.reports x)) (ms : List (String × Json)) :
    Ordered (fieldReports fields ms) := by
  induction fields with
  | nil =>
    rw [fieldReports]
    exact List.Pairwise.nil
  | cons f fields ih =>
    obtain ⟨name, w⟩ := f
    rw [fieldReports]
    refine ((hf (name, w) List.mem_cons_self _).under (.field name)).append (s := .field name)
      (ih hs.tail fun g hg => hf g (List.mem_cons_of_mem _ hg)) (fun e he => ?_) fun e he => ?_
    · obtain ⟨g, -, rfl⟩ := List.mem_map.1 he
      exact ⟨g.path, rfl⟩
    · obtain ⟨k, hk, p, hp⟩ := path_of_mem_fieldReports he
      obtain ⟨u, hu⟩ := KeyMap.mem_keys.1 hk
      have hlt : name < k := (List.pairwise_cons.1 hs).1 (k, u) hu
      exact ⟨.field k, p, decide_eq_true hlt, hp⟩

theorem path_of_mem_items (report : Json → List Violation) (items : List Json) (i : Nat)
    {e : Violation}
    (he : e ∈ (items.zipIdx i).flatMap fun y => (report y.1).map (under [.index y.2])) :
    ∃ j ≥ i, ∃ p, e.path = .index j :: p := by
  obtain ⟨⟨y, j⟩, hy, he⟩ := List.mem_flatMap.1 he
  obtain ⟨g, -, rfl⟩ := List.mem_map.1 he
  exact ⟨j, List.le_snd_of_mem_zipIdx hy, g.path, rfl⟩

theorem ordered_itemReports {report : Json → List Violation} (h : ∀ y, Ordered (report y))
    (items : List Json) : Ordered (itemReports report items) := by
  have hfrom : ∀ i, Ordered ((items.zipIdx i).flatMap fun y =>
      (report y.1).map (under [.index y.2])) := by
    induction items with
    | nil => exact fun _ => List.Pairwise.nil
    | cons y items ih =>
      intro i
      rw [List.zipIdx_cons, List.flatMap_cons]
      refine ((h y).under (.index i)).append (s := .index i) (ih (i + 1)) (fun e he => ?_)
        fun e he => ?_
      · obtain ⟨g, -, rfl⟩ := List.mem_map.1 he
        exact ⟨g.path, rfl⟩
      · obtain ⟨j, hj, p, hp⟩ := path_of_mem_items report items (i + 1) he
        exact ⟨.index j, p, decide_eq_true (by omega), hp⟩
  exact hfrom 0

/-! ## Whole reports -/

variable {v : Validator}

theorem ordered_reports (hv : v.Sorted) (x : Option Json) : Ordered (v.reports x) := by
  induction hv generalizing x with
  | scalar s =>
    rw [reports.eq_def]
    exact Ordered.own_append List.Pairwise.nil _ (by simp)
  | @object fields required nullable ascending sorted ih =>
    rw [reports.eq_def]
    cases hm : membersBelow x with
    | none => exact Ordered.own_append List.Pairwise.nil _ (by simp)
    | some ms =>
      refine Ordered.own_append (ordered_fieldReports ascending ih ms) _ fun f hf => ?_
      obtain ⟨name, -, p, hp⟩ := path_of_mem_fieldReports hf
      exact ⟨_, p, hp⟩
  | @array element required nullable least most sorted ih =>
    rw [reports.eq_def]
    refine Ordered.own_append (ordered_itemReports (fun y => ih (some y)) _) _ fun f hf => ?_
    obtain ⟨j, -, p, hp⟩ := path_of_mem_items (fun y => element.reports (some y)) _ 0 hf
    exact ⟨_, p, hp⟩

/-- **Reports are in the order of their paths.** The paths of a report never go back. So what is
reported at one path is together, between what comes before it and what comes after it, and what is
wrong with a value itself stands before everything that is reported inside it. -/
theorem validate_ordered (hv : v.Sorted) (d : Json) :
    (v.validate d).Pairwise (fun e f => e.path = f.path ∨ e.path.Before f.path) ∧
    (∀ p, ∃ before after,
      v.validate d = before ++ (v.validate d).filter (·.path = p) ++ after ∧
      (∀ e ∈ before, e.path.Before p) ∧ ∀ e ∈ after, p.Before e.path) ∧
    (v.validate d).Pairwise fun e f => f.path <+: e.path → f.path = e.path := by
  have hordered : Ordered (v.validate d) := by
    rw [validate_eq]
    exact ordered_reports hv (some d)
  refine ⟨hordered.imp fun hle => hle.imp_right Path.before_iff_lt.2, fun p => ?_,
    hordered.imp fun {e f} hle hprefix => ?_⟩
  · refine ⟨_, _, hordered.eq_split p, fun e he => ?_, fun e he => ?_⟩
    · exact Path.before_iff_lt.2 (List.mem_filter.1 he).2
    · exact Path.before_iff_lt.2 (List.mem_filter.1 he).2
  · rcases hle with he | hlt
    · exact he.symm
    · -- a path inside another one does not come before it
      apply Classical.byContradiction
      intro hne
      exact Path.lt_irrefl _ (Path.lt_trans hlt (Path.lt_of_prefix hprefix hne))

/-- An order that has three tags or more. -/
def tagged : Validator :=
  object
    [("id", scalar (Scalar.of .number).require),
      ("tags", array (scalar (Scalar.of .string).require) false false (some 3) none)]
    false false

theorem sorted_tagged : tagged.Sorted := by
  refine .object (by decide) fun f hf => ?_
  rcases List.mem_cons.1 hf with rfl | hf
  · exact .scalar _
  · cases List.mem_singleton.1 hf
    exact .array (.scalar _)

/-- Too few tags are reported before the tag that is null. -/
theorem validate_ordered_tagged :
    tagged.Sorted ∧
    (tagged.validate badOrder).map (·.path) =
      [[.field "id"], [.field "tags"], [.field "tags", .index 1]] ∧
    [[.field "id"], [.field "tags"], [.field "tags", .index 1]].Pairwise
      (fun p q : Path => p = q ∨ p.Before q) ∧
    ∃ before after, tagged.validate badOrder =
      before ++ [⟨[.field "tags"], .min, "must have at least 3 items"⟩] ++ after := by
  obtain ⟨hordered, hsplit, -⟩ := validate_ordered sorted_tagged badOrder
  have hpaths : (tagged.validate badOrder).map (·.path) =
      [[.field "id"], [.field "tags"], [.field "tags", .index 1]] := by decide
  have htags : (tagged.validate badOrder).filter (·.path = [.field "tags"]) =
      [⟨[.field "tags"], .min, "must have at least 3 items"⟩] := by decide
  obtain ⟨before, after, heq, -⟩ := hsplit [.field "tags"]
  rw [htags] at heq
  refine ⟨sorted_tagged, hpaths, ?_, before, after, heq⟩
  rw [← hpaths]
  exact List.pairwise_map.2 hordered

end Validator

end Conform
