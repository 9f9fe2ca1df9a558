import Conform.Proofs.Path
import Conform.Proofs.Validator.Visits

/-!
# What a validator demands

`Validator.demands` lists the paths of the required parts of a validator, in ascending order
(`ascending_demands`). The items of a list are behind a step of their own. An absent value lacks all
of these parts but those behind items, and it is reported for nothing else (`reports_none`); the
same is true of an empty object, the root apart (`reports_emptyObject`).
-/

set_option autoImplicit false

namespace Conform

/-- A required value that is missing at a path. -/
def Violation.missing (path : Path) : Violation := ⟨path, .required, "is a required field"⟩

namespace Path

/-- The path goes through the items of no list. -/
def isPlain (path : Path) : Bool := !path.contains .items

theorem isPlain_iff {path : Path} : path.isPlain = true ↔ .items ∉ path := by
  simp [isPlain]

@[simp] theorem isPlain_child {path : Path} {name : String} :
    (path.child name).isPlain = path.isPlain := by
  simp [isPlain, child]

theorem filter_isPlain_map_field (name : String) (ps : List Path) :
    (ps.map (.field name :: ·)).filter isPlain = (ps.filter isPlain).map (.field name :: ·) := by
  rw [List.filter_map]
  congr 1

theorem filter_isPlain_map_items (ps : List Path) :
    (ps.map (.items :: ·)).filter isPlain = [] := by
  simp [isPlain]

end Path

namespace Validator

open Violation

mutual

/-- The paths of the required parts: the validator itself, and those below it. -/
def demands : Validator → List Path
  | scalar s => if s.required then [Path.root] else []
  | object fields required _ => (if required then [Path.root] else []) ++ fieldDemands fields
  | array element required _ _ _ =>
    (if required then [Path.root] else []) ++ (demands element).map (.items :: ·)

/-- The paths of the required parts of fields, each below its name. -/
def fieldDemands : List (String × Validator) → List Path
  | [] => []
  | (name, v) :: rest => (demands v).map (.field name :: ·) ++ fieldDemands rest

end

/-- The paths of the required parts below the validator itself. -/
def demandsBelow : Validator → List Path
  | scalar _ => []
  | object fields _ _ => fieldDemands fields
  | array element _ _ _ _ => (demands element).map (.items :: ·)

theorem demands_eq (v : Validator) :
    v.demands = (if v.isRequired then [Path.root] else []) ++ v.demandsBelow := by
  cases v with
  | scalar s => rw [demands, demandsBelow, List.append_nil, isRequired]
  | object fields required nullable => rw [demands, demandsBelow, isRequired]
  | array element required nullable least most => rw [demands, demandsBelow, isRequired]

theorem mem_fieldDemands {fields : List (String × Validator)} {p : Path} :
    p ∈ fieldDemands fields ↔ ∃ name v, (name, v) ∈ fields ∧ ∃ r ∈ v.demands,
      p = .field name :: r := by
  induction fields with
  | nil => simp [fieldDemands]
  | cons f fields ih =>
    obtain ⟨name, v⟩ := f
    rw [fieldDemands, List.mem_append, ih, List.mem_map]
    constructor
    · rintro (⟨r, hr, rfl⟩ | ⟨k, w, hw, h⟩)
      · exact ⟨name, v, List.mem_cons_self, r, hr, rfl⟩
      · exact ⟨k, w, List.mem_cons_of_mem _ hw, h⟩
    · rintro ⟨k, w, hw, r, hr, rfl⟩
      rcases List.mem_cons.1 hw with hw | hw
      · cases hw
        exact .inl ⟨r, hr, rfl⟩
      · exact .inr ⟨k, w, hw, r, hr, rfl⟩

/-! ## Demands below a path -/

theorem mem_map_demands (path t : Path) (v : Validator) :
    t ∈ v.demands.map (path ++ ·) ↔
      (v.isRequired = true ∧ t = path) ∨ t ∈ v.demandsBelow.map (path ++ ·) := by
  rw [demands_eq, List.map_append, List.mem_append]
  cases v.isRequired <;> simp [Path.root]

theorem mem_map_fieldDemands_cons (path t : Path) (name : String) (v : Validator)
    (rest : List (String × Validator)) :
    t ∈ (fieldDemands ((name, v) :: rest)).map (path ++ ·) ↔
      t ∈ v.demands.map (path.child name ++ ·) ∨ t ∈ (fieldDemands rest).map (path ++ ·) := by
  rw [fieldDemands, List.map_append, List.mem_append, List.map_map]
  simp [Path.child]

theorem map_demandsBelow_array (path : Path) (element : Validator) (required nullable : Bool)
    (least most : Option Nat) :
    (Validator.array element required nullable least most).demandsBelow.map (path ++ ·) =
      element.demands.map (path.items ++ ·) := by
  simp [demandsBelow, Path.items]

/-! ## Absent values -/

theorem ownProblems_none (v : Validator) :
    v.ownProblems none = if v.isRequired then [.missing] else [] := by
  cases v with
  | scalar s => rfl
  | object fields required nullable => rfl
  | array element required nullable least most => exact List.append_nil _

mutual

/-- **An absent value** lacks what is demanded outside of lists. -/
theorem reports_none (v : Validator) :
    v.reports none = (v.demands.filter Path.isPlain).map missing := by
  have hown : ((if v.isRequired then [.missing] else []).map Problem.violation) =
      ((if v.isRequired then [Path.root] else []).filter Path.isPlain).map missing := by
    cases v.isRequired <;> rfl
  rw [reports.eq_def, ownProblems_none, hown, demands_eq, List.filter_append, List.map_append]
  match v with
  | scalar s => rfl
  | object fields required nullable => exact congrArg _ (fieldReports_nil fields)
  | array element required nullable least most =>
    rw [demandsBelow, Path.filter_isPlain_map_items]
    rfl

theorem fieldReports_nil (fields : List (String × Validator)) :
    fieldReports fields [] = ((fieldDemands fields).filter Path.isPlain).map missing := by
  match fields with
  | [] => rw [fieldReports, fieldDemands]; rfl
  | (name, v) :: rest =>
    rw [fieldReports, fieldDemands, List.filter_append, List.map_append, fieldReports_nil rest,
      List.lookup_nil, reports_none v, Path.filter_isPlain_map_field, List.map_map, List.map_map]
    rfl

end

/-- An empty object lacks what is demanded of its fields. -/
theorem reports_emptyObject (fields : List (String × Validator)) (required nullable : Bool) :
    (object fields required nullable).reports (some (.obj [])) =
      ((fieldDemands fields).filter Path.isPlain).map missing := by
  rw [reports.eq_def]
  exact fieldReports_nil fields

/-! ## The order of demands -/

theorem ascending_fieldDemands {fields : List (String × Validator)} (hs : KeyMap.Sorted fields)
    (hf : ∀ f ∈ fields, Path.Ascending f.2.demands) : Path.Ascending (fieldDemands fields) := by
  induction fields with
  | nil => rw [fieldDemands]; exact List.Pairwise.nil
  | cons f fields ih =>
    obtain ⟨name, v⟩ := f
    rw [fieldDemands]
    refine List.pairwise_append.2 ⟨(hf (name, v) List.mem_cons_self).map_cons _,
      ih hs.tail fun g hg => hf g (List.mem_cons_of_mem _ hg), fun p hp q hq => ?_⟩
    obtain ⟨r, -, rfl⟩ := List.mem_map.1 hp
    obtain ⟨k, w, hk, t, -, rfl⟩ := mem_fieldDemands.1 hq
    have hlt : name < k := (List.pairwise_cons.1 hs).1 (k, w) hk
    exact Path.lt_cons_iff.2 (.inl (decide_eq_true hlt))

theorem ascending_demands {v : Validator} (hv : v.Sorted) : Path.Ascending v.demands := by
  induction hv with
  | scalar s =>
    rw [demands_eq]
    exact Path.Ascending.root_append List.Pairwise.nil List.not_mem_nil _
  | @object fields required nullable ascending sorted ih =>
    rw [demands_eq]
    refine (ascending_fieldDemands ascending ih).root_append (fun hm => ?_) _
    obtain ⟨_, _, _, _, _, h⟩ := mem_fieldDemands.1 hm
    cases h
  | array sorted ih =>
    rw [demands_eq]
    refine (ih.map_cons .items).root_append (fun hm => ?_) _
    obtain ⟨_, _, h⟩ := List.mem_map.1 hm
    cases h

end Validator

end Conform
