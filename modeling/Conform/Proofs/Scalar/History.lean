import Conform.Proofs.Validator.Reports
import Mathlib.Data.List.Induction

/-!
# Scalars and the steps that built them

A step of building sets a flag or adds a constraint, and a bound, a list of values or the demand for
whole numbers takes the place of the earlier one of its kind. So of the constraints that the steps
add those are left which no later one replaces, in the order of the steps (`constraints_built`), and
everything a scalar tells can be read from its steps (`AsTold`).

* `constraints_perm`: two scalars that tell the same have the same constraints, up to their order.
* `built_history`: what a scalar tells, and that the order of its steps matters to the order of
  violations only.
-/

set_option autoImplicit false

namespace Conform

namespace Constraint

/-- The bound of a lower bound. -/
def least? : Constraint → Option Binary64
  | min x => some x
  | _ => none

/-- The bound of an upper bound. -/
def most? : Constraint → Option Binary64
  | max x => some x
  | _ => none

/-- The permitted values. -/
def values? : Constraint → Option (List Json)
  | oneOf vs => some vs
  | _ => none

/-- The demand for whole numbers, of which there is nothing to tell but that it is there. -/
def whole? : Constraint → Option Unit
  | integer => some ()
  | _ => none

/-- The pattern. -/
def pattern? : Constraint → Option Pattern
  | pattern p => some p
  | _ => none

/-- The constraints of a kind, and no others, are read, and they can be made of what is read. -/
def Reads {α : Type} (kind : Kind) (read : Constraint → Option α) (make : α → Constraint) : Prop :=
  ∀ c, (read c).map make = Option.guard (·.kind == kind) c

theorem reads_least? : Reads .min least? .min := fun c => by cases c <;> rfl

theorem reads_most? : Reads .max most? .max := fun c => by cases c <;> rfl

theorem reads_values? : Reads .oneOf values? .oneOf := fun c => by cases c <;> rfl

theorem reads_whole? : Reads .integer whole? fun _ => .integer := fun c => by cases c <;> rfl

theorem reads_pattern? : Reads .pattern pattern? .pattern := fun c => by cases c <;> rfl

theorem reads_guard (kind : Kind) : Reads kind (Option.guard (·.kind == kind)) id :=
  fun _ => Option.map_id_apply

theorem Reads.isSome_iff {α : Type} {kind : Kind} {read : Constraint → Option α}
    {make : α → Constraint} (h : Reads kind read make) (c : Constraint) :
    (read c).isSome ↔ c.kind = kind := by
  rw [← Option.isSome_map (f := make), h c, Option.isSome_guard, beq_iff_eq]

theorem Reads.filter_eq {α : Type} {kind : Kind} {read : Constraint → Option α}
    {make : α → Constraint} (h : Reads kind read make) (cs : List Constraint) :
    cs.filter (·.kind == kind) = (cs.filterMap read).map make := by
  rw [← List.filterMap_eq_filter, List.map_filterMap]
  exact congrArg (List.filterMap · cs) (funext fun c => (h c).symm)

/-- A later constraint of the same kind takes the place of this one. Patterns add up. -/
def yieldsTo (c later : Constraint) : Bool := c.kind == later.kind && c.kind != .pattern

/-- The constraints that no later one takes the place of. -/
def lasting : List Constraint → List Constraint
  | [] => []
  | c :: cs => if cs.any c.yieldsTo then lasting cs else c :: lasting cs

/-! ## Constraints that last -/

theorem yieldsTo_iff {c d : Constraint} :
    c.yieldsTo d = true ↔ c.kind = d.kind ∧ c.kind ≠ .pattern := by
  simp [yieldsTo]

/-- One more constraint takes the places of those that yield to it. -/
theorem lasting_concat (cs : List Constraint) (c : Constraint) :
    lasting (cs ++ [c]) = (lasting cs).filter (fun d => !d.yieldsTo c) ++ [c] := by
  induction cs with
  | nil => simp [lasting]
  | cons d cs ih =>
    rw [List.cons_append, lasting, lasting, ih, List.any_append]
    by_cases hlater : cs.any d.yieldsTo = true
    · rw [hlater, Bool.true_or, if_pos rfl, if_pos rfl]
    · rw [Bool.not_eq_true] at hlater
      by_cases hd : d.yieldsTo c = true
      · simp [hlater, hd]
      · simp [hlater, hd]

/-- What is read from the constraints of one kind that last is read from the last one of them. -/
theorem filterMap_lasting {α : Type} {kind : Kind} (hkind : kind ≠ .pattern)
    {read : Constraint → Option α} {make : α → Constraint} (hread : Reads kind read make)
    (cs : List Constraint) :
    (lasting cs).filterMap read = (cs.filterMap read).getLast?.toList := by
  induction cs with
  | nil => rfl
  | cons c cs ih =>
    rw [lasting]
    cases hc : read c with
    | none => split <;> simp [hc, ih]
    | some a =>
      have hck : c.kind = kind := (hread.isSome_iff c).1 (by rw [hc]; rfl)
      split
      · rename_i hlater
        obtain ⟨d, hd, hyields⟩ := List.any_eq_true.1 hlater
        have hdk : d.kind = kind := (yieldsTo_iff.1 hyields).1 ▸ hck
        obtain ⟨b, hb⟩ := Option.isSome_iff_exists.1 ((hread.isSome_iff d).2 hdk)
        have hne : cs.filterMap read ≠ [] :=
          List.ne_nil_of_mem (List.mem_filterMap.2 ⟨d, hd, hb⟩)
        rw [ih, List.filterMap_cons_some hc, List.getLast?_cons_of_ne_nil hne]
      · rename_i hlater
        have hnone : cs.filterMap read = [] := by
          refine List.filterMap_eq_nil_iff.2 fun d hd => ?_
          refine Option.not_isSome_iff_eq_none.1 fun hs => ?_
          refine hlater (List.any_eq_true.2 ⟨d, hd, yieldsTo_iff.2 ⟨?_, hck ▸ hkind⟩⟩)
          rw [hck, (hread.isSome_iff d).1 hs]
        rw [List.filterMap_cons_some hc, List.filterMap_cons_some hc, ih, hnone]
        rfl

theorem filterMap_pattern?_lasting (cs : List Constraint) :
    (lasting cs).filterMap pattern? = cs.filterMap pattern? := by
  induction cs with
  | nil => rfl
  | cons c cs ih =>
    rw [lasting]
    split
    · rename_i hlater
      obtain ⟨d, -, hyields⟩ := List.any_eq_true.1 hlater
      have hc : pattern? c = none := by
        cases c with
        | pattern p => exact absurd rfl (yieldsTo_iff.1 hyields).2
        | _ => rfl
      rw [ih, List.filterMap_cons_none hc]
    · rw [List.filterMap_cons, List.filterMap_cons, ih]

end Constraint

namespace Scalar

open Constraint

/-! ## Steps -/

/-- The constraint that a step adds. -/
def Step.constraint? : Step → Option Constraint
  | nullable => none
  | required => none
  | integer => some .integer
  | email => some (.pattern .email)
  | min x => some (.min x)
  | max x => some (.max x)
  | oneOf vs => some (.oneOf vs)
  | pattern p => some (.pattern p)

/-- What is read from the constraints that steps add, in their order. -/
def told {α : Type} (read : Constraint → Option α) (steps : List Step) : List α :=
  (steps.filterMap Step.constraint?).filterMap read

/-- A scalar of a base type is as the steps tell that built it: it has the flags that some step
sets, the bounds and values of the last step that has any, all patterns in their order, and of the
constraints those that no later one takes the place of. -/
structure AsTold (base : BaseType) (steps : List Step) (s : Scalar) : Prop where
  base : s.base = base
  nullable : s.nullable = true ↔ .nullable ∈ steps
  required : s.required = true ↔ .required ∈ steps
  integer : s.isInteger = true ↔ .integer ∈ steps
  lower : s.lower? = (told least? steps).getLast?
  upper : s.upper? = (told most? steps).getLast?
  allowed : s.allowed? = (told values? steps).getLast?
  patterns : s.patterns = told pattern? steps
  constraints : s.constraints = lasting (steps.filterMap Step.constraint?)
  single : ∀ kind, kind ≠ .pattern → (s.constraints.filter (·.kind == kind)).length ≤ 1

/-- Two lists of steps that tell the same, in whatever order the steps of different kinds are. -/
structure TellSame (steps others : List Step) : Prop where
  nullable : .nullable ∈ steps ↔ .nullable ∈ others
  required : .required ∈ steps ↔ .required ∈ others
  integer : .integer ∈ steps ↔ .integer ∈ others
  lower : (told least? steps).getLast? = (told least? others).getLast?
  upper : (told most? steps).getLast? = (told most? others).getLast?
  allowed : (told values? steps).getLast? = (told values? others).getLast?
  patterns : told pattern? steps = told pattern? others

/-- A step adds its constraint in the place of those that yield to it. -/
theorem constraints_apply (s : Scalar) (step : Step) :
    (step.apply s).constraints =
      step.constraint?.elim s.constraints fun c =>
        s.constraints.filter (fun d => !d.yieldsTo c) ++ [c] := by
  have hreplace : ∀ c : Constraint, c.kind ≠ .pattern →
      (s.replace c).constraints = s.constraints.filter (fun d => !d.yieldsTo c) ++ [c] := by
    intro c hc
    refine congrArg (· ++ [c]) (List.filter_congr fun d _ => ?_)
    by_cases hd : d.kind = c.kind
    · simp [yieldsTo, hd, hc]
    · rw [yieldsTo, beq_false_of_ne hd, bne_iff_ne.2 hd]
      rfl
  have hmatching : ∀ p : Pattern, (s.matching p).constraints =
      s.constraints.filter (fun d => !d.yieldsTo (.pattern p)) ++ [.pattern p] := by
    intro p
    have hall : s.constraints.filter (fun d => !d.yieldsTo (.pattern p)) = s.constraints :=
      List.filter_eq_self.2 fun d _ => by cases d <;> rfl
    rw [hall]
    rfl
  cases step with
  | nullable => rfl
  | required => rfl
  | integer => exact hreplace _ (by decide)
  | email => exact hmatching _
  | min x => exact hreplace _ (by simp [kind])
  | max x => exact hreplace _ (by simp [kind])
  | oneOf vs => exact hreplace _ (by simp [kind])
  | pattern p => exact hmatching p

theorem built_concat (base : BaseType) (steps : List Step) (step : Step) :
    built base (steps ++ [step]) = step.apply (built base steps) := by
  rw [built, List.foldl_append]
  rfl

/-- **The constraints of a scalar** are those of its steps that no later one takes the place of. -/
theorem constraints_built (base : BaseType) (steps : List Step) :
    (built base steps).constraints = lasting (steps.filterMap Step.constraint?) := by
  induction steps using List.reverseRecOn with
  | nil => rfl
  | append_singleton steps step ih =>
    rw [built_concat, constraints_apply, ih, List.filterMap_append]
    cases hc : step.constraint? with
    | none => simp [hc]
    | some c =>
      rw [List.filterMap_cons_some hc, List.filterMap_nil, lasting_concat]
      rfl

theorem base_built (base : BaseType) (steps : List Step) : (built base steps).base = base := by
  have hstep : ∀ (s : Scalar) (step : Step), (step.apply s).base = s.base := by
    intro s step
    cases step <;> rfl
  induction steps using List.reverseRecOn with
  | nil => rfl
  | append_singleton steps step ih => rw [built_concat, hstep, ih]

/-- A flag that one step sets, and no other step changes, tells whether this step is there. -/
theorem flag_built {flag : Scalar → Bool} {set : Step} (hof : ∀ base, flag (of base) = false)
    (hstep : ∀ s step, flag (Step.apply s step) = true ↔ flag s = true ∨ set = step)
    (base : BaseType) (steps : List Step) : flag (built base steps) = true ↔ set ∈ steps := by
  have hrun : ∀ s, flag (steps.foldl Step.apply s) = true ↔ flag s = true ∨ set ∈ steps := by
    induction steps with
    | nil => simp
    | cons step steps ih =>
      intro s
      rw [List.foldl_cons, ih, hstep, or_assoc, List.mem_cons]
  rw [built, hrun]
  exact or_iff_right (by simp [hof])

theorem nullable_built (base : BaseType) (steps : List Step) :
    (built base steps).nullable = true ↔ .nullable ∈ steps := by
  refine flag_built (fun _ => rfl) (fun s step => ?_) base steps
  cases step with
  | nullable => exact iff_of_true rfl (.inr rfl)
  | _ => exact (or_iff_left (by simp)).symm

theorem required_built (base : BaseType) (steps : List Step) :
    (built base steps).required = true ↔ .required ∈ steps := by
  refine flag_built (fun _ => rfl) (fun s step => ?_) base steps
  cases step with
  | required => exact iff_of_true rfl (.inr rfl)
  | _ => exact (or_iff_left (by simp)).symm

/-! ## What a scalar tells -/

/-- What is read from the constraints of one kind is that of the last step with such a one. -/
theorem filterMap_built {α : Type} {kind : Kind} (hkind : kind ≠ .pattern)
    {read : Constraint → Option α} {make : α → Constraint} (hread : Reads kind read make)
    (base : BaseType) (steps : List Step) :
    (built base steps).constraints.filterMap read = (told read steps).getLast?.toList := by
  rw [constraints_built, filterMap_lasting hkind hread, told]

theorem patterns_built (base : BaseType) (steps : List Step) :
    (built base steps).constraints.filterMap pattern? = told pattern? steps := by
  rw [constraints_built, filterMap_pattern?_lasting, told]

/-- A getter looks for the first constraint of which something is read. -/
theorem findSome?_built {α : Type} {kind : Kind} (hkind : kind ≠ .pattern)
    {read get : Constraint → Option α} {make : α → Constraint} (hread : Reads kind read make)
    (hget : ∀ c, get c = read c) (base : BaseType) (steps : List Step) :
    (built base steps).constraints.findSome? get = (told read steps).getLast? := by
  rw [funext hget, ← List.head?_filterMap, filterMap_built hkind hread]
  cases List.getLast? _ <;> rfl

theorem mem_told {α : Type} {read : Constraint → Option α} {steps : List Step} {a : α} :
    a ∈ told read steps ↔ ∃ step ∈ steps, step.constraint?.bind read = some a := by
  rw [told, List.filterMap_filterMap, List.mem_filterMap]

theorem getLast?_told_whole? (steps : List Step) :
    (told whole? steps).getLast? = some () ↔ .integer ∈ steps := by
  have hmem : () ∈ told whole? steps ↔ .integer ∈ steps := by
    rw [mem_told]
    constructor
    · rintro ⟨step, hs, h⟩
      cases step with
      | integer => exact hs
      | _ => cases h
    · exact fun h => ⟨_, h, rfl⟩
  rw [← hmem]
  refine ⟨List.mem_of_getLast?, fun h => ?_⟩
  obtain ⟨⟨⟩, hlast⟩ := Option.isSome_iff_exists.1 (List.getLast?_isSome.2 (List.ne_nil_of_mem h))
  exact hlast

theorem isInteger_built (base : BaseType) (steps : List Step) :
    (built base steps).isInteger = true ↔ .integer ∈ steps := by
  rw [← getLast?_told_whole?, ← Option.mem_toList,
    ← filterMap_built (by decide) reads_whole? base steps, isInteger, List.any_eq_true,
    List.mem_filterMap]
  refine exists_congr fun c => and_congr_right' ?_
  cases c <;> simp [whole?, kind]

theorem single_built (base : BaseType) (steps : List Step) {kind : Kind} (hkind : kind ≠ .pattern) :
    ((built base steps).constraints.filter (·.kind == kind)).length ≤ 1 := by
  rw [← List.filterMap_eq_filter, filterMap_built hkind (reads_guard kind)]
  exact Option.length_toList_le

theorem asTold_built (base : BaseType) (steps : List Step) :
    AsTold base steps (built base steps) where
  base := base_built base steps
  nullable := nullable_built base steps
  required := required_built base steps
  integer := isInteger_built base steps
  lower := findSome?_built (by decide) reads_least? (fun c => by cases c <;> rfl) base steps
  upper := findSome?_built (by decide) reads_most? (fun c => by cases c <;> rfl) base steps
  allowed := findSome?_built (by decide) reads_values? (fun c => by cases c <;> rfl) base steps
  patterns := by
    rw [← patterns_built base]
    exact congrArg (List.filterMap · _) (funext fun c => by cases c <;> rfl)
  constraints := constraints_built base steps
  single := fun _ hkind => single_built base steps hkind

/-! ## The order of steps -/

/-- Lists with the same constraints of each kind have the same constraints. -/
theorem perm_of_kinds {cs ds : List Constraint}
    (h : ∀ kind, cs.filter (·.kind == kind) = ds.filter (·.kind == kind)) : cs.Perm ds := by
  classical
  refine List.perm_iff_count.2 fun c => ?_
  have hcount : ∀ l : List Constraint, (l.filter (·.kind == c.kind)).count c = l.count c :=
    fun _ => List.count_filter (beq_self_eq_true c.kind)
  rw [← hcount cs, h, hcount]

/-- Of a kind of which the last step counts, scalars have the same constraint if these steps are. -/
theorem filter_kind_eq {α : Type} {kind : Kind} (hkind : kind ≠ .pattern)
    {read : Constraint → Option α} {make : α → Constraint} (hread : Reads kind read make)
    (base : BaseType) {steps others : List Step}
    (h : (told read steps).getLast? = (told read others).getLast?) :
    (built base steps).constraints.filter (·.kind == kind) =
      (built base others).constraints.filter (·.kind == kind) := by
  rw [hread.filter_eq, hread.filter_eq, filterMap_built hkind hread, filterMap_built hkind hread, h]

/-- **Scalars that are told the same have the same constraints**, up to their order. -/
theorem constraints_perm (base : BaseType) {steps others : List Step} (h : TellSame steps others) :
    (built base steps).constraints.Perm (built base others).constraints := by
  refine perm_of_kinds fun kind => ?_
  cases kind with
  | min => exact filter_kind_eq (by decide) reads_least? base h.lower
  | max => exact filter_kind_eq (by decide) reads_most? base h.upper
  | oneOf => exact filter_kind_eq (by decide) reads_values? base h.allowed
  | integer =>
    refine filter_kind_eq (by decide) reads_whole? base (Option.ext fun ⟨⟩ => ?_)
    rw [getLast?_told_whole?, getLast?_told_whole?, h.integer]
  | pattern =>
    rw [reads_pattern?.filter_eq, reads_pattern?.filter_eq, patterns_built, patterns_built,
      h.patterns]

/-- Constraints are checked one by one, so their order is that of the problems. -/
theorem problems_perm {s t : Scalar} (hbase : s.base = t.base) (hnullable : s.nullable = t.nullable)
    (hrequired : s.required = t.required) (hperm : s.constraints.Perm t.constraints)
    (x : Option Json) : (s.problems x).Perm (t.problems x) := by
  have hvalue : ∀ v, (s.valueProblems v).Perm (t.valueProblems v) := by
    intro v
    rw [valueProblems, valueProblems, hbase, hrequired]
    cases t.base.cast? v with
    | none => exact .refl _
    | some c => exact (hperm.filterMap _).append_left _
  match x with
  | none => rw [problems_none, problems_none, hrequired]
  | some .null => rw [problems_null, problems_null, hrequired, hnullable]
  | some (.bool _) | some (.num _) | some (.str _) | some (.arr _) | some (.obj _) => exact hvalue _

/-- **A scalar is what its steps tell.** It has the flags that were set, the last bounds and values,
all patterns, and one constraint of every other kind at most, in the order in which the steps were
last made. Steps that tell the same build scalars with the same violations up to their order, which
accept the same documents. -/
theorem built_history (base : BaseType) (steps : List Step) :
    AsTold base steps (built base steps) ∧
    ∀ others, TellSame steps others →
      (∀ x, ((Validator.scalar (built base steps)).collect x).Perm
        ((Validator.scalar (built base others)).collect x)) ∧
      ∀ d, (Validator.scalar (built base steps)).isValid d =
        (Validator.scalar (built base others)).isValid d := by
  refine ⟨asTold_built base steps, fun others h => ?_⟩
  have hnullable : (built base steps).nullable = (built base others).nullable := by
    rw [Bool.eq_iff_iff, nullable_built, nullable_built, h.nullable]
  have hrequired : (built base steps).required = (built base others).required := by
    rw [Bool.eq_iff_iff, required_built, required_built, h.required]
  have hbase : (built base steps).base = (built base others).base := by
    rw [base_built, base_built]
  have hcollect : ∀ x, ((Validator.scalar (built base steps)).collect x).Perm
      ((Validator.scalar (built base others)).collect x) := by
    intro x
    rw [Validator.collect_eq, Validator.collect_eq, Validator.reports, Validator.reports]
    have hproblems := problems_perm hbase hnullable hrequired (constraints_perm base h) x
    exact (hproblems.map _).append_right _
  refine ⟨hcollect, fun d => ?_⟩
  rw [Bool.eq_iff_iff, Validator.isValid_iff, Validator.isValid_iff]
  have hlength := (hcollect (some d)).length_eq
  rw [← List.length_eq_zero_iff, ← List.length_eq_zero_iff]
  exact iff_of_eq (congrArg (· = 0) hlength)

/-- The double `3.0`. -/
def three : Binary64 := ⟨0x4008000000000000⟩

/-- E-mail addresses, with a bound that is set twice. -/
def revised : List Step :=
  [.min .zero, .required, .oneOf [.str "a@b.cd", .str "e@f.gh"], .email, .min three]

/-- The same without the bound that does not last, in another order. -/
def settled : List Step :=
  [.email, .min three, .required, .oneOf [.str "a@b.cd", .str "e@f.gh"]]

theorem built_history_revised :
    TellSame revised settled ∧
    (built .string revised).lower? = some three ∧
    (built .string revised).constraints.map Constraint.kind = [.oneOf, .pattern, .min] ∧
    (built .string settled).constraints.map Constraint.kind = [.pattern, .min, .oneOf] ∧
    ((Validator.scalar (built .string revised)).collect (some (.str ""))).Perm
      ((Validator.scalar (built .string settled)).collect (some (.str ""))) := by
  have hsame : TellSame revised settled :=
    ⟨by simp [revised, settled], by simp [revised, settled], by simp [revised, settled], rfl, rfl,
      rfl, rfl⟩
  obtain ⟨htold, hothers⟩ := built_history .string revised
  exact ⟨hsame, htold.lower, rfl, rfl, (hothers settled hsame).1 _⟩

end Scalar

end Conform
