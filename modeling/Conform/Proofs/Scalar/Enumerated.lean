import Conform.Proofs.Number
import Conform.Proofs.Scalar.History

/-!
# Permitted values

A value that equals one of the permitted values is read as the base type before it is compared, and
they are not. Where it is read as a value of another kind, a number as a text say, it is looked for
in its new form, and reported if that is not among the permitted values (`validate_enumerated`).

* `exists_oneOf_iff`: when a value is reported as not permitted.
* `isLiteral_of_same`: a value that keeps its kind is the same as a literal that it equals.
-/

set_option autoImplicit false

namespace Conform

open Violation

/-! ## Equal literals -/

theorem Binary64.eq_symm {x y : Binary64} (h : x.eq y = true) : y.eq x = true := by
  simp only [Binary64.eq, Bool.and_eq_true, beq_iff_eq] at h ⊢
  exact ⟨⟨h.1.2, h.1.1⟩, h.2.symm⟩

/-- Equal numbers have equal doubles. -/
theorem Number.eq_toBinary64 {m n : Number} (h : m.same n = true) :
    n.toBinary64.eq m.toBinary64 = true := by
  cases m with
  | int i =>
    cases n with
    | int j =>
      obtain rfl : i = j := by simpa [Number.same] using h
      exact Binary64.eq_self (Binary64.isNaN_ofInt i)
    | real y => cases h
  | real x =>
    cases n with
    | int j => cases h
    | real y => exact Binary64.eq_symm h

/-- A number or a truth value that is read as a text, or a text that is read as a truth value, in
the form that it is read in. -/
def BaseType.recast? : BaseType → Json → Option Json
  | string, .num n => some (.str n.text)
  | string, .bool b => some (.str (if b then "true" else "false"))
  | boolean, .str s =>
    if s = "true" then some (.bool true) else if s = "false" then some (.bool false) else none
  | _, _ => none

/-- A value that keeps its kind is the same as a literal that it equals. -/
theorem isLiteral_of_same {base : BaseType} {v w : Json} {c : Cast} (hsame : v.same w = true)
    (hcast : base.cast? v = some c) (hkept : base.recast? v = none) : c.isLiteral w = true := by
  cases base with
  | mixed =>
    cases hcast
    exact hsame
  | string =>
    cases v with
    | str s =>
      cases hcast
      cases w with
      | str t => exact hsame
      | _ => cases hsame
    | num n => cases hkept
    | bool b => cases hkept
    | _ => cases hcast
  | number =>
    cases v with
    | num n =>
      cases hcast
      cases w with
      | num m => exact Number.eq_toBinary64 hsame
      | _ => cases hsame
    | str s =>
      rw [BaseType.cast?, Option.map_eq_some_iff] at hcast
      obtain ⟨x, hx, rfl⟩ := hcast
      rw [numberOfText?, Option.filter_eq_some_iff] at hx
      cases w with
      | str t =>
        obtain rfl : s = t := eq_of_beq hsame
        rw [Cast.isLiteral, hx.1, Option.any_some]
        exact Binary64.eq_self (Binary64.isNaN_of_isFinite hx.2)
      | _ => cases hsame
    | _ => cases hcast
  | boolean =>
    cases v with
    | bool b =>
      cases hcast
      cases w with
      | bool c => exact hsame
      | _ => cases hsame
    | str s =>
      by_cases htrue : s = "true"
      · simp [BaseType.recast?, htrue] at hkept
      by_cases hfalse : s = "false"
      · simp [BaseType.recast?, hfalse] at hkept
      simp [BaseType.cast?, htrue, hfalse] at hcast
    | _ => cases hcast

theorem any_isLiteral_text (s : String) (values : List Json) :
    values.any (Cast.text s).isLiteral = true ↔ .str s ∈ values := by
  rw [List.any_eq_true]
  constructor
  · rintro ⟨w, hw, h⟩
    cases w with
    | str t => exact (eq_of_beq h : s = t) ▸ hw
    | _ => cases h
  · exact fun h => ⟨_, h, beq_self_eq_true s⟩

theorem any_isLiteral_boolean (b : Bool) (values : List Json) :
    values.any (Cast.boolean b).isLiteral = true ↔ .bool b ∈ values := by
  rw [List.any_eq_true]
  constructor
  · rintro ⟨w, hw, h⟩
    cases w with
    | bool c => exact (eq_of_beq h : b = c) ▸ hw
    | _ => cases h
  · exact fun h => ⟨_, h, beq_self_eq_true b⟩

/-- A value that changes its kind is the same as the literal of its new form, and as no other. -/
theorem exists_cast?_of_recast {base : BaseType} {v u : Json} (h : base.recast? v = some u) :
    ∃ c, base.cast? v = some c ∧
      ∀ values : List Json, values.any c.isLiteral = true ↔ u ∈ values := by
  cases base with
  | string =>
    cases v with
    | num n =>
      cases h
      exact ⟨_, rfl, any_isLiteral_text _⟩
    | bool b =>
      cases h
      exact ⟨_, rfl, any_isLiteral_text _⟩
    | _ => cases h
  | boolean =>
    cases v with
    | str s =>
      rw [BaseType.recast?] at h
      rw [BaseType.cast?]
      split at h
      · cases h
        exact ⟨_, if_pos ‹_›, any_isLiteral_boolean true⟩
      · rw [if_neg ‹_›]
        split at h
        · cases h
          exact ⟨_, if_pos ‹_›, any_isLiteral_boolean false⟩
        · cases h
    | _ => cases h
  | _ => cases h

namespace Scalar

/-! ## What is reported -/

/-- Only a list of permitted values reports a value as none of them. -/
theorem exists_problem?_iff {c : Cast} {k : Constraint} :
    (∃ p, k.problem? c = some p ∧ p.kind = .oneOf) ↔
      ∃ values, k = .oneOf values ∧ values.any c.isLiteral = false := by
  constructor
  · rintro ⟨p, hp, hkind⟩
    cases k with
    | oneOf values =>
      refine ⟨values, rfl, ?_⟩
      cases h : values.any c.isLiteral with
      | true => simp [Constraint.problem?, h] at hp
      | false => rfl
    | _ =>
      simp only [Constraint.problem?] at hp
      split at hp
      · split at hp <;> cases hp
        cases hkind
      · cases hp
  · rintro ⟨values, rfl, h⟩
    rw [Constraint.problem?, h]
    exact ⟨_, rfl, rfl⟩

/-- A value that is there and not null is reported as none of the permitted ones if it can be read
as the base type and is the same as no literal of some list. -/
theorem exists_oneOf_iff {s : Scalar} {v : Json} (hv : v ≠ .null) :
    (∃ e ∈ (Validator.scalar s).validate v, e.kind = .oneOf) ↔
      ∃ c values, s.base.cast? v = some c ∧ .oneOf values ∈ s.constraints ∧
        values.any c.isLiteral = false := by
  have hproblems : s.problems (some v) = s.valueProblems v := by
    cases v with
    | null => exact absurd rfl hv
    | _ => rfl
  have hreports : (∃ e ∈ (Validator.scalar s).validate v, e.kind = .oneOf) ↔
      ∃ p ∈ s.valueProblems v, p.kind = .oneOf := by
    rw [Validator.validate_eq, Validator.reports, List.append_nil, Validator.ownProblems, hproblems]
    constructor
    · rintro ⟨e, he, hkind⟩
      obtain ⟨p, hp, rfl⟩ := List.mem_map.1 he
      exact ⟨p, hp, hkind⟩
    · rintro ⟨p, hp, hkind⟩
      exact ⟨p.violation, List.mem_map_of_mem hp, hkind⟩
  rw [hreports, valueProblems]
  cases s.base.cast? v with
  | none => simp [Problem.wrongType]
  | some c =>
    have hmissing : ∀ p ∈ if s.required && c.isEmptyText then [Problem.missing] else [],
        p.kind ≠ .oneOf := by
      intro p hp
      split at hp
      · cases List.mem_singleton.1 hp
        decide
      · cases hp
    constructor
    · rintro ⟨p, hp, hkind⟩
      rcases List.mem_append.1 hp with hp | hp
      · exact absurd hkind (hmissing p hp)
      · obtain ⟨k, hk, hp⟩ := List.mem_filterMap.1 hp
        obtain ⟨values, rfl, hnone⟩ := exists_problem?_iff.1 ⟨p, hp, hkind⟩
        exact ⟨c, values, rfl, hk, hnone⟩
    · rintro ⟨d, values, hd, hk, hnone⟩
      cases hd
      obtain ⟨p, hp, hkind⟩ := exists_problem?_iff.2 ⟨values, rfl, hnone⟩
      exact ⟨p, List.mem_append_right _ (List.mem_filterMap.2 ⟨_, hk, hp⟩), hkind⟩

/-- A built scalar has the one list of permitted values that it tells. -/
theorem oneOf_mem_built {base : BaseType} {steps : List Step} {values : List Json} :
    .oneOf values ∈ (built base steps).constraints ↔
      (built base steps).allowed? = some values := by
  have hmem : .oneOf values ∈ (built base steps).constraints ↔
      values ∈ (built base steps).constraints.filterMap Constraint.values? := by
    rw [List.mem_filterMap]
    constructor
    · exact fun h => ⟨_, h, rfl⟩
    · rintro ⟨k, hk, h⟩
      cases k with
      | oneOf vs =>
        cases h
        exact hk
      | _ => cases h
  rw [hmem, filterMap_built (by decide) Constraint.reads_values?, Option.mem_toList,
    (asTold_built base steps).allowed]

/-- **Permitted values that are reported as not permitted.** A value that equals one of the
permitted values is reported as none of them exactly if it is read in another form, a number or a
truth value as a text or a text as a truth value, and this form is not permitted itself. -/
theorem validate_enumerated {base : BaseType} {steps : List Step} {values : List Json}
    (hvalues : (built base steps).allowed? = some values) {v w : Json} (hv : v ≠ .null)
    (hw : w ∈ values) (hsame : (v == w) = true) :
    (∃ e ∈ (Validator.scalar (built base steps)).validate v, e.kind = .oneOf) ↔
      ∃ u, base.recast? v = some u ∧ u ∉ values := by
  rw [exists_oneOf_iff hv, base_built]
  constructor
  · rintro ⟨c, vs, hcast, hmem, hnone⟩
    obtain rfl : vs = values := Option.some.inj ((oneOf_mem_built.1 hmem).symm.trans hvalues)
    cases hnew : base.recast? v with
    | none =>
      have hany := List.any_eq_true.2 ⟨w, hw, isLiteral_of_same hsame hcast hnew⟩
      rw [hnone] at hany
      cases hany
    | some u =>
      obtain ⟨d, hd, hany⟩ := exists_cast?_of_recast hnew
      obtain rfl : c = d := Option.some.inj (hcast.symm.trans hd)
      exact ⟨u, rfl, fun hu => by rw [(hany vs).2 hu] at hnone; cases hnone⟩
  · rintro ⟨u, hnew, hu⟩
    obtain ⟨c, hcast, hany⟩ := exists_cast?_of_recast hnew
    exact ⟨c, values, hcast, oneOf_mem_built.2 hvalues,
      Bool.eq_false_iff.2 fun htrue => hu ((hany values).1 htrue)⟩

/-- Codes, of which one is a number. -/
def codes : List Json := [.str "A", .nat 5]

/-- Texts that are codes, with an upper bound on their length. -/
def codeSteps : List Step := [.nullable, .oneOf codes, .max three]

theorem validate_enumerated_codes :
    (built .string codeSteps).allowed? = some codes ∧ Json.nat 5 ≠ .null ∧ .nat 5 ∈ codes ∧
    (Json.nat 5 == .nat 5) = true ∧
    ∃ e ∈ (Validator.scalar (built .string codeSteps)).validate (.nat 5), e.kind = .oneOf := by
  have hallowed : (built .string codeSteps).allowed? = some codes := rfl
  have hnull : Json.nat 5 ≠ .null := by simp [Json.nat]
  have hmem : .nat 5 ∈ codes := List.mem_cons_of_mem _ (List.mem_singleton_self _)
  have hsame : (Json.nat 5 == .nat 5) = true := rfl
  refine ⟨hallowed, hnull, hmem, hsame, (validate_enumerated hallowed hnull hmem hsame).2 ?_⟩
  exact ⟨.str "5", rfl, by simp [codes, Json.nat]⟩

/-- The one permitted value is reported as none of the permitted values. -/
theorem validate_enumerated_number :
    (built .string [.oneOf [.nat 5]]).allowed? = some [.nat 5] ∧
    (Json.nat 5 == .nat 5) = true ∧
    (Validator.scalar (built .string [.oneOf [.nat 5]])).validate (.nat 5) =
      [⟨.root, .oneOf, "must be one of the following values: 5"⟩] :=
  ⟨rfl, rfl, by decide⟩

end Scalar

end Conform
