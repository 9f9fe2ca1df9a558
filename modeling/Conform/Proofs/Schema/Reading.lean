import Conform.Proofs.Schema.Repair

/-!
# What can be read as a schema

A raw value can be read as a schema once it is repaired if all its keywords have the form that they
call for, at every place (`Json.Grammatical`). Repairing does the rest: what is no object in the
place of a schema does no harm, and neither does the value of a bound.

* `isSome_ofMembers?_iff`: an object can be read if each of its members can.
* `isSome_ofJson?_repair_iff`: the values that can be read once they are repaired.
-/

set_option autoImplicit false

namespace Conform

namespace Json

/-- The form that a keyword calls for; null says that the keyword is not there. A bound has none,
since it is repaired, and neither has what a step leads to. -/
def HasForm (key : String) (v : Json) : Prop :=
  match key with
  | "type" => v = null ∨ (∃ name, v = str name) ∨ ∃ names, v = strs names
  | "required" => v = null ∨ ∃ names, v = strs names
  | "properties" => v = null ∨ ∃ ps, v = obj ps
  | "allOf" | "enum" => v = null ∨ ∃ vs, v = arr vs
  | "minimum" | "maximum" => v = null ∨ ∃ n, v = num n
  | _ => True

/-- In the objects at all places the keywords have the forms that they call for. -/
def Grammatical (x : Json) : Prop :=
  ∀ p ms, at? p x = some (obj ms) → ∀ key v, ms.lookup key = some v → HasForm key v

/-- What is no object has no keywords. -/
theorem grammatical_of_not_obj {x : Json} (hx : ∀ ms, x ≠ obj ms) : x.Grammatical := by
  intro p ms h
  cases p with
  | nil => exact absurd (Option.some.inj h) (hx ms)
  | cons s p =>
    cases x with
    | obj ms => exact absurd rfl (hx ms)
    | _ => cases h

theorem grammatical_obj_iff {ms : List (String × Json)} :
    (obj ms).Grammatical ↔
      (∀ key v, ms.lookup key = some v → HasForm key v) ∧
        ∀ s w, step? s (obj ms) = some w → w.Grammatical := by
  constructor
  · intro h
    exact ⟨h [] ms rfl, fun s w hs p ns hp =>
      h (s :: p) ns (Option.bind_eq_some_iff.2 ⟨w, hs, hp⟩)⟩
  · rintro ⟨hown, hbelow⟩ p ns hp
    cases p with
    | nil =>
      cases hp
      exact hown
    | cons s p =>
      obtain ⟨w, hs, hp⟩ := Option.bind_eq_some_iff.1 hp
      exact hbelow s w hs p ns hp

/-! ## Keywords -/

/-- Texts that were read are written as they were. -/
theorem strs_of_strs? {vs : List Json} {texts : List String} (h : strs? vs = some texts) :
    strs texts = arr vs := by
  induction vs generalizing texts with
  | nil =>
    cases h
    rfl
  | cons v vs ih =>
    obtain ⟨text, htext, h⟩ := Option.bind_eq_some_iff.1 h
    obtain ⟨rest, hrest, h⟩ := Option.bind_eq_some_iff.1 h
    cases h
    cases v with
    | str s =>
      cases htext
      rw [strs, List.map_cons, ← arr.inj (ih hrest)]
    | _ => cases htext

theorem isSome_strs?_iff (vs : List Json) : (strs? vs).isSome ↔ ∃ texts, arr vs = strs texts := by
  constructor
  · intro h
    obtain ⟨texts, ht⟩ := Option.isSome_iff_exists.1 h
    exact ⟨texts, (strs_of_strs? ht).symm⟩
  · rintro ⟨texts, he⟩
    cases he
    induction texts with
    | nil => rfl
    | cons text texts ih =>
      obtain ⟨rest, hr⟩ := Option.isSome_iff_exists.1 ih
      rw [List.map_cons, strs?, hr]
      rfl

end Json

open Json

theorem TypeDecl.isSome_ofJson?_iff (v : Json) :
    (TypeDecl.ofJson? v).isSome ↔ (∃ name, v = .str name) ∨ ∃ names, v = strs names := by
  cases v with
  | str s => simp [TypeDecl.ofJson?]
  | arr vs => simp [TypeDecl.ofJson?, isSome_strs?_iff]
  | _ => simp [TypeDecl.ofJson?, strs]

namespace Facets

theorem isSome_keyword?_iff {α : Type} (read? : Json → Option α) (v : Json) :
    (keyword? read? v).isSome ↔ v = .null ∨ (read? v).isSome := by
  cases v <;> simp [keyword?]

/-- Whether a member can be read does not depend on those that were read before. -/
theorem isSome_withMember? (key : String) (v : Json) (f g : Facets) :
    (f.withMember? key v).isSome = (g.withMember? key v).isSome := by
  unfold withMember?
  split <;> simp only [Option.isSome_map, Option.isSome_some]

/-- A bound is read from a count or null. -/
theorem isSome_withMember?_bound_iff {key : String} (hkey : key ∈ Schema.boundKeywords) (v : Json)
    (f : Facets) : (f.withMember? key v).isSome ↔ v = .null ∨ Schema.isCount v = true := by
  have hcount : (count? v).isSome ↔ Schema.isCount v = true := by
    cases v with
    | num n => cases n <;> simp [count?, Schema.isCount, Number.isCount]
    | _ => simp [count?, Schema.isCount]
  rw [← hcount, ← isSome_keyword?_iff]
  simp only [Schema.boundKeywords, List.mem_cons, List.not_mem_nil, or_false] at hkey
  obtain rfl | rfl | rfl | rfl := hkey <;> simp [withMember?]

/-- A keyword that holds no schema and is no bound is read if it has its form. -/
theorem isSome_withMember?_iff {key : String} (hbound : key ∉ Schema.boundKeywords)
    (hproperties : key ≠ "properties") (hallOf : key ≠ "allOf") (v : Json) (f : Facets) :
    (f.withMember? key v).isSome ↔ HasForm key v := by
  unfold withMember?
  split
  case h_1 => rw [Option.isSome_map, isSome_keyword?_iff, TypeDecl.isSome_ofJson?_iff, HasForm]
  case h_2 =>
    rw [Option.isSome_map, isSome_keyword?_iff, HasForm]
    cases v <;> simp [isSome_strs?_iff, strs]
  case h_3 =>
    rw [Option.isSome_map, isSome_keyword?_iff, HasForm]
    cases v <;> simp
  case h_4 | h_5 =>
    rw [Option.isSome_map, isSome_keyword?_iff, HasForm]
    cases v <;> simp [binary64?]
  case h_10 =>
    unfold HasForm
    split <;> simp_all
  all_goals exact absurd (by simp [Schema.boundKeywords]) hbound

end Facets

namespace Schema

/-! ## Members -/

theorem isSome_named?_iff (ps : List (String × Json)) :
    (named? ps).isSome ↔ ∀ p ∈ ps, (ofJson? p.2).isSome := by
  induction ps with
  | nil => simp [named?]
  | cons p ps ih =>
    rw [named?, List.forall_mem_cons, ← ih]
    cases ofJson? p.2 <;> cases named? ps <;> simp

theorem isSome_list?_iff (vs : List Json) :
    (list? vs).isSome ↔ ∀ v ∈ vs, (ofJson? v).isSome := by
  induction vs with
  | nil => simp [list?]
  | cons v vs ih =>
    rw [list?, List.forall_mem_cons, ← ih]
    cases ofJson? v <;> cases list? vs <;> simp

/-- Whether a member can be read does not depend on the others. -/
theorem isSome_ofMembers?_cons (m : String × Json) (ms : List (String × Json)) :
    (ofMembers? (m :: ms)).isSome ↔ (ofMembers? [m]).isSome ∧ (ofMembers? ms).isSome := by
  obtain ⟨key, v⟩ := m
  rw [ofMembers?, ofMembers?, ofMembers?]
  cases ofMembers? ms with
  | none => simp
  | some s =>
    simp only [Option.bind_eq_bind, Option.bind_some, Option.isSome_some, and_true]
    by_cases hproperties : key = "properties"
    · cases v <;> simp [hproperties]
    by_cases hitems : key = "items"
    · cases v <;> simp [hitems]
    by_cases hallOf : key = "allOf"
    · cases v <;> simp [hallOf]
    rw [if_neg hproperties, if_neg hproperties, if_neg hitems, if_neg hitems, if_neg hallOf,
      if_neg hallOf, Option.isSome_map, Option.isSome_map,
      Facets.isSome_withMember? key v _ empty.facets]

theorem isSome_ofMembers?_iff (ms : List (String × Json)) :
    (ofMembers? ms).isSome ↔ ∀ m ∈ ms, (ofMembers? [m]).isSome := by
  induction ms with
  | nil =>
    rw [ofMembers?]
    exact ⟨fun _ m hm => absurd hm List.not_mem_nil, fun _ => rfl⟩
  | cons m ms ih => rw [isSome_ofMembers?_cons, List.forall_mem_cons, ih]

theorem ofMembers?_items {v : Json} (hv : v ≠ .null) (ms : List (String × Json)) :
    ofMembers? (("items", v) :: ms) =
      (ofMembers? ms).bind fun s => (ofJson? v).map fun i => { s with items := some i } := by
  rw [ofMembers?]
  cases ofMembers? ms with
  | none => rfl
  | some s => cases v <;> simp at hv ⊢

theorem ofMembers?_properties (ps ms : List (String × Json)) :
    ofMembers? (("properties", .obj ps) :: ms) =
      (ofMembers? ms).bind fun s => (named? ps).map fun ps => { s with properties := some ps } := by
  rw [ofMembers?]
  rfl

theorem ofMembers?_allOf (vs : List Json) (ms : List (String × Json)) :
    ofMembers? (("allOf", .arr vs) :: ms) =
      (ofMembers? ms).bind fun s => (list? vs).map fun ss => { s with allOf := some ss } := by
  rw [ofMembers?]
  simp

theorem isSome_items_iff {v : Json} (hv : v ≠ .null) :
    (ofMembers? [("items", v)]).isSome ↔ (ofJson? v).isSome := by
  rw [ofMembers?_items hv, ofMembers?, Option.bind_some, Option.isSome_map]

theorem isSome_properties_iff (ps : List (String × Json)) :
    (ofMembers? [("properties", .obj ps)]).isSome ↔ ∀ p ∈ ps, (ofJson? p.2).isSome := by
  rw [ofMembers?_properties, ofMembers?, Option.bind_some, Option.isSome_map, isSome_named?_iff]

theorem isSome_allOf_iff (vs : List Json) :
    (ofMembers? [("allOf", .arr vs)]).isSome ↔ ∀ v ∈ vs, (ofJson? v).isSome := by
  rw [ofMembers?_allOf, ofMembers?, Option.bind_some, Option.isSome_map, isSome_list?_iff]

theorem isSome_bound_iff {key : String} (hkey : key ∈ boundKeywords) (v : Json) :
    (ofMembers? [(key, v)]).isSome ↔ v = .null ∨ isCount v = true := by
  obtain ⟨hitems, hproperties, hallOf⟩ := ne_of_bound (List.contains_iff_mem.2 hkey)
  rw [ofMembers?, ofMembers?, ← Facets.isSome_withMember?_bound_iff hkey v empty.facets]
  simp [hitems, hproperties, hallOf]

/-- A member that is no bound and has no steps can be read if its value has the form that its name
calls for. -/
theorem isSome_noSteps_iff {key : String} {v : Json} (hkey : key ∉ boundKeywords)
    (hs : NoSteps key v) : (ofMembers? [(key, v)]).isSome ↔ HasForm key v := by
  rw [ofMembers?, ofMembers?, Option.bind_eq_bind, Option.bind_some]
  by_cases hproperties : key = "properties"
  · subst hproperties
    have hv := hs.properties rfl
    cases v <;> simp [HasForm] at hv ⊢
  by_cases hallOf : key = "allOf"
  · subst hallOf
    have hv := hs.allOf rfl
    cases v <;> simp [HasForm] at hv ⊢
  rw [if_neg hproperties, if_neg hs.items, if_neg hallOf, Option.isSome_map,
    Facets.isSome_withMember?_iff hkey hproperties hallOf]

/-! ## Values -/

theorem repair_ne_null (path : Path) (v : Json) : (repair path v).1 ≠ .null := by
  cases v with
  | obj ms => rw [repair_obj]; simp
  | _ => rw [repair_of_not_obj (by simp)]; simp

/-- A repaired member can be read if its value has the form that its name calls for, and all that
the steps through it lead to can be read once it is repaired. -/
theorem isSome_repairMember_iff (path : Path) (key : String) (v : Json) :
    (∀ w, repairMember path key v = some w → (ofMembers? [(key, w)]).isSome) ↔
      HasForm key v ∧
        ∀ c ∈ memberSteps key v, (ofJson? (repair (path ++ c.1.path) c.2).1).isSome := by
  by_cases hbound : boundKeywords.contains key = true
  · have hkey := List.contains_iff_mem.1 hbound
    have hform : HasForm key v := by
      simp only [boundKeywords, List.mem_cons, List.not_mem_nil, or_false] at hkey
      obtain rfl | rfl | rfl | rfl := hkey <;> trivial
    rw [memberSteps_of_bound hbound, repairMember_of_bound hbound]
    refine iff_of_true (fun w hw => ?_) ⟨hform, by simp⟩
    split at hw
    · cases hw
      exact (isSome_bound_iff hkey _).2 (.inr ‹_›)
    · obtain ⟨n, hn, rfl⟩ := Option.map_eq_some_iff.1 hw
      exact (isSome_bound_iff hkey _).2 (.inr (isCount_of_coerceBound hn))
  obtain ⟨rfl, hs⟩ | ⟨ps, rfl, rfl, hs⟩ | ⟨vs, rfl, rfl, hs⟩ | ⟨hno, hs⟩ := memberSteps_cases key v
  · have hrepair : repairMember path "items" v = some (repair path.items v).1 := rfl
    have hform : HasForm "items" v := by simp [HasForm]
    rw [hs, hrepair, List.forall_mem_singleton, and_iff_right hform]
    simp only [Option.some.injEq, forall_eq', isSome_items_iff (repair_ne_null _ _)]
    rfl
  · have hrepair : repairMember path "properties" (.obj ps) =
        some (.obj (ps.map fun p => (p.1, (repair (path.child p.1) p.2).1))) := rfl
    have hform : HasForm "properties" (.obj ps) := by simp [HasForm]
    rw [hs, hrepair, List.forall_mem_map, and_iff_right hform]
    simp only [Option.some.injEq, forall_eq', isSome_properties_iff, List.forall_mem_map]
    rfl
  · have hrepair : repairMember path "allOf" (.arr vs) =
        some (.arr (vs.map fun w => (repair path w).1)) := rfl
    have hform : HasForm "allOf" (.arr vs) := by simp [HasForm]
    have hentries := List.forall_mem_map (f := Prod.fst) (l := vs.zipIdx)
      (P := fun w => (ofJson? (repair path w).1).isSome = true)
    rw [List.zipIdx_map_fst] at hentries
    rw [hs, hrepair, List.forall_mem_map, and_iff_right hform]
    simpa only [Option.some.injEq, forall_eq', isSome_allOf_iff, List.forall_mem_map, Step.path,
      List.append_nil] using hentries
  · have hkey : key ∉ boundKeywords := mt List.contains_iff_mem.2 hbound
    rw [hs, repairMember_of_noSteps hno hbound, and_iff_left (by simp)]
    simp only [Option.some.injEq, forall_eq', isSome_noSteps_iff hkey hno]

/-- **What can be read as a schema** once it is repaired: the values whose keywords have their
forms at all places. -/
theorem isSome_ofJson?_repair_iff {x : Json} (hx : x.Sorted) (path : Path) :
    (ofJson? (repair path x).1).isSome ↔ x.Grammatical := by
  induction x using induct_steps generalizing path with
  | step x ih =>
    cases x with
    | obj ms =>
      -- the members that are dropped are bounds, which have no form and no steps
      have hmembers : (ofJson? (repair path (.obj ms)).1).isSome ↔ ∀ m ∈ ms, HasForm m.1 m.2 ∧
          ∀ c ∈ memberSteps m.1 m.2, (ofJson? (repair (path ++ c.1.path) c.2).1).isSome := by
        rw [repair_obj, ofJson?, isSome_ofMembers?_iff, fst_repairMembers]
        constructor
        · intro h m hm
          exact (isSome_repairMember_iff path m.1 m.2).1 fun w hw =>
            h (m.1, w) (KeyMap.mem_filterMap.2 ⟨m.2, hm, hw⟩)
        · rintro h ⟨key, w⟩ hw
          obtain ⟨v, hv, hw⟩ := KeyMap.mem_filterMap.1 hw
          exact (isSome_repairMember_iff path key v).2 (h (key, v) hv) w hw
      have hbelow : ∀ s w, step? s (.obj ms) = some w →
          ((ofJson? (repair (path ++ s.path) w).1).isSome ↔ w.Grammatical) :=
        fun s w hs => ih s w hs (hx.step hs) (path ++ s.path)
      rw [hmembers, grammatical_obj_iff]
      constructor
      · refine fun h => ⟨fun key v hv => (h (key, v) (KeyMap.mem_of_lookup hv)).1, fun s w hs => ?_⟩
        obtain ⟨m, hm, hc⟩ := List.mem_flatMap.1 (mem_steps_of_step? hs)
        exact (hbelow s w hs).1 ((h m hm).2 (s, w) hc)
      · rintro ⟨hforms, hsteps⟩ ⟨key, v⟩ hm
        have hkey := (sorted_obj_iff.1 hx).1.lookup_eq_some_iff.2 hm
        refine ⟨hforms key v hkey, ?_⟩
        rintro ⟨s, w⟩ hc
        have hs := (mem_steps hx).1 (List.mem_flatMap.2 ⟨(key, v), hm, hc⟩)
        exact (hbelow s w hs).2 (hsteps s w hs)
    | _ =>
      rw [repair_of_not_obj (by simp), ofJson?, ofMembers?]
      exact iff_of_true rfl (grammatical_of_not_obj (by simp))

end Schema

end Conform
