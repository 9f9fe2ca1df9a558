import Conform.Path
import Conform.Proofs.Schema.Sorted

/-!
# Places of schemas in a raw value

A raw value stands for a schema, and some values inside it do so too: below an object the values in
`properties`, the value of `items` and the entries of `allOf`. A `Place` leads to such a value by
steps of these three kinds (`Json.at?`), whatever the value is; the same words elsewhere in the raw
value, say as the name of a property, are no steps. In paths of schemas an entry of `allOf` adds
nothing to the path of its parent.

* `mem_steps`: the list of all steps from a value, in the order of its members, against the look-up
  of a single step.
* `induct_steps`: induction on a raw value by what is one step below it.
-/

set_option autoImplicit false

namespace Conform.Json

/-- A step from a schema in a raw value to one directly below it. -/
inductive Step
  | property (name : String)
  | items
  | entry (i : Nat)
deriving DecidableEq

/-- The way to a schema in a raw value. -/
abbrev Place := List Step

/-- The keyword that a step goes through. -/
def Step.key : Step → String
  | property _ => "properties"
  | items => "items"
  | entry _ => "allOf"

/-- What a step adds to the path of a schema. -/
def Step.path : Step → Path
  | property name => [.field name]
  | items => [.items]
  | entry _ => []

/-- The path of a place. -/
def Place.path (p : Place) : Path := p.flatMap Step.path

/-- An item of a list. -/
def item? (i : Nat) : Json → Option Json
  | arr vs => vs[i]?
  | _ => none

/-- Where a step leads to from the value of its keyword. -/
def Step.into? : Step → Json → Option Json
  | property name, v => v.get? name
  | items, v => some v
  | entry i, v => v.item? i

/-- What a step leads to. -/
def step? (s : Step) (v : Json) : Option Json := (v.get? s.key).bind s.into?

/-- What is at a place in a value. -/
def at? : Place → Json → Option Json
  | [], v => some v
  | s :: p, v => (step? s v).bind (at? p)

/-! ## All steps from a value -/

/-- The steps through a member, each with where it leads to. -/
def memberSteps (key : String) (v : Json) : List (Step × Json) :=
  if key = "items" then [(.items, v)]
  else if key = "properties" then
    match v with
    | obj ps => ps.map fun p => (.property p.1, p.2)
    | _ => []
  else if key = "allOf" then
    match v with
    | arr vs => vs.zipIdx.map fun e => (.entry e.2, e.1)
    | _ => []
  else []

/-- The steps from a value, in the order of its members. -/
def steps : Json → List (Step × Json)
  | obj ms => ms.flatMap fun m => memberSteps m.1 m.2
  | _ => []

/-- The member has no steps: it is neither `items` nor an object under `properties` nor a list under
`allOf`. -/
structure NoSteps (key : String) (v : Json) : Prop where
  items : key ≠ "items"
  properties : key = "properties" → ∀ ps, v ≠ obj ps
  allOf : key = "allOf" → ∀ vs, v ≠ arr vs

theorem mem_memberSteps_of_into? {s : Step} {v w : Json} (h : s.into? v = some w) :
    (s, w) ∈ memberSteps s.key v := by
  cases s with
  | property name =>
    cases v with
    | obj ps => exact List.mem_map.2 ⟨(name, w), KeyMap.mem_of_lookup h, rfl⟩
    | _ => cases h
  | items =>
    cases h
    exact List.mem_singleton.2 rfl
  | entry i =>
    cases v with
    | arr vs => exact List.mem_map.2 ⟨(w, i), List.mem_zipIdx_iff_getElem?.2 h, rfl⟩
    | _ => cases h

/-- The members with steps: `items`, the properties in an object and the entries in a list. -/
theorem memberSteps_cases (key : String) (v : Json) :
    (key = "items" ∧ memberSteps key v = [(.items, v)]) ∨
    (∃ ps, key = "properties" ∧ v = obj ps ∧
      memberSteps key v = ps.map fun p => (.property p.1, p.2)) ∨
    (∃ vs, key = "allOf" ∧ v = arr vs ∧
      memberSteps key v = vs.zipIdx.map fun e => (.entry e.2, e.1)) ∨
    NoSteps key v ∧ memberSteps key v = [] := by
  unfold memberSteps
  by_cases hitems : key = "items"
  · exact .inl ⟨hitems, if_pos hitems⟩
  rw [if_neg hitems]
  by_cases hproperties : key = "properties"
  · rw [if_pos hproperties]
    have hallOf : key ≠ "allOf" := by
      rw [hproperties]
      decide
    cases v with
    | obj ps => exact .inr (.inl ⟨ps, hproperties, rfl, rfl⟩)
    | _ => exact .inr (.inr (.inr ⟨⟨hitems, by simp, fun h => absurd h hallOf⟩, rfl⟩))
  rw [if_neg hproperties]
  by_cases hallOf : key = "allOf"
  · rw [if_pos hallOf]
    cases v with
    | arr vs => exact .inr (.inr (.inl ⟨vs, hallOf, rfl, rfl⟩))
    | _ => exact .inr (.inr (.inr ⟨⟨hitems, fun h => absurd h hproperties, by simp⟩, rfl⟩))
  rw [if_neg hallOf]
  exact .inr (.inr (.inr
    ⟨⟨hitems, fun h => absurd h hproperties, fun h => absurd h hallOf⟩, rfl⟩))

/-- The steps through a member go through its name, and to its value or to what this holds. -/
theorem of_mem_memberSteps {key : String} {s : Step} {v w : Json}
    (h : (s, w) ∈ memberSteps key v) :
    key = s.key ∧ ((s = .items ∧ v = w) ∨ (∃ name ps, s = .property name ∧ v = obj ps ∧
      (name, w) ∈ ps) ∨ ∃ i vs, s = .entry i ∧ v = arr vs ∧ vs[i]? = some w) := by
  obtain ⟨hkey, hs⟩ | ⟨ps, hkey, hv, hs⟩ | ⟨vs, hkey, hv, hs⟩ | ⟨-, hs⟩ := memberSteps_cases key v
  · rw [hs, List.mem_singleton, Prod.mk.injEq] at h
    obtain ⟨rfl, rfl⟩ := h
    exact ⟨hkey, .inl ⟨rfl, rfl⟩⟩
  · rw [hs] at h
    obtain ⟨⟨name, w⟩, hp, he⟩ := List.mem_map.1 h
    cases he
    exact ⟨hkey, .inr (.inl ⟨name, ps, rfl, hv, hp⟩)⟩
  · rw [hs] at h
    obtain ⟨⟨w, i⟩, hi, he⟩ := List.mem_map.1 h
    cases he
    exact ⟨hkey, .inr (.inr ⟨i, vs, rfl, hv, List.mem_zipIdx_iff_getElem?.1 hi⟩)⟩
  · rw [hs] at h
    cases h

theorem mem_memberSteps {key : String} {s : Step} {v w : Json} (hv : v.Sorted) :
    (s, w) ∈ memberSteps key v ↔ key = s.key ∧ s.into? v = some w := by
  refine ⟨fun h => ?_, fun ⟨hkey, h⟩ => hkey ▸ mem_memberSteps_of_into? h⟩
  obtain ⟨hkey, ⟨rfl, rfl⟩ | ⟨name, ps, rfl, rfl, hp⟩ | ⟨i, vs, rfl, rfl, hi⟩⟩ :=
    of_mem_memberSteps h
  · exact ⟨hkey, rfl⟩
  · cases hv with
    | obj ascending _ => exact ⟨hkey, ascending.lookup_eq_some_iff.2 hp⟩
  · exact ⟨hkey, hi⟩

theorem mem_steps_of_step? {s : Step} {v w : Json} (h : step? s v = some w) :
    (s, w) ∈ v.steps := by
  obtain ⟨u, hu, hw⟩ := Option.bind_eq_some_iff.1 h
  cases v with
  | obj ms => exact List.mem_flatMap.2 ⟨_, KeyMap.mem_of_lookup hu, mem_memberSteps_of_into? hw⟩
  | _ => cases hu

/-- In a sorted value the steps are listed with what they lead to. -/
theorem mem_steps {s : Step} {v w : Json} (hv : v.Sorted) :
    (s, w) ∈ v.steps ↔ step? s v = some w := by
  refine ⟨fun h => ?_, mem_steps_of_step?⟩
  cases hv with
  | @obj ms ascending members =>
    obtain ⟨⟨key, u⟩, hm, hc⟩ := List.mem_flatMap.1 h
    obtain ⟨rfl, hw⟩ := (mem_memberSteps (members _ hm)).1 hc
    exact Option.bind_eq_some_iff.2 ⟨u, ascending.lookup_eq_some_iff.2 hm, hw⟩
  | _ => cases h

theorem pairwise_zipIdx_ne (vs : List Json) : vs.zipIdx.Pairwise fun e f => e.2 ≠ f.2 := by
  refine (List.pairwise_map (f := Prod.snd)).1 ?_
  rw [List.zipIdx_map_snd]
  exact List.nodup_range'

/-- The steps from a sorted value are different ones. -/
theorem pairwise_steps_ne {v : Json} (hv : v.Sorted) :
    v.steps.Pairwise fun c d => c.1 ≠ d.1 := by
  cases hv with
  | @obj ms ascending members =>
    refine List.pairwise_flatMap.2 ⟨fun ⟨key, u⟩ hm => ?_, ascending.imp ?_⟩
    · have hu := members _ hm
      obtain ⟨-, hs⟩ | ⟨ps, -, rfl, hs⟩ | ⟨vs, -, -, hs⟩ | ⟨-, hs⟩ := memberSteps_cases key u
      · rw [hs]
        exact List.pairwise_singleton _ _
      · cases hu with
        | obj ascending' _ =>
          rw [hs, List.pairwise_map]
          refine ascending'.imp fun hlt he => ?_
          rw [Step.property.injEq] at he
          exact String.lt_irrefl _ (he ▸ hlt)
      · rw [hs, List.pairwise_map]
        exact (pairwise_zipIdx_ne vs).imp fun hne he => hne (Step.entry.inj he)
      · rw [hs]
        exact List.Pairwise.nil
    · intro m n hlt c hc d hd he
      rw [(of_mem_memberSteps hc).1, (of_mem_memberSteps hd).1, he] at hlt
      exact String.lt_irrefl _ hlt
  | _ => exact List.Pairwise.nil

/-- Steps lead to sorted values. -/
theorem Sorted.step {s : Step} {v w : Json} (hv : v.Sorted) (h : step? s v = some w) :
    w.Sorted := by
  cases hv with
  | obj ascending members =>
    obtain ⟨⟨key, u⟩, hm, hc⟩ := List.mem_flatMap.1 (mem_steps_of_step? h)
    have hu := members _ hm
    obtain ⟨-, ⟨-, rfl⟩ | ⟨name, ps, -, rfl, hp⟩ | ⟨i, vs, -, rfl, hi⟩⟩ := of_mem_memberSteps hc
    · exact hu
    · cases hu with
      | obj _ members' => exact members' _ hp
    · cases hu with
      | arr items => exact items _ (List.mem_of_getElem? hi)
  | _ => cases h

theorem Sorted.at {p : Place} {v w : Json} (hv : v.Sorted) (h : at? p v = some w) : w.Sorted := by
  induction p generalizing v with
  | nil =>
    cases h
    exact hv
  | cons s p ih =>
    obtain ⟨u, hu, hw⟩ := Option.bind_eq_some_iff.1 h
    exact ih (hv.step hu) hw

theorem sizeOf_lt_of_mem_steps {v : Json} {c : Step × Json} (h : c ∈ v.steps) :
    sizeOf c.2 < sizeOf v := by
  cases v with
  | obj ms =>
    obtain ⟨⟨key, u⟩, hm, hc⟩ := List.mem_flatMap.1 h
    have hu := List.sizeOf_lt_of_mem hm
    simp only [obj.sizeOf_spec, Prod.mk.sizeOf_spec] at hu ⊢
    obtain ⟨-, ⟨-, rfl⟩ | ⟨name, ps, -, rfl, hp⟩ | ⟨i, vs, -, rfl, hi⟩⟩ := of_mem_memberSteps hc
    · omega
    · have hw := List.sizeOf_lt_of_mem hp
      simp only [obj.sizeOf_spec, Prod.mk.sizeOf_spec] at hu hw
      omega
    · have hw := List.sizeOf_lt_of_mem (List.mem_of_getElem? hi)
      simp only [arr.sizeOf_spec] at hu
      omega
  | _ => cases h

/-- What holds of a value if it holds of all that is one step below it holds of every value. -/
theorem induct_steps {motive : Json → Prop}
    (step : ∀ v, (∀ s w, step? s v = some w → motive w) → motive v) (v : Json) : motive v :=
  step v fun _ w _ => induct_steps step w
termination_by sizeOf v
decreasing_by exact sizeOf_lt_of_mem_steps (mem_steps_of_step? ‹_›)

end Conform.Json
