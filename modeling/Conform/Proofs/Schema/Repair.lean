import Conform.Proofs.Schema.Places
import Conform.Schema.Repair

/-!
# What repairing does to the members of a schema

Repairing goes through a raw value once. Of an object each member is repaired by itself
(`repairMember`): a bound, what a step leads to, or nothing. So the places of a repaired value are
those of the value it was, and what is at a place has been repaired there.

* `lookup_repairMembers`: a repaired object, keyword by keyword.
* `at?_repair`: repairing does not change places.
* `hasCounts_at?_repair`: at each place of a repaired value there is an object whose bounds are
  counts.
* `lookup_at?_repair`: what is not repaired stays.
-/

set_option autoImplicit false

namespace Conform.Schema

open Json

/-- The value of a member that is repaired, if it is kept. -/
def repairMember (path : Path) (key : String) (v : Json) : Option Json :=
  if boundKeywords.contains key then
    if isCount v then some v else (coerceBound (isLowerBound key) v).map .nat
  else if key = "items" then some (repair path.items v).1
  else if key = "properties" then
    match v with
    | .obj ps => some (.obj (ps.map fun p => (p.1, (repair (path.child p.1) p.2).1)))
    | v => some v
  else if key = "allOf" then
    match v with
    | .arr vs => some (.arr (vs.map fun w => (repair path w).1))
    | v => some v
  else some v

/-- The keyword of a bound is none that a step goes through. -/
theorem ne_of_bound {key : String} (h : boundKeywords.contains key = true) :
    key ≠ "items" ∧ key ≠ "properties" ∧ key ≠ "allOf" := by
  refine ⟨?_, ?_, ?_⟩ <;> (rintro rfl; revert h; decide)

theorem memberSteps_of_bound {key : String} (h : boundKeywords.contains key = true) (v : Json) :
    memberSteps key v = [] := by
  have hne := ne_of_bound h
  rw [memberSteps.eq_def, if_neg hne.1, if_neg hne.2.1, if_neg hne.2.2]

theorem repairMember_of_bound {key : String} (h : boundKeywords.contains key = true) (path : Path)
    (v : Json) :
    repairMember path key v =
      if isCount v then some v else (coerceBound (isLowerBound key) v).map .nat := by
  rw [repairMember.eq_def, if_pos h]

/-- What is neither a bound nor has steps is not touched. -/
theorem repairMember_of_noSteps {key : String} {v : Json} (hs : NoSteps key v)
    (hkey : ¬ boundKeywords.contains key = true) (path : Path) :
    repairMember path key v = some v := by
  rw [repairMember.eq_def, if_neg hkey, if_neg hs.items]
  by_cases hproperties : key = "properties"
  · rw [if_pos hproperties]
    cases v with
    | obj ps => exact absurd rfl (hs.properties hproperties ps)
    | _ => rfl
  rw [if_neg hproperties]
  by_cases hallOf : key = "allOf"
  · rw [if_pos hallOf]
    cases v with
    | arr vs => exact absurd rfl (hs.allOf hallOf vs)
    | _ => rfl
  rw [if_neg hallOf]

/-- There is nothing to repair in a member, nor at a place below it: a bound that it gives is a
count, and it has no steps. -/
structure Kept (key : String) (v : Json) : Prop where
  count : key ∈ boundKeywords → isCount v = true
  noSteps : NoSteps key v

theorem repairMember_of_kept {key : String} {v : Json} (h : Kept key v) (path : Path) :
    repairMember path key v = some v := by
  by_cases hkey : boundKeywords.contains key = true
  · rw [repairMember_of_bound hkey, if_pos (h.count (List.contains_iff_mem.1 hkey))]
  · exact repairMember_of_noSteps h.noSteps hkey path

/-- The warnings about what steps through a member lead to: the last step comes first. -/
def memberWarnings (path : Path) (key : String) (v : Json) : List Warning :=
  (memberSteps key v).reverse.flatMap fun c => (repair (path ++ c.1.path) c.2).2

theorem repairNamed_eq (path : Path) (ps : List (String × Json)) :
    repairNamed path ps =
      (ps.map fun p => (p.1, (repair (path.child p.1) p.2).1),
        ps.reverse.flatMap fun p => (repair (path.child p.1) p.2).2) := by
  induction ps with
  | nil => rw [repairNamed]; rfl
  | cons p ps ih =>
    rw [repairNamed, ih, List.reverse_cons, List.flatMap_append]
    simp

theorem repairList_eq (path : Path) (vs : List Json) :
    repairList path vs =
      (vs.map fun w => (repair path w).1, vs.reverse.flatMap fun w => (repair path w).2) := by
  induction vs with
  | nil => rw [repairList]; rfl
  | cons v vs ih =>
    rw [repairList, ih, List.reverse_cons, List.flatMap_append]
    simp

/-- Each member is repaired by itself; the warnings about the first one come last. -/
theorem repairMembers_cons (path : Path) (key : String) (v : Json) (ms : List (String × Json)) :
    repairMembers path ((key, v) :: ms) =
      (((repairMember path key v).map (key, ·)).toList ++ (repairMembers path ms).1,
        (repairMembers path ms).2 ++ memberWarnings path key v) := by
  rw [repairMembers.eq_def, repairMember.eq_def, memberWarnings, memberSteps.eq_def]
  by_cases hbound : boundKeywords.contains key = true
  · have hne := ne_of_bound hbound
    simp only [if_pos hbound, if_neg hne.1, if_neg hne.2.1, if_neg hne.2.2, repairBound]
    by_cases hcount : isCount v = true
    · simp [hcount]
    · cases h : coerceBound (isLowerBound key) v <;> simp [hcount]
  simp only [if_neg hbound]
  by_cases hitems : key = "items"
  · simp [hitems, Step.path, Path.items]
  simp only [if_neg hitems]
  by_cases hproperties : key = "properties"
  · cases v with
    | obj ps =>
      simp [hproperties, repairNamed_eq, ← List.map_reverse, List.flatMap_map, Step.path,
        Path.child]
    | _ => simp [hproperties]
  simp only [if_neg hproperties]
  by_cases hallOf : key = "allOf"
  · cases v with
    | arr vs =>
      have hitems : vs.reverse = vs.zipIdx.reverse.map Prod.fst := by
        rw [List.map_reverse, List.zipIdx_map_fst]
      simp [hallOf, repairList_eq, hitems, ← List.map_reverse, List.flatMap_map, Step.path]
    | _ => simp [hallOf]
  simp [hallOf]

theorem fst_repairMembers (path : Path) (ms : List (String × Json)) :
    (repairMembers path ms).1 =
      ms.filterMap fun m => (repairMember path m.1 m.2).map (m.1, ·) := by
  induction ms with
  | nil => rw [repairMembers]; rfl
  | cons m ms ih =>
    rw [repairMembers_cons, ih, List.filterMap_cons]
    cases repairMember path m.1 m.2 <;> rfl

theorem snd_repairMembers (path : Path) (ms : List (String × Json)) :
    (repairMembers path ms).2 =
      (steps (.obj ms)).reverse.flatMap fun c => (repair (path ++ c.1.path) c.2).2 := by
  induction ms with
  | nil => rw [repairMembers]; rfl
  | cons m ms ih =>
    rw [repairMembers_cons, ih, memberWarnings, ← List.flatMap_append, ← List.reverse_append]
    rfl

theorem repair_obj (path : Path) (ms : List (String × Json)) :
    repair path (.obj ms) =
      (.obj (repairMembers path ms).1, boundWarnings path ms ++ (repairMembers path ms).2) := by
  rw [repair]

theorem repair_of_not_obj {v : Json} (hv : ∀ ms, v ≠ .obj ms) (path : Path) :
    repair path v = (.obj [], [⟨path, .nonObjectSchema v.compact⟩]) := by
  rw [repair]
  exact hv

/-- **A repaired object**, keyword by keyword. -/
theorem lookup_repairMembers {ms : List (String × Json)} (hms : KeyMap.Sorted ms) (path : Path)
    (key : String) :
    (repairMembers path ms).1.lookup key = (ms.lookup key).bind (repairMember path key) := by
  rw [fst_repairMembers]
  exact hms.lookup_filterMap (repairMember path) key

theorem get?_repair {v : Json} (hv : v.Sorted) (path : Path) (key : String) :
    (repair path v).1.get? key = (v.get? key).bind (repairMember path key) := by
  cases hv with
  | obj ascending _ =>
    rw [repair_obj]
    exact lookup_repairMembers ascending path key
  | _ =>
    rw [repair_of_not_obj (by simp)]
    rfl

/-! ## Places -/

/-- The keyword of a step is repaired by repairing all that steps through it lead to. -/
theorem bind_repairMember_into? (path : Path) (s : Step) (v : Json) :
    (repairMember path s.key v).bind s.into? =
      (s.into? v).map fun w => (repair (path ++ s.path) w).1 := by
  cases s with
  | property name =>
    cases v with
    | obj ps => exact KeyMap.lookup_mapWith (fun name w => (repair (path.child name) w).1) ps name
    | _ => rfl
  | items => rfl
  | entry i =>
    cases v with
    | arr vs =>
      show (vs.map fun w => (repair path w).1)[i]? = _
      rw [List.getElem?_map, Step.path, List.append_nil]
      rfl
    | _ => rfl

theorem step?_repair {v : Json} (hv : v.Sorted) (path : Path) (s : Step) :
    step? s (repair path v).1 = (step? s v).map fun w => (repair (path ++ s.path) w).1 := by
  rw [step?, step?, get?_repair hv, Option.bind_assoc, Option.map_bind]
  exact congrArg (Option.bind _) (funext (bind_repairMember_into? path s))

/-- **Places stay**, and what is at a place is repaired there. -/
theorem at?_repair {v : Json} (hv : v.Sorted) (path : Path) (p : Place) :
    at? p (repair path v).1 = (at? p v).map fun w => (repair (path ++ Place.path p) w).1 := by
  induction p generalizing path v with
  | nil =>
    rw [at?, at?, Place.path, List.flatMap_nil, List.append_nil]
    rfl
  | cons s p ih =>
    rw [at?, at?, step?_repair hv]
    cases hs : step? s v with
    | none => rfl
    | some w =>
      rw [Option.map_some, Option.bind_some, Option.bind_some, ih (hv.step hs), Place.path,
        Place.path, List.flatMap_cons, List.append_assoc]

/-! ## Repaired values -/

theorem coerceBound_lt {lower : Bool} {v : Json} {n : Nat} (h : coerceBound lower v = some n) :
    n < Nat.pow 2 64 := by
  have hmax : maxCount < Nat.pow 2 64 := by decide
  have hpos : 0 < Nat.pow 2 64 := by decide
  cases v with
  | num x =>
    rw [coerceBound] at h
    by_cases hfinite : (!x.toBinary64.isFinite) = true
    · rw [if_pos hfinite] at h
      cases h
    rw [if_neg hfinite] at h
    generalize (if lower = true then x.toBinary64.ceil else x.toBinary64.floor) = i at h
    by_cases hi : 0 ≤ i
    · simp only [if_pos hi, Option.some.injEq] at h
      omega
    · simp only [if_neg hi, Option.ite_none_right_eq_some, Option.some.injEq] at h
      omega
  | _ => cases h

/-- A bound that is put in the place of another one is a count. -/
theorem isCount_of_coerceBound {lower : Bool} {v : Json} {n : Nat}
    (h : coerceBound lower v = some n) : isCount (.nat n) = true := by
  have hn := coerceBound_lt h
  simp [isCount, Json.nat, Number.isCount, hn]

/-- The value is an object whose bounds are counts. -/
def HasCounts (v : Json) : Prop :=
  ∃ ms, v = .obj ms ∧
    ∀ keyword ∈ boundKeywords, ∀ b, ms.lookup keyword = some b → isCount b = true

/-- At every place of a repaired value there is an object whose bounds are counts. -/
theorem hasCounts_at?_repair {v w : Json} (hv : v.Sorted) {path : Path} {p : Place}
    (h : at? p (repair path v).1 = some w) : HasCounts w := by
  rw [at?_repair hv, Option.map_eq_some_iff] at h
  obtain ⟨u, hu, rfl⟩ := h
  cases u with
  | obj ms =>
    rw [repair_obj]
    refine ⟨_, rfl, fun keyword hk b hb => ?_⟩
    cases hv.at hu with
    | obj ascending _ =>
      rw [lookup_repairMembers ascending, Option.bind_eq_some_iff] at hb
      obtain ⟨c, -, hb⟩ := hb
      rw [repairMember_of_bound (List.contains_iff_mem.2 hk)] at hb
      split at hb
      · cases hb
        assumption
      · obtain ⟨n, hn, rfl⟩ := Option.map_eq_some_iff.1 hb
        exact isCount_of_coerceBound hn
  | _ =>
    rw [repair_of_not_obj (by simp)]
    exact ⟨[], rfl, by simp⟩

/-- An object at a place stays one, with all its members but those that are repaired. -/
theorem lookup_at?_repair {v : Json} (hv : v.Sorted) (path : Path) {p : Place}
    {ms : List (String × Json)} (h : at? p v = some (.obj ms)) :
    ∃ ms', at? p (repair path v).1 = some (.obj ms') ∧
      ∀ key, (∀ u, ms.lookup key = some u → Kept key u) → ms'.lookup key = ms.lookup key := by
  rw [at?_repair hv, h]
  refine ⟨_, by rw [Option.map_some, repair_obj], fun key hkey => ?_⟩
  cases hv.at h with
  | obj ascending _ =>
    rw [lookup_repairMembers ascending]
    cases hu : ms.lookup key with
    | none => rfl
    | some u => exact repairMember_of_kept (hkey u hu) _

/-- A repaired value is sorted. -/
theorem sorted_repair {v : Json} (hv : v.Sorted) (path : Path) : (repair path v).1.Sorted := by
  induction v using induct_steps generalizing path with
  | step v ih =>
    cases hv with
    | @obj ms ascending members =>
      have hv : (obj ms).Sorted := .obj ascending members
      -- a property or an entry is no member of the object, so the induction is on steps
      have hstep : ∀ key u s w, (key, u) ∈ ms → (s, w) ∈ memberSteps key u → ∀ path,
          (repair path w).1.Sorted := by
        intro key u s w hm hs path
        have hw := (mem_steps hv).1 (List.mem_flatMap.2 ⟨_, hm, hs⟩)
        exact ih s w hw (hv.step hw) path
      rw [repair_obj, fst_repairMembers]
      refine .obj (ascending.filterMap (repairMember path)) fun ⟨key, u⟩ hm => ?_
      obtain ⟨u, hu, hrepair⟩ := KeyMap.mem_filterMap.1 hm
      by_cases hkey : boundKeywords.contains key = true
      · rw [repairMember_of_bound hkey] at hrepair
        split at hrepair
        · cases hrepair
          exact members _ hu
        · obtain ⟨n, -, rfl⟩ := Option.map_eq_some_iff.1 hrepair
          exact .num _
      obtain ⟨rfl, hs⟩ | ⟨ps, rfl, rfl, hs⟩ | ⟨vs, rfl, rfl, hs⟩ | ⟨hno, hs⟩ :=
        memberSteps_cases key u
      · cases hrepair
        exact hstep _ u .items u hu (by rw [hs]; exact List.mem_singleton.2 rfl) _
      · cases hrepair
        cases members _ hu with
        | obj ascending' _ =>
          refine .obj (ascending'.mapWith fun name w => (repair (path.child name) w).1)
            fun p hp => ?_
          obtain ⟨q, hq, rfl⟩ := List.mem_map.1 hp
          exact hstep _ _ (.property q.1) q.2 hu (by rw [hs]; exact List.mem_map.2 ⟨q, hq, rfl⟩) _
      · cases hrepair
        refine .arr fun w hw => ?_
        obtain ⟨z, hz, rfl⟩ := List.mem_map.1 hw
        obtain ⟨i, hi⟩ := List.mem_iff_getElem?.1 hz
        exact hstep _ _ (.entry i) z hu (by
          rw [hs]
          exact List.mem_map.2 ⟨(z, i), List.mem_zipIdx_iff_getElem?.2 hi, rfl⟩) _
      · rw [repairMember_of_noSteps hno hkey] at hrepair
        cases hrepair
        exact members _ hu
    | _ =>
      rw [repair_of_not_obj (by simp)]
      exact .obj KeyMap.sorted_nil (by simp)

end Conform.Schema
