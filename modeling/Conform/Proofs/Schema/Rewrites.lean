import Conform.Proofs.Schema.Repair
import Mathlib.Data.List.Basic

/-!
# Repairing as a list of rewrites

A `Fault` is what repairing finds wrong at a place: something that is no object, or a bound that is
no count. A `Rewrite` mends one fault at one place and leaves the rest of the value as it is.
Repairing a value is one rewrite for each of its faults (`foldl_apply_all`), in an order in which
every place comes before those below it, and each rewrite is reported once (`map_warning_all`).

* `mem_all`: a rewrite is made if its fault is in the value.
* `repair_exact`: what repairing does to a value and what it reports.
-/

set_option autoImplicit false

namespace Conform

open Json

/-! ## Choosing by a key -/

/-- Of lists with a key each, whose elements have it as their name, those of one name are the list
with this key. -/
theorem filter_flatMap_eq {α β κ : Type} [DecidableEq κ] {l : List α} {f : α → List β} {k : α → κ}
    {name : β → κ} (hd : l.Pairwise fun a b => k a ≠ k b)
    (hf : ∀ a ∈ l, ∀ b ∈ f a, name b = k a) {a : α} (ha : a ∈ l) :
    (l.flatMap f).filter (fun b => name b = k a) = f a := by
  induction l with
  | nil => cases ha
  | cons c l ih =>
    obtain ⟨hc, hl⟩ := List.pairwise_cons.1 hd
    rw [List.flatMap_cons, List.filter_append]
    rcases List.mem_cons.1 ha with rfl | ha
    · have hown : (f a).filter (fun b => name b = k a) = f a :=
        List.filter_eq_self.2 fun b hb => by simp [hf a List.mem_cons_self b hb]
      have hrest : (l.flatMap f).filter (fun b => name b = k a) = [] := by
        refine List.filter_eq_nil_iff.2 fun b hb => ?_
        obtain ⟨d, hd, hb⟩ := List.mem_flatMap.1 hb
        simpa [hf d (List.mem_cons_of_mem _ hd) b hb] using (hc d hd).symm
      rw [hown, hrest, List.append_nil]
    · have hother : (f c).filter (fun b => name b = k a) = [] := by
        refine List.filter_eq_nil_iff.2 fun b hb => ?_
        simpa [hf c List.mem_cons_self b hb] using hc a ha
      rw [hother, List.nil_append]
      exact ih hl (fun d hd => hf d (List.mem_cons_of_mem _ hd)) ha

namespace Json

/-! ## Changing a value in one place -/

/-- Changes the value of a member, or leaves the member out. -/
def alterMember (key : String) (f : Json → Option Json) : Json → Json
  | obj ms => obj (ms.filterMap fun m => if m.1 = key then (f m.2).map (m.1, ·) else some m)
  | v => v

/-- Changes an item of a list. -/
def alterItem (i : Nat) (f : Json → Json) : Json → Json
  | arr vs => arr (vs.modify i f)
  | v => v

/-- Changes what a step leads to, in the value of its keyword. -/
def Step.within (f : Json → Json) : Step → Json → Json
  | property name, v => v.alterMember name fun w => some (f w)
  | items, v => f v
  | entry i, v => v.alterItem i f

/-- Changes what is at a place. -/
def alterAt (f : Json → Json) : Place → Json → Json
  | [], v => f v
  | s :: p, v => v.alterMember s.key fun u => some (s.within (alterAt f p) u)

/-- What the changes that are meant for a member make of its value, one after the other. -/
def changed (es : List (String × (Json → Option Json))) (m : String × Json) : Option Json :=
  (es.filter fun e => e.1 = m.1).foldlM (fun u e => e.2 u) m.2

/-- Changes to the members of an object, one after the other, change each member by those that are
meant for it. -/
theorem foldl_alterMember (es : List (String × (Json → Option Json)))
    (ms : List (String × Json)) :
    es.foldl (fun v e => v.alterMember e.1 e.2) (obj ms) =
      obj (ms.filterMap fun m => (changed es m).map (m.1, ·)) := by
  induction es generalizing ms with
  | nil => exact congrArg obj List.filterMap_some.symm
  | cons e es ih =>
    rw [List.foldl_cons, alterMember, ih, List.filterMap_filterMap]
    congr 2
    funext m
    by_cases hm : m.1 = e.1
    · have hcons : changed (e :: es) m = (e.2 m.2).bind fun u => changed es (m.1, u) := by
        simp only [changed]
        rw [List.filter_cons_of_pos (by simpa using hm.symm), List.foldlM_cons]
        rfl
      rw [if_pos hm, hcons]
      cases e.2 m.2 <;> rfl
    · have hcons : changed (e :: es) m = changed es m := by
        simp only [changed]
        rw [List.filter_cons_of_neg (by simpa using Ne.symm hm)]
      rw [if_neg hm, hcons]
      rfl

theorem changed_append (es fs : List (String × (Json → Option Json))) (m : String × Json) :
    changed (es ++ fs) m = (changed es m).bind fun u => changed fs (m.1, u) := by
  rw [changed, List.filter_append, List.foldlM_append]
  rfl

/-- Changes that never leave a member out. -/
theorem changed_of_filter_eq {α : Type} {es : List (String × (Json → Option Json))}
    {m : String × Json} {l : List α} {g : α → Json → Json}
    (h : (es.filter fun e => e.1 = m.1) = l.map fun a => (m.1, fun u => some (g a u))) :
    changed es m = some (l.foldl (fun u a => g a u) m.2) := by
  rw [changed, h, List.foldlM_map]
  exact List.foldlM_pure

/-- Changes to the items of a list, one after the other, change each item by those that are meant
for it. -/
theorem foldl_alterItem (es : List (Nat × (Json → Json))) (vs : List Json) :
    es.foldl (fun v e => v.alterItem e.1 e.2) (arr vs) =
      arr (vs.mapIdx fun i v => (es.filter fun e => e.1 = i).foldl (fun u e => e.2 u) v) := by
  induction es generalizing vs with
  | nil =>
    refine congrArg arr (List.ext_getElem? fun i => ?_)
    simp
  | cons e es ih =>
    rw [List.foldl_cons, alterItem, ih]
    refine congrArg arr (List.ext_getElem? fun i => ?_)
    rw [List.getElem?_mapIdx, List.getElem?_mapIdx, List.getElem?_modify]
    by_cases hi : e.1 = i
    · cases vs[i]? <;> simp [hi]
    · cases vs[i]? <;> simp [hi]

end Json

/-! ## Faults -/

/-- What may be wrong at the place of a schema: what is there is no object, or a bound is no
count. -/
inductive Fault
  | notObject (found : Json)
  | bound (keyword : String) (found : Json)

namespace Fault

open Schema

/-- The fault is one of a value. -/
def IsIn (v : Json) : Fault → Prop
  | notObject found => found = v ∧ ∀ ms, v ≠ .obj ms
  | bound keyword found =>
    keyword ∈ boundKeywords ∧ v.get? keyword = some found ∧ isCount found = false

/-- How a fault is reported. -/
def kind : Fault → WarningKind
  | notObject found => .nonObjectSchema found.compact
  | bound keyword found =>
    .coercedBound keyword found.compact (coerceBound (isLowerBound keyword) found)

/-- The value in which a fault is mended: what is no object becomes an empty one, and a bound the
count that is used in its place, if there is one. -/
def mend : Fault → Json → Json
  | notObject _, _ => .obj []
  | bound keyword found, v =>
    v.alterMember keyword fun _ => (coerceBound (isLowerBound keyword) found).map .nat

/-- The faults of a value, in the order in which they are found. -/
def all : Json → List Fault
  | .obj ms => boundKeywords.filterMap fun keyword =>
      ((ms.lookup keyword).filter fun b => !isCount b).map (bound keyword)
  | v => [notObject v]

theorem mem_all {v : Json} {f : Fault} : f ∈ all v ↔ f.IsIn v := by
  cases v with
  | obj ms =>
    cases f with
    | notObject found => simp [all, IsIn]
    | bound keyword found =>
      simp only [all, IsIn, Json.get?, List.mem_filterMap, Option.map_eq_some_iff,
        Option.filter_eq_some_iff, bound.injEq]
      constructor
      · rintro ⟨_, hk, _, ⟨hl, hc⟩, rfl, rfl⟩
        exact ⟨hk, hl, by simpa using hc⟩
      · rintro ⟨hk, hl, hc⟩
        exact ⟨keyword, hk, found, ⟨hl, by simpa using hc⟩, rfl, rfl⟩
  | _ => cases f <;> simp [all, IsIn, Json.get?]

theorem nodup_all (v : Json) : (all v).Nodup := by
  cases v with
  | obj ms =>
    have hkeywords : boundKeywords.Nodup := by decide
    refine List.Pairwise.filterMap _ (fun k l hne f hf g hg he => ?_) hkeywords
    obtain ⟨b, -, rfl⟩ := Option.map_eq_some_iff.1 hf
    obtain ⟨c, -, rfl⟩ := Option.map_eq_some_iff.1 hg
    exact hne (Fault.bound.inj he).1
  | _ => exact List.pairwise_singleton _ _

theorem boundWarnings_eq (path : Path) (ms : List (String × Json)) :
    boundWarnings path ms = (all (.obj ms)).map fun f => ⟨path, f.kind⟩ := by
  rw [boundWarnings, all, List.map_filterMap]
  congr 1
  funext keyword
  cases ms.lookup keyword with
  | none => rfl
  | some b => cases hb : isCount b <;> simp [hb, kind, Option.filter]

end Fault

/-! ## Rewrites -/

/-- A fault at a place, to be mended there. -/
structure Rewrite where
  place : Place
  fault : Fault

namespace Rewrite

open Schema

/-- There is this fault at this place of a value. -/
def Due (v : Json) (r : Rewrite) : Prop := ∃ w, at? r.place v = some w ∧ r.fault.IsIn w

/-- The value in which the fault is mended at its place. -/
def apply (r : Rewrite) (v : Json) : Json := alterAt r.fault.mend r.place v

/-- How a rewrite is reported when the value is at a path. -/
def warning (path : Path) (r : Rewrite) : Warning := ⟨path ++ r.place.path, r.fault.kind⟩

/-- The rewrite one step above. -/
def under (s : Step) (r : Rewrite) : Rewrite := ⟨s :: r.place, r.fault⟩

/-- The rewrites of a value, in the order in which they are made: its own faults, then those below
it, what the last step leads to first. -/
def all (v : Json) : List Rewrite :=
  (Fault.all v).map (⟨[], ·⟩) ++
    v.steps.reverse.attach.flatMap fun c => (all c.1.2).map (under c.1.1)
termination_by sizeOf v
decreasing_by exact sizeOf_lt_of_mem_steps (List.mem_reverse.1 c.2)

theorem all_eq (v : Json) :
    all v = (Fault.all v).map (⟨[], ·⟩) ++
      v.steps.reverse.flatMap fun c => (all c.2).map (under c.1) := by
  have hattach : v.steps.reverse.attach.map Subtype.val = v.steps.reverse :=
    List.attach_map_subtype_val _
  rw [all, ← List.flatMap_map Subtype.val fun c : Step × Json => (all c.2).map (under c.1), hattach]

theorem under_injective {s : Step} {r r' : Rewrite} (h : under s r = under s r') : r = r' := by
  cases r
  cases r'
  cases h
  rfl

/-- **A rewrite is made if its fault is there.** -/
theorem mem_all {v : Json} (hv : v.Sorted) {r : Rewrite} : r ∈ all v ↔ r.Due v := by
  induction v using induct_steps generalizing r with
  | step v ih =>
    obtain ⟨place, fault⟩ := r
    rw [all_eq, List.mem_append, Due]
    cases place with
    | nil =>
      have hbelow : ∀ c : Step × Json, ⟨[], fault⟩ ∉ (all c.2).map (under c.1) := by
        intro c hc
        obtain ⟨_, -, he⟩ := List.mem_map.1 hc
        cases he
      simp [at?, Fault.mem_all, hbelow]
    | cons s p =>
      have hown : (⟨s :: p, fault⟩ : Rewrite) ∉ (Fault.all v).map (⟨[], ·⟩) := by
        intro hc
        obtain ⟨_, -, he⟩ := List.mem_map.1 hc
        cases he
      rw [or_iff_right hown, List.mem_flatMap]
      simp only [at?, Option.bind_eq_some_iff]
      constructor
      · rintro ⟨⟨t, w⟩, hc, hm⟩
        obtain ⟨r, hr, he⟩ := List.mem_map.1 hm
        cases he
        have hw := (mem_steps hv).1 (List.mem_reverse.1 hc)
        obtain ⟨u, hu, hf⟩ := (ih t w hw (hv.step hw)).1 hr
        exact ⟨u, ⟨w, hw, hu⟩, hf⟩
      · rintro ⟨u, ⟨w, hw, hu⟩, hf⟩
        have hr : ⟨p, fault⟩ ∈ all w := (ih s w hw (hv.step hw)).2 ⟨u, hu, hf⟩
        exact ⟨(s, w), List.mem_reverse.2 (mem_steps_of_step? hw), List.mem_map.2 ⟨_, hr, rfl⟩⟩

/-- No rewrite is made twice. -/
theorem nodup_all {v : Json} (hv : v.Sorted) : (all v).Nodup := by
  induction v using induct_steps with
  | step v ih =>
    rw [all_eq, List.nodup_append]
    refine ⟨?_, ?_, ?_⟩
    · exact List.Pairwise.map _ (fun f g hne he => hne (Rewrite.mk.inj he).2) (Fault.nodup_all v)
    · refine List.pairwise_flatMap.2 ⟨fun c hc => ?_, ?_⟩
      · have hstep := (mem_steps hv).1 (List.mem_reverse.1 hc)
        exact List.Pairwise.map _ (fun r r' hne he => hne (under_injective he))
          (ih c.1 c.2 hstep (hv.step hstep))
      · refine (List.pairwise_reverse.2 (pairwise_steps_ne hv)).imp fun hne r hr r' hr' he => ?_
        obtain ⟨_, -, rfl⟩ := List.mem_map.1 hr
        obtain ⟨_, -, rfl⟩ := List.mem_map.1 hr'
        exact hne (List.cons.inj (Rewrite.mk.inj he).1).1.symm
    · intro r hr r' hr' he
      obtain ⟨_, -, rfl⟩ := List.mem_map.1 hr
      obtain ⟨c, -, hr'⟩ := List.mem_flatMap.1 hr'
      obtain ⟨_, -, rfl⟩ := List.mem_map.1 hr'
      cases he

/-- **Every rewrite is reported**, and nothing else is. -/
theorem map_warning_all {v : Json} (hv : v.Sorted) (path : Path) :
    (all v).map (warning path) = (repair path v).2 := by
  induction v using induct_steps generalizing path with
  | step v ih =>
    have hbelow : (v.steps.reverse.flatMap fun c => (all c.2).map (under c.1)).map (warning path) =
        v.steps.reverse.flatMap fun c => (repair (path ++ c.1.path) c.2).2 := by
      rw [List.map_flatMap]
      refine List.flatMap_congr fun c hc => ?_
      have hstep := (mem_steps hv).1 (List.mem_reverse.1 hc)
      rw [← ih c.1 c.2 hstep (hv.step hstep), List.map_map]
      refine List.map_congr_left fun r _ => ?_
      simp only [Function.comp, warning, under, Place.path, List.flatMap_cons, List.append_assoc]
    have hown : ((Fault.all v).map (⟨[], ·⟩)).map (warning path) =
        (Fault.all v).map fun f => (⟨path, f.kind⟩ : Warning) := by
      rw [List.map_map]
      refine List.map_congr_left fun f _ => ?_
      simp only [Function.comp, warning, Place.path, List.flatMap_nil, List.append_nil]
    rw [all_eq, List.map_append, hbelow, hown]
    cases v with
    | obj ms =>
      rw [repair_obj, snd_repairMembers, Fault.boundWarnings_eq]
    | _ =>
      rw [repair_of_not_obj (by simp)]
      rfl

/-! ## The rewrites of an object -/

/-- The changes that mend the bounds of an object. -/
def boundChanges (ms : List (String × Json)) : List (String × (Json → Option Json)) :=
  boundKeywords.flatMap fun k => (((ms.lookup k).filter fun b => !isCount b).map fun b =>
    (k, fun _ => (coerceBound (isLowerBound k) b).map .nat)).toList

/-- The changes to what the steps from an object lead to. -/
def stepChanges (ms : List (String × Json)) : List (String × (Json → Option Json)) :=
  (steps (.obj ms)).reverse.flatMap fun c =>
    (all c.2).map fun r => (c.1.key, fun u => some (c.1.within r.apply u))

/-- The rewrites of an object are changes to its members. -/
theorem foldl_all_obj (ms : List (String × Json)) (v : Json) :
    (all (.obj ms)).foldl (fun u r => r.apply u) v =
      (boundChanges ms ++ stepChanges ms).foldl (fun u e => u.alterMember e.1 e.2) v := by
  rw [all_eq, List.foldl_append, List.foldl_append]
  have hbounds : ((Fault.all (.obj ms)).map (⟨[], ·⟩)).foldl (fun u (r : Rewrite) => r.apply u) v =
      (boundChanges ms).foldl (fun u e => u.alterMember e.1 e.2) v := by
    rw [Fault.all, boundChanges, List.foldl_map, List.foldl_filterMap, List.foldl_flatMap]
    congr 1
    funext u k
    cases (ms.lookup k).filter fun b => !isCount b <;> rfl
  rw [hbounds, stepChanges, List.foldl_flatMap, List.foldl_flatMap]
  congr 1
  funext u c
  rw [List.foldl_map, List.foldl_map]
  rfl

/-- A bound that is no count is changed, every other member is not. -/
theorem changed_boundChanges {ms : List (String × Json)} {key : String} {u : Json}
    (hu : ms.lookup key = some u) :
    changed (boundChanges ms) (key, u) =
      if boundKeywords.contains key then
        if isCount u then some u else (coerceBound (isLowerBound key) u).map .nat
      else some u := by
  have hname : ∀ k ∈ boundKeywords, ∀ e ∈ (((ms.lookup k).filter fun b => !isCount b).map
      fun b => (k, fun _ : Json => (coerceBound (isLowerBound k) b).map Json.nat)).toList,
      e.1 = k := by
    intro k _ e he
    obtain ⟨b, -, rfl⟩ := Option.map_eq_some_iff.1 (Option.mem_toList.1 he)
    rfl
  rw [changed, boundChanges]
  by_cases hkey : key ∈ boundKeywords
  · have hd : boundKeywords.Pairwise fun k l => k ≠ l := by decide
    rw [filter_flatMap_eq (k := fun keyword => keyword) hd hname hkey, hu,
      if_pos (List.contains_iff_mem.2 hkey)]
    cases hc : isCount u <;> simp [Option.filter, hc]
  · have hnone : ((boundKeywords.flatMap fun k => (((ms.lookup k).filter fun b => !isCount b).map
        fun b => (k, fun _ : Json => (coerceBound (isLowerBound k) b).map Json.nat)).toList).filter
          fun e => e.1 = key) = [] := by
      refine List.filter_eq_nil_iff.2 fun e he => ?_
      obtain ⟨k, hk, he⟩ := List.mem_flatMap.1 he
      rw [hname k hk e he, decide_eq_true_eq]
      exact fun hek => hkey (hek ▸ hk)
    rw [hnone, if_neg (by simpa using hkey)]
    rfl

/-- The steps through a member change its value, one after the other. -/
theorem changed_stepChanges {ms : List (String × Json)} (hms : KeyMap.Sorted ms) {key : String}
    {u : Json} (hu : (key, u) ∈ ms) (w : Json) :
    changed (stepChanges ms) (key, w) =
      some (((memberSteps key u).reverse.flatMap fun c => (all c.2).map fun r => (c.1, r)).foldl
        (fun w c => c.1.within c.2.apply w) w) := by
  refine changed_of_filter_eq (g := fun (c : Step × Rewrite) w => c.1.within c.2.apply w) ?_
  have hmembers : stepChanges ms = ms.reverse.flatMap fun m =>
      (memberSteps m.1 m.2).reverse.flatMap fun c =>
        (all c.2).map fun r => (c.1.key, fun u => some (c.1.within r.apply u)) := by
    rw [stepChanges, steps, List.reverse_flatMap, List.flatMap_assoc]
    rfl
  have hkey : ∀ m : String × Json, ∀ c ∈ memberSteps m.1 m.2, c.1.key = m.1 :=
    fun m c hc => (of_mem_memberSteps hc).1.symm
  have hname : ∀ m ∈ ms.reverse, ∀ e ∈ (memberSteps m.1 m.2).reverse.flatMap (fun c =>
      (all c.2).map fun r => (c.1.key, fun u => some (c.1.within r.apply u))), e.1 = m.1 := by
    intro m _ e he
    obtain ⟨c, hc, he⟩ := List.mem_flatMap.1 he
    obtain ⟨r, -, rfl⟩ := List.mem_map.1 he
    exact hkey m c (List.mem_reverse.1 hc)
  rw [hmembers]
  refine (filter_flatMap_eq hms.pairwise_reverse_ne hname (List.mem_reverse.2 hu)).trans ?_
  rw [List.map_flatMap]
  refine List.flatMap_congr fun c hc => ?_
  rw [List.map_map, hkey (key, u) c (List.mem_reverse.1 hc)]
  rfl

/-- Changes to the properties in an object. -/
theorem foldl_within_properties {ps : List (String × Json)} (hps : KeyMap.Sorted ps) :
    ((ps.map fun p => (Step.property p.1, p.2)).reverse.flatMap fun c =>
      (all c.2).map fun r => (c.1, r)).foldl (fun w c => c.1.within c.2.apply w) (obj ps) =
      obj (ps.map fun p => (p.1, (all p.2).foldl (fun w r => r.apply w) p.2)) := by
  have hchanges := foldl_alterMember
    (ps.reverse.flatMap fun p => (all p.2).map fun r => (p.1, fun w => some (r.apply w))) ps
  rw [List.foldl_flatMap] at hchanges
  rw [← List.map_reverse, List.flatMap_map, List.foldl_flatMap]
  -- the same changes, first as changes to the object, then to each of its properties
  refine Eq.trans ?_ (hchanges.trans (congrArg obj ?_))
  · congr 1
    funext w p
    rw [List.foldl_map, List.foldl_map]
    rfl
  · rw [← List.filterMap_eq_map]
    refine List.filterMap_congr fun p hp => ?_
    have hname : ∀ q ∈ ps.reverse, ∀ e ∈ (all q.2).map
        (fun r => (q.1, fun w => some (r.apply w))), e.1 = q.1 := by
      intro q _ e he
      obtain ⟨r, -, rfl⟩ := List.mem_map.1 he
      rfl
    rw [changed_of_filter_eq (g := fun (r : Rewrite) w => r.apply w)
      (filter_flatMap_eq hps.pairwise_reverse_ne hname (List.mem_reverse.2 hp))]
    rfl

/-- Changes to the entries of a list. -/
theorem foldl_within_entries (vs : List Json) :
    ((vs.zipIdx.map fun e => (Step.entry e.2, e.1)).reverse.flatMap fun c =>
      (all c.2).map fun r => (c.1, r)).foldl (fun w c => c.1.within c.2.apply w) (arr vs) =
      arr (vs.map fun v => (all v).foldl (fun w r => r.apply w) v) := by
  have hchanges := foldl_alterItem
    (vs.zipIdx.reverse.flatMap fun e => (all e.1).map fun r => (e.2, r.apply)) vs
  rw [List.foldl_flatMap] at hchanges
  rw [← List.map_reverse, List.flatMap_map, List.foldl_flatMap]
  refine Eq.trans ?_ (hchanges.trans (congrArg arr ?_))
  · congr 1
    funext w e
    rw [List.foldl_map, List.foldl_map]
    rfl
  · refine List.ext_getElem? fun i => ?_
    rw [List.getElem?_mapIdx, List.getElem?_map]
    cases hi : vs[i]? with
    | none => rfl
    | some v =>
      have hd : vs.zipIdx.reverse.Pairwise fun e f => e.2 ≠ f.2 :=
        List.pairwise_reverse.2 ((pairwise_zipIdx_ne vs).imp Ne.symm)
      have hname : ∀ f ∈ vs.zipIdx.reverse, ∀ e ∈ (all f.1).map (fun r => (f.2, r.apply)),
          e.1 = f.2 := by
        intro f _ e he
        obtain ⟨r, -, rfl⟩ := List.mem_map.1 he
        rfl
      have hm : (v, i) ∈ vs.zipIdx.reverse :=
        List.mem_reverse.2 (List.mem_zipIdx_iff_getElem?.2 hi)
      rw [Option.map_some, Option.map_some, filter_flatMap_eq hd hname hm, List.foldl_map]

/-- What the steps through a member make of its value, if all that they lead to is repaired by its
rewrites. -/
theorem foldl_within_memberSteps {path : Path} {key : String} {u : Json} (hu : u.Sorted)
    (hkey : ¬ boundKeywords.contains key = true)
    (ih : ∀ s w, (s, w) ∈ memberSteps key u →
      (all w).foldl (fun w r => r.apply w) w = (repair (path ++ s.path) w).1) :
    some (((memberSteps key u).reverse.flatMap fun c => (all c.2).map fun r => (c.1, r)).foldl
      (fun w c => c.1.within c.2.apply w) u) = repairMember path key u := by
  obtain ⟨rfl, hs⟩ | ⟨ps, rfl, rfl, hs⟩ | ⟨vs, rfl, rfl, hs⟩ | ⟨hno, hs⟩ := memberSteps_cases key u
  · have h := ih .items u (by rw [hs]; exact List.mem_singleton.2 rfl)
    rw [hs, List.reverse_singleton, List.flatMap_singleton, List.foldl_map]
    exact congrArg some h
  · cases hu with
    | obj ascending _ =>
      rw [hs, foldl_within_properties ascending]
      refine congrArg (fun ps => some (obj ps)) (List.map_congr_left fun p hp => ?_)
      exact congrArg _ (ih (.property p.1) p.2 (by rw [hs]; exact List.mem_map.2 ⟨p, hp, rfl⟩))
  · rw [hs, foldl_within_entries]
    refine congrArg (fun vs => some (arr vs)) (List.map_congr_left fun v hv => ?_)
    obtain ⟨i, hi⟩ := List.mem_iff_getElem?.1 hv
    have h := ih (.entry i) v (by
      rw [hs]
      exact List.mem_map.2 ⟨(v, i), List.mem_zipIdx_iff_getElem?.2 hi, rfl⟩)
    rwa [Step.path, List.append_nil] at h
  · rw [hs, repairMember_of_noSteps hno hkey]
    rfl

/-- **The rewrites of a value repair it.** -/
theorem foldl_apply_all {v : Json} (hv : v.Sorted) (path : Path) :
    (all v).foldl (fun u r => r.apply u) v = (repair path v).1 := by
  induction v using induct_steps generalizing path with
  | step v ih =>
    cases hv with
    | @obj ms ascending members =>
      have hv : (obj ms).Sorted := .obj ascending members
      -- member by member: the own bounds of the object first, then the steps through the member
      rw [foldl_all_obj, foldl_alterMember, repair_obj, fst_repairMembers]
      refine congrArg obj (List.filterMap_congr fun m hm => congrArg (Option.map _) ?_)
      obtain ⟨key, u⟩ := m
      rw [changed_append, changed_boundChanges (ascending.lookup_eq_some_iff.2 hm)]
      by_cases hkey : boundKeywords.contains key = true
      · have hsteps : (fun w => changed (stepChanges ms) (key, w)) = some := by
          funext w
          rw [changed_stepChanges ascending hm, memberSteps_of_bound hkey]
          rfl
        rw [if_pos hkey, hsteps, Option.bind_fun_some, repairMember_of_bound hkey]
      · rw [if_neg hkey, Option.bind_some, changed_stepChanges ascending hm]
        refine foldl_within_memberSteps (members _ hm) hkey fun s w hs => ?_
        have hstep : step? s (obj ms) = some w :=
          (mem_steps hv).1 (List.mem_flatMap.2 ⟨_, hm, hs⟩)
        exact ih s w hstep (hv.step hstep) _
    | _ =>
      rw [repair_of_not_obj (by simp), all_eq]
      rfl

end Rewrite

/-! ## Repairing exactly -/

namespace Schema

/-- In a repaired value there is nothing to rewrite. -/
theorem not_due_repair {v : Json} (hv : v.Sorted) (path : Path) (r : Rewrite) :
    ¬ r.Due (repair path v).1 := by
  rintro ⟨w, hw, hf⟩
  obtain ⟨ms, rfl, hcount⟩ := hasCounts_at?_repair hv hw
  cases hr : r.fault with
  | notObject found =>
    rw [hr] at hf
    exact hf.2 ms rfl
  | bound keyword found =>
    rw [hr] at hf
    obtain ⟨hk, hfound, hc⟩ := hf
    rw [hcount keyword hk found hfound] at hc
    cases hc

/-- Without rewrites a value stays and nothing is reported. -/
theorem repair_eq_of_not_due {v : Json} (hv : v.Sorted) (h : ∀ r : Rewrite, ¬ r.Due v)
    (path : Path) : repair path v = (v, []) := by
  have hall : Rewrite.all v = [] :=
    List.eq_nil_iff_forall_not_mem.2 fun r hr => h r ((Rewrite.mem_all hv).1 hr)
  refine Prod.ext ?_ ?_
  · rw [← Rewrite.foldl_apply_all hv path, hall, List.foldl_nil]
  · rw [← Rewrite.map_warning_all hv path, hall, List.map_nil]

theorem repair_repair {v : Json} (hv : v.Sorted) (path : Path) :
    repair path (repair path v).1 = ((repair path v).1, []) :=
  repair_eq_of_not_due (sorted_repair hv path) (not_due_repair hv path) path

/-- A value of which nothing is reported is not changed, and conversely. -/
theorem snd_repair_eq_nil_iff {v : Json} (hv : v.Sorted) (path : Path) :
    (repair path v).2 = [] ↔ (repair path v).1 = v := by
  constructor
  · intro h
    rw [← Rewrite.map_warning_all hv path, List.map_eq_nil_iff] at h
    rw [← Rewrite.foldl_apply_all hv path, h, List.foldl_nil]
  · intro h
    have hagain := repair_repair hv path
    rw [h] at hagain
    rw [hagain]

/-- **Repairing is exact.** At every place of the repaired value there is an object whose bounds are
counts. The value has become it by rewrites, one for each fault and no other, and they are what is
reported, each once and at its place. So places stay, and so does what is neither a fault nor the
way to one; nothing is reported exactly when nothing is changed; and there is nothing to repair in
the repaired value. -/
theorem repair_exact {x : Json} (hx : x.Sorted) (path : Path) :
    (∀ p v, at? p (repair path x).1 = some v → HasCounts v) ∧
    (∃ rs : List Rewrite, rs.Nodup ∧ (∀ r, r ∈ rs ↔ r.Due x) ∧
      rs.foldl (fun v r => r.apply v) x = (repair path x).1 ∧
      rs.map (Rewrite.warning path) = (repair path x).2) ∧
    (∀ p, (at? p (repair path x).1).isSome = (at? p x).isSome) ∧
    (∀ p ms, at? p x = some (.obj ms) → ∃ ms', at? p (repair path x).1 = some (.obj ms') ∧
      ∀ key, (∀ v, ms.lookup key = some v → Kept key v) → ms'.lookup key = ms.lookup key) ∧
    ((repair path x).2 = [] ↔ (repair path x).1 = x) ∧
    repair path (repair path x).1 = ((repair path x).1, []) := by
  refine ⟨fun p v => hasCounts_at?_repair hx, ⟨Rewrite.all x, Rewrite.nodup_all hx,
    fun r => Rewrite.mem_all hx, Rewrite.foldl_apply_all hx path, Rewrite.map_warning_all hx path⟩,
    fun p => ?_, fun p ms => lookup_at?_repair hx path, snd_repair_eq_nil_iff hx path,
    repair_repair hx path⟩
  rw [at?_repair hx, Option.isSome_map]

/-- A boolean among the layers and another one as the schema of a property that is named like a
bound; a bound that is none and one that is. Below `enum` there are values, not schemas. -/
def untidy : Json :=
  .obj
    [("allOf", .arr [.bool true, .obj []]),
      ("enum", .arr [.obj [("minLength", .null)]]),
      ("maxLength", .null),
      ("minItems", .nat 2),
      ("properties", .obj [("items", .obj []), ("minLength", .bool false)])]

/-- What is left of it. -/
def tidied : Json :=
  .obj
    [("allOf", .arr [.obj [], .obj []]),
      ("enum", .arr [.obj [("minLength", .null)]]),
      ("minItems", .nat 2),
      ("properties", .obj [("items", .obj []), ("minLength", .obj [])])]

theorem sorted_untidy : untidy.Sorted := by
  simp only [untidy, Json.nat, sorted_obj_iff, sorted_arr_iff, List.forall_mem_cons,
    List.not_mem_nil, false_implies, implies_true, Sorted.null, Sorted.bool, Sorted.num, and_true,
    true_and]
  decide

theorem repair_untidy :
    repair .root untidy =
      (tidied, [⟨.root, .coercedBound "maxLength" "null" none⟩,
        ⟨Path.root.child "minLength", .nonObjectSchema "false"⟩,
        ⟨.root, .nonObjectSchema "true"⟩]) :=
  rfl

theorem repair_exact_untidy :
    untidy.Sorted ∧
    (∃ rs : List Rewrite, rs.Nodup ∧ rs.length = 3 ∧ (∀ r, r ∈ rs ↔ r.Due untidy) ∧
      rs.foldl (fun v r => r.apply v) untidy = tidied) ∧
    HasCounts tidied ∧
    (∃ ms, tidied = .obj ms ∧ ms.lookup "enum" = some (.arr [.obj [("minLength", .null)]])) ∧
    repair .root tidied = (tidied, []) := by
  obtain ⟨hcounts, ⟨rs, hnodup, hdue, hfold, hreport⟩, -, hkept, -, hagain⟩ :=
    repair_exact sorted_untidy .root
  rw [repair_untidy] at hcounts hfold hreport hkept hagain
  refine ⟨sorted_untidy, ⟨rs, hnodup, ?_, hdue, hfold⟩, hcounts [] _ rfl, ?_, hagain⟩
  · rw [← List.length_map, hreport]
    rfl
  · obtain ⟨ms, hms, henum⟩ := hkept [] _ rfl
    refine ⟨ms, Option.some.inj hms, (henum "enum" fun v _ => ?_).trans rfl⟩
    exact ⟨by simp [boundKeywords], by simp, by simp, by simp⟩

end Schema

end Conform
