import Conform.Proofs.Schema.Members
import Conform.Proofs.Schema.Reading
import Conform.Proofs.Schema.Rewrites
import Mathlib.Data.Set.List

/-!
# Values that can be read without repair

Of a value that can be read as a schema, repairing drops the bounds that are null, and reading takes
a null bound for one that is not there. So such a value is read in the same way once it is repaired
(`Readable.ofJson?_repair`). The one exception is null as the schema of items: it is read as no
schema, and repaired to the empty one.

* `Readable.at`: what is at a place of a readable value is readable.
* `Readable.due_iff`: all that is to be repaired in a readable value are bounds that are null.
-/

set_option autoImplicit false

namespace Conform

open Json

namespace Schema

/-! ## Members -/

theorem mem_keywords_of_bound {key : String} (hk : key ∈ boundKeywords) : key ∈ keywords := by
  simp only [boundKeywords, List.mem_cons, List.not_mem_nil, or_false] at hk
  obtain rfl | rfl | rfl | rfl := hk <;> decide

theorem named?_congr {f : String × Json → Json} {ps : List (String × Json)}
    (h : ∀ p ∈ ps, ofJson? (f p) = ofJson? p.2) :
    named? (ps.map fun p => (p.1, f p)) = named? ps := by
  induction ps with
  | nil => rfl
  | cons p ps ih =>
    obtain ⟨hp, hps⟩ := List.forall_mem_cons.1 h
    rw [List.map_cons, named?, named?, hp, ih hps]

theorem list?_congr {f : Json → Json} {vs : List Json} (h : ∀ v ∈ vs, ofJson? (f v) = ofJson? v) :
    list? (vs.map f) = list? vs := by
  induction vs with
  | nil => rfl
  | cons v vs ih =>
    obtain ⟨hv, hvs⟩ := List.forall_mem_cons.1 h
    rw [List.map_cons, list?, list?, hv, ih hvs]

/-- A repaired member is read as the member that it was, if all that its steps lead to is. -/
theorem ofMembers?_repairMember {path : Path} {key : String} {v : Json} {ms : List (String × Json)}
    (hkey : key ∉ KeyMap.keys ms) (hread : (ofMembers? [(key, v)]).isSome)
    (hitems : key = "items" → v ≠ .null)
    (hsteps : ∀ c ∈ memberSteps key v,
      ofJson? (repair (path ++ c.1.path) c.2).1 = ofJson? c.2) :
    ofMembers? (((repairMember path key v).map (key, ·)).toList ++ ms) =
      ofMembers? ((key, v) :: ms) := by
  by_cases hbound : boundKeywords.contains key = true
  · have hk := List.contains_iff_mem.1 hbound
    rw [repairMember_of_bound hbound]
    obtain rfl | hcount := (isSome_bound_iff hk v).1 hread
    · exact (ofMembers?_null (mem_keywords_of_bound hk) hkey).symm
    · rw [if_pos hcount]
      rfl
  obtain ⟨rfl, hs⟩ | ⟨ps, rfl, rfl, hs⟩ | ⟨vs, rfl, rfl, hs⟩ | ⟨hno, hs⟩ := memberSteps_cases key v
  · have hv := hsteps (.items, v) (by rw [hs]; exact List.mem_singleton.2 rfl)
    have hrepair : ofJson? (repair path.items v).1 = ofJson? v := hv
    refine (ofMembers?_items (repair_ne_null path.items v) ms).trans ?_
    rw [ofMembers?_items (hitems rfl), hrepair]
  · have hps : ∀ p ∈ ps, ofJson? (repair (path.child p.1) p.2).1 = ofJson? p.2 := fun p hp =>
      hsteps (.property p.1, p.2) (by rw [hs]; exact List.mem_map.2 ⟨p, hp, rfl⟩)
    refine (ofMembers?_properties _ ms).trans ?_
    rw [ofMembers?_properties, named?_congr hps]
  · have hvs : ∀ v ∈ vs, ofJson? (repair path v).1 = ofJson? v := by
      intro v hv
      obtain ⟨i, hi⟩ := List.mem_iff_getElem?.1 hv
      have h := hsteps (.entry i, v) (by
        rw [hs]
        exact List.mem_map.2 ⟨(v, i), List.mem_zipIdx_iff_getElem?.2 hi, rfl⟩)
      rwa [Step.path, List.append_nil] at h
    refine (ofMembers?_allOf _ ms).trans ?_
    rw [ofMembers?_allOf, list?_congr hvs]
  · rw [repairMember_of_noSteps hno hbound]
    rfl

/-- An object is read as it was if each of its members is. -/
theorem ofMembers?_repairMembers {path : Path} {ms : List (String × Json)} (hms : KeyMap.Sorted ms)
    (hread : ∀ m ∈ ms, (ofMembers? [m]).isSome) (hitems : ("items", .null) ∉ ms)
    (hsteps : ∀ m ∈ ms, ∀ c ∈ memberSteps m.1 m.2,
      ofJson? (repair (path ++ c.1.path) c.2).1 = ofJson? c.2) :
    ofMembers? (repairMembers path ms).1 = ofMembers? ms := by
  induction ms with
  | nil => rw [repairMembers]
  | cons m ms ih =>
    obtain ⟨key, v⟩ := m
    rw [List.mem_cons, not_or] at hitems
    obtain ⟨hown, hrest⟩ := List.forall_mem_cons.1 hread
    obtain ⟨hbelow, hothers⟩ := List.forall_mem_cons.1 hsteps
    have hnull : key = "items" → v ≠ .null := by
      rintro rfl rfl
      exact hitems.1 rfl
    rw [repairMembers_cons, ofMembers?_append_congr (ih hms.tail hrest hitems.2 hothers)]
    exact ofMembers?_repairMember hms.head_notMem hown hnull hbelow

end Schema

/-! ## Readable values -/

namespace Json

open Schema

/-- The value can be read as a schema, and in no place in it is null the schema of items. -/
structure Readable (x : Json) : Prop where
  isSome : (ofJson? x).isSome
  items : ∀ p v, at? p x = some v → v.get? "items" ≠ some .null

variable {x v : Json}

theorem Readable.exists_members (h : x.Readable) :
    ∃ ms, x = .obj ms ∧ ∀ m ∈ ms, (ofMembers? [m]).isSome := by
  obtain ⟨s, hs⟩ := Option.isSome_iff_exists.1 h.isSome
  obtain ⟨ms, rfl, hms⟩ := of_ofJson? hs
  exact ⟨ms, rfl, (isSome_ofMembers?_iff ms).1 (Option.isSome_of_eq_some hms)⟩

/-- What is one step below a readable value is readable. -/
theorem Readable.step (h : x.Readable) {s : Step} (hs : step? s x = some v) : v.Readable := by
  refine ⟨?_, fun p w hw => h.items (s :: p) w (Option.bind_eq_some_iff.2 ⟨v, hs, hw⟩)⟩
  obtain ⟨ms, rfl, hread⟩ := h.exists_members
  obtain ⟨u, hu, hv⟩ := Option.bind_eq_some_iff.1 hs
  have hmember := hread _ (KeyMap.mem_of_lookup hu)
  cases s with
  | property name =>
    cases u with
    | obj ps => exact (isSome_properties_iff ps).1 hmember _ (KeyMap.mem_of_lookup hv)
    | _ => cases hv
  | items =>
    cases hv
    have hnull : v ≠ .null := by
      rintro rfl
      exact h.items [] _ rfl hu
    exact (isSome_items_iff hnull).1 hmember
  | entry i =>
    cases u with
    | arr vs => exact (isSome_allOf_iff vs).1 hmember _ (List.mem_of_getElem? hv)
    | _ => cases hv

theorem Readable.at (h : x.Readable) {p : Place} (hp : at? p x = some v) : v.Readable := by
  induction p generalizing x with
  | nil =>
    cases hp
    exact h
  | cons s p ih =>
    obtain ⟨w, hw, hv⟩ := Option.bind_eq_some_iff.1 hp
    exact ih (h.step hw) hv

/-- **A readable value is read in the same way once it is repaired.** -/
theorem Readable.ofJson?_repair (h : x.Readable) (hx : x.Sorted) (path : Path) :
    Schema.ofJson? (repair path x).1 = Schema.ofJson? x := by
  induction x using induct_steps generalizing path with
  | step x ih =>
    obtain ⟨ms, rfl, hread⟩ := h.exists_members
    obtain ⟨ascending, -⟩ := sorted_obj_iff.1 hx
    have hitems : ("items", .null) ∉ ms := fun hm =>
      h.items [] _ rfl (ascending.lookup_eq_some_iff.2 hm)
    rw [repair_obj, ofJson?, ofJson?]
    refine ofMembers?_repairMembers ascending hread hitems fun m hm c hc => ?_
    have hstep : step? c.1 (.obj ms) = some c.2 :=
      (mem_steps hx).1 (List.mem_flatMap.2 ⟨m, hm, hc⟩)
    exact ih c.1 c.2 hstep (h.step hstep) (hx.step hstep) _

/-- All that is to be repaired in a readable value are bounds that are null. -/
theorem Readable.due_iff (h : x.Readable) {r : Rewrite} :
    r.Due x ↔ ∃ keyword ∈ boundKeywords, r.fault = .bound keyword .null ∧
      ∃ v, at? r.place x = some v ∧ v.get? keyword = some .null := by
  constructor
  · rintro ⟨v, hv, hf⟩
    obtain ⟨ms, rfl, hread⟩ := (h.at hv).exists_members
    cases hr : r.fault with
    | notObject found =>
      rw [hr] at hf
      exact absurd rfl (hf.2 ms)
    | bound keyword found =>
      rw [hr] at hf
      obtain ⟨hk, hfound, hcount⟩ := hf
      obtain rfl | hc := (isSome_bound_iff hk found).1 (hread _ (KeyMap.mem_of_lookup hfound))
      · exact ⟨keyword, hk, rfl, _, hv, hfound⟩
      · rw [hc] at hcount
        cases hcount
  · rintro ⟨keyword, hk, hr, v, hv, hnull⟩
    refine ⟨v, hv, ?_⟩
    rw [hr]
    exact ⟨hk, hnull, rfl⟩

/-- **The warnings about a readable value**: one for each bound that is null, of which nothing is
used. -/
theorem Readable.exists_nullBounds (h : x.Readable) (hx : x.Sorted) (path : Path) :
    ∃ bounds : List (Place × String), bounds.Nodup ∧
      (∀ b, b ∈ bounds ↔
        b.2 ∈ boundKeywords ∧ ∃ v, at? b.1 x = some v ∧ v.get? b.2 = some .null) ∧
      (repair path x).2 =
        bounds.map fun b => ⟨path ++ b.1.path, .coercedBound b.2 "null" none⟩ := by
  let ofBound : Place × String → Rewrite := fun b => ⟨b.1, .bound b.2 .null⟩
  have hinjective : Function.Injective ofBound := by
    rintro ⟨p, k⟩ ⟨q, l⟩ he
    cases he
    rfl
  have hrange : Rewrite.all x ∈ Set.range (List.map ofBound) := by
    rw [Set.range_list_map]
    intro r hr
    obtain ⟨keyword, -, hf, -⟩ := h.due_iff.1 ((Rewrite.mem_all hx).1 hr)
    exact ⟨(r.place, keyword), by cases r; cases hf; rfl⟩
  obtain ⟨bounds, hbounds⟩ := hrange
  refine ⟨bounds, ?_, fun b => ?_, ?_⟩
  · have hnodup := Rewrite.nodup_all hx
    rw [← hbounds] at hnodup
    exact List.Pairwise.of_map ofBound (fun b c hne he => hne (congrArg ofBound he)) hnodup
  · rw [← List.mem_map_of_injective hinjective, hbounds, Rewrite.mem_all hx, h.due_iff]
    constructor
    · rintro ⟨keyword, hk, hf, hv⟩
      cases hf
      exact ⟨hk, hv⟩
    · rintro ⟨hk, hv⟩
      exact ⟨b.2, hk, rfl, hv⟩
  · rw [← Rewrite.map_warning_all hx path, ← hbounds, List.map_map]
    rfl

end Json

end Conform
