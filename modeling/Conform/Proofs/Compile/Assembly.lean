import Conform.Proofs.Compile.Arena

/-!
# Building the tree of a compilation

Slots are built from the last one to the first, and the validators of its children are taken for
each of them. Children are later slots, and each is the child of one slot only, so they are there
and have not been taken.

* `Built.getElem?_builtFrom`: which validators are there on the way.
* `Linked.children_built`: when a slot is built, its children are there.
* `assemble_eq`: the tree has at its root the validator that the first slot stands for.
-/

set_option autoImplicit false

namespace Conform

/-- The slot stands for a validator when its children stand for those in a list. -/
def Slot.Shows (values : List Validator) : Slot → Validator → Prop
  | .leaf v, w => w = v
  | .object fields required, w =>
    ∃ vs, w = .object vs required false ∧
      fields.map (fun f => (f.1, values[f.2]?)) = vs.map fun f => (f.1, some f.2)
  | .array element required least most, w =>
    ∃ v, values[element]? = some v ∧ w = .array v required false least most

namespace Built

variable {built : Built}

/-! ## Taking -/

theorem take_eq {slot : Nat} {v : Validator} (h : built[slot]? = some (some v)) :
    built.take slot = (v, built.setIfInBounds slot none) := by
  simp only [take, h]

theorem getElem?_set {slot : Nat} (h : slot < built.size) (x : Option Validator) (j : Nat) :
    (built.setIfInBounds slot x)[j]? = if j = slot then some x else built[j]? := by
  rw [Array.getElem?_setIfInBounds]
  by_cases hj : j = slot
  · subst hj
    rw [if_pos rfl, if_pos h, if_pos rfl]
  · rw [if_neg (Ne.symm hj), if_neg hj]

/-- Taking leaves nothing at a slot and touches no other one. -/
theorem getElem?_take (built : Built) (slot j : Nat) :
    (built.take slot).2[j]? = if j = slot then built[j]?.map fun _ => none else built[j]? := by
  rw [take]
  split
  · rename_i v hv
    rw [getElem?_set (Array.getElem?_eq_some_iff.1 hv).1]
    split
    · rename_i hj
      rw [hj, hv, Option.map_some]
    · rfl
  · rename_i hno
    split
    · rename_i hj
      rw [hj]
      cases hv : built[slot]? with
      | none => rfl
      | some x =>
        cases x with
        | none => rfl
        | some v => exact absurd hv (hno v)
    · rfl

theorem getElem?_takeFields (fields : List (String × Nat)) (built : Built) (j : Nat) :
    (takeFields fields built).2[j]? =
      if j ∈ fields.map Prod.snd then built[j]?.map fun _ => none else built[j]? := by
  induction fields generalizing built with
  | nil => rfl
  | cons f fields ih =>
    rw [takeFields, ih, getElem?_take]
    by_cases hf : j = f.2 <;> by_cases hj : j ∈ fields.map Prod.snd <;>
      simp [hf, hj, Function.comp_def]

/-- Building a slot takes its children and nothing else. -/
theorem getElem?_ofSlot (s : Slot) (built : Built) (j : Nat) :
    (ofSlot s built).2[j]? =
      if j ∈ s.children then built[j]?.map fun _ => none else built[j]? := by
  cases s with
  | leaf v => rfl
  | object fields required => exact getElem?_takeFields fields built j
  | array element required least most =>
    simp only [ofSlot, Slot.children, List.mem_singleton]
    exact getElem?_take built element j

@[simp] theorem size_take (built : Built) (slot : Nat) : (built.take slot).2.size = built.size := by
  rw [take]
  split
  · exact Array.size_setIfInBounds
  · rfl

@[simp] theorem size_takeFields (fields : List (String × Nat)) (built : Built) :
    (takeFields fields built).2.size = built.size := by
  induction fields generalizing built with
  | nil => rfl
  | cons f fields ih => rw [takeFields, ih, size_take]

@[simp] theorem size_ofSlot (s : Slot) (built : Built) : (ofSlot s built).2.size = built.size := by
  cases s with
  | leaf v => rfl
  | object fields required => exact size_takeFields fields built
  | array element required least most => exact size_take built element

/-- Children that are there, each once, become the fields. -/
theorem fst_takeFields {values : List Validator} {fields : List (String × Nat)}
    {vs : List (String × Validator)}
    (hv : fields.map (fun f => (f.1, values[f.2]?)) = vs.map fun f => (f.1, some f.2))
    (hb : ∀ c ∈ fields.map Prod.snd, built[c]? = some values[c]?)
    (hn : (fields.map Prod.snd).Nodup) : (takeFields fields built).1 = vs := by
  induction fields generalizing vs built with
  | nil =>
    cases vs with
    | nil => rfl
    | cons v vs => simp at hv
  | cons f fields ih =>
    cases vs with
    | nil => simp at hv
    | cons v vs =>
      obtain ⟨key, v⟩ := v
      simp only [List.map_cons, List.cons.injEq, Prod.mk.injEq] at hv
      obtain ⟨⟨rfl, hval⟩, hv⟩ := hv
      obtain ⟨hslot, hn⟩ := List.nodup_cons.1 hn
      have hfirst : built[f.2]? = some (some v) := hval ▸ hb f.2 List.mem_cons_self
      have hrest : ∀ c ∈ fields.map Prod.snd, (built.take f.2).2[c]? = some values[c]? := by
        intro c hc
        have hne : c ≠ f.2 := fun he => hslot (he ▸ hc)
        rw [getElem?_take, if_neg hne]
        exact hb c (List.mem_cons_of_mem _ hc)
      simp only [takeFields]
      rw [ih hv hrest hn, take_eq hfirst]

/-- A slot whose children are there becomes what it stands for. -/
theorem fst_ofSlot {values : List Validator} {s : Slot} {w : Validator} (hs : s.Shows values w)
    (hb : ∀ c ∈ s.children, built[c]? = some values[c]?) (hn : s.children.Nodup) :
    (ofSlot s built).1 = w := by
  cases s with
  | leaf v => exact hs.symm
  | object fields required =>
    obtain ⟨vs, rfl, hv⟩ := hs
    rw [ofSlot, fst_takeFields hv hb hn]
  | array element required least most =>
    obtain ⟨v, hv, rfl⟩ := hs
    have helement : built[element]? = some (some v) := hv ▸ hb element List.mem_cons_self
    simp only [ofSlot, take_eq helement]

/-! ## From the last slot to the first -/

variable {slots : List Slot} {k : Nat} {s : Slot}

/-- The validators that are there when the slots from `k` on are built. -/
def builtFrom (slots : List Slot) (k : Nat) : Built :=
  ofSlots (slots.zipIdx.drop k) (Array.replicate slots.length none)

/-- The validator that is built for a slot. -/
def made (slots : List Slot) (k : Nat) : Option Validator :=
  slots[k]?.map fun s => (ofSlot s (builtFrom slots (k + 1))).1

theorem exists_made (hk : k < slots.length) : ∃ v, made slots k = some v :=
  ⟨_, by rw [made, List.getElem?_eq_getElem hk, Option.map_some]⟩

theorem builtFrom_of_slot (h : slots[k]? = some s) :
    builtFrom slots k =
      Array.setIfInBounds (ofSlot s (builtFrom slots (k + 1))).2 k
        (some (ofSlot s (builtFrom slots (k + 1))).1) := by
  obtain ⟨hk, rfl⟩ := List.getElem?_eq_some_iff.1 h
  rw [builtFrom, List.drop_eq_getElem_cons (by simpa using hk)]
  simp [ofSlots, builtFrom]

theorem size_builtFrom (slots : List Slot) (k : Nat) :
    (builtFrom slots k).size = slots.length := by
  rw [builtFrom]
  induction slots.zipIdx.drop k with
  | nil => exact Array.size_replicate
  | cons s rest ih =>
    rw [ofSlots, List.foldr_cons, Array.size_setIfInBounds, size_ofSlot]
    exact ih

/-- Of the slots from `k` on, those that are no child of another one are there. -/
theorem getElem?_builtFrom
    (later : ∀ (i : Nat) (s : Slot), slots[i]? = some s → ∀ c ∈ s.children, i < c)
    (hk : k ≤ slots.length) {j : Nat} (hj : j < slots.length) :
    (builtFrom slots k)[j]? =
      some (if k ≤ j ∧ j ∉ references (slots.drop k) then made slots j else none) := by
  -- the induction is on the number of slots that are built
  obtain ⟨d, hd⟩ := Nat.exists_eq_add_of_le hk
  induction d generalizing k j with
  | zero =>
    rw [if_neg fun h => by omega, builtFrom, List.drop_of_length_le (by simp; omega)]
    exact (Array.getElem?_replicate ..).trans (if_pos hj)
  | succ d ih =>
    have hlt : k < slots.length := by omega
    have hs : slots[k]? = some slots[k] := List.getElem?_eq_getElem hlt
    have hsize : k < (ofSlot slots[k] (builtFrom slots (k + 1))).2.size := by
      rwa [size_ofSlot, size_builtFrom]
    rw [builtFrom_of_slot hs, getElem?_set hsize, getElem?_ofSlot, ih (k := k + 1) hlt hj (by omega),
      List.drop_eq_getElem_cons hlt, references_cons]
    by_cases hjk : j = k
    · subst hjk
      have hnot : j ∉ slots[j].children ++ references (slots.drop (j + 1)) := by
        rw [← references_cons, ← List.drop_eq_getElem_cons hlt, mem_references]
        rintro ⟨i, t, ht, hc⟩
        rw [List.getElem?_drop] at ht
        have := later _ t ht j hc
        omega
      rw [if_pos rfl, if_pos ⟨Nat.le_refl j, hnot⟩, made, hs, Option.map_some]
    · have hle : k + 1 ≤ j ↔ k ≤ j := by omega
      rw [if_neg hjk]
      by_cases hc : j ∈ slots[k].children <;> simp [hc, hle]

end Built

/-! ## Linked slots -/

namespace Build

open Built

variable {b : Build}

theorem Linked.perm (h : b.Linked [] []) :
    (references b.slots).Perm (List.range' 1 (b.slots.length - 1)) := by
  simpa using h.once

/-- All slots but the first are children. -/
theorem Linked.mem_references_iff (h : b.Linked [] []) {c : Nat} :
    c ∈ references b.slots ↔ 0 < c ∧ c < b.slots.length := by
  rw [h.perm.mem_iff, List.mem_range'_1]
  omega

/-- When a slot is built, its children are there, each once. -/
theorem Linked.children_built (h : b.Linked [] []) {k : Nat} {s : Slot}
    (hs : b.slots[k]? = some s) :
    s.children.Nodup ∧ ∀ c ∈ s.children, c < b.slots.length ∧
      (builtFrom b.slots (k + 1))[c]? = some (made b.slots c) := by
  obtain ⟨hk, rfl⟩ := List.getElem?_eq_some_iff.1 hs
  have hsplit : references b.slots =
      references (b.slots.take k) ++
        (b.slots[k].children ++ references (b.slots.drop (k + 1))) := by
    rw [← references_cons, ← List.drop_eq_getElem_cons hk, ← references_append,
      List.take_append_drop]
  have hnodup := h.perm.nodup_iff.2 List.nodup_range'
  rw [hsplit] at hnodup
  obtain ⟨hchildren, -, hapart⟩ := List.nodup_append.1 (List.nodup_append.1 hnodup).2.1
  refine ⟨hchildren, fun c hc => ?_⟩
  have hlt := (h.mem_references_iff.1 (mem_references.2 ⟨k, _, hs, hc⟩)).2
  have hnot : c ∉ references (b.slots.drop (k + 1)) := fun hm => hapart c hc c hm rfl
  exact ⟨hlt, by rw [getElem?_builtFrom h.later hk hlt, if_pos ⟨h.later k _ hs c hc, hnot⟩]⟩

/-- In the end the first slot is there, and no other one. -/
theorem Linked.getElem?_builtFrom_zero (h : b.Linked [] []) {j : Nat} (hj : j < b.slots.length) :
    (builtFrom b.slots 0)[j]? = some (if j = 0 then made b.slots 0 else none) := by
  rw [getElem?_builtFrom h.later (Nat.zero_le _) hj, List.drop_zero]
  by_cases hz : j = 0
  · subst hz
    have hnot : 0 ∉ references b.slots := fun hm => Nat.lt_irrefl 0 (h.mem_references_iff.1 hm).1
    rw [if_pos ⟨Nat.le_refl 0, hnot⟩, if_pos rfl]
  · have hchild := h.mem_references_iff.2 ⟨Nat.pos_of_ne_zero hz, hj⟩
    rw [if_neg fun hm => hm.2 hchild, if_neg hz]

/-- Slots become what they stand for. -/
theorem Linked.made_eq {values : List Validator} (h : b.Linked [] [])
    (hs : ∀ (i : Nat) (s : Slot), b.slots[i]? = some s →
      ∃ w, values[i]? = some w ∧ s.Shows values w) {k : Nat} (hk : k < b.slots.length) :
    made b.slots k = values[k]? := by
  obtain ⟨d, hd⟩ := Nat.exists_eq_add_of_lt hk
  -- children come later, so the induction is from the last slot
  induction d using Nat.strongRecOn generalizing k with
  | ind d ih =>
    have hslot : b.slots[k]? = some b.slots[k] := List.getElem?_eq_getElem hk
    obtain ⟨w, hw, hshows⟩ := hs k _ hslot
    obtain ⟨hnodup, hbuilt⟩ := h.children_built hslot
    have hchildren : ∀ c ∈ b.slots[k].children,
        (builtFrom b.slots (k + 1))[c]? = some values[c]? := by
      intro c hc
      obtain ⟨hlt, hget⟩ := hbuilt c hc
      have hlater := h.later k _ hslot c hc
      rw [hget, ih (b.slots.length - c - 1) (by omega) hlt (by omega)]
    rw [made, hslot, Option.map_some, fst_ofSlot hshows hchildren hnodup, hw]

/-- The tree is what is built for the first slot. -/
theorem Linked.made_zero (h : b.Linked [] []) : made b.slots 0 = some (assemble b.nodes) := by
  obtain ⟨v, hv⟩ := exists_made h.pos
  have h0 := h.getElem?_builtFrom_zero h.pos
  rw [if_pos rfl, hv] at h0
  have htake : assemble b.nodes = ((builtFrom b.slots 0).take 0).1 := rfl
  rw [hv, htake, take_eq h0]

end Build

/-- The tree of linked slots has at its root what the first slot stands for. -/
theorem assemble_eq {b : Build} {values : List Validator} (h : b.Linked [] [])
    (hs : ∀ (i : Nat) (s : Slot), b.slots[i]? = some s →
      ∃ w, values[i]? = some w ∧ s.Shows values w) :
    values[0]? = some (assemble b.nodes) := by
  rw [← h.made_eq hs h.pos, h.made_zero]

end Conform
