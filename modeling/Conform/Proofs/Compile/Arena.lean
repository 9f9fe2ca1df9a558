import Conform.Proofs.Compile.Growth

/-!
# The slots of a compilation are a tree

Every slot but the first is the child of exactly one slot, and of one that comes before it. Between
two turns that holds of all slots (`Build.Linked [] []`); while the fields of a map are compiled,
the slots of those that are done are still loose.

* `linked_root`: it holds when no map waits any more.
-/

set_option autoImplicit false

namespace Conform

/-- All references of slots to slots. -/
def references (slots : List Slot) : List Nat := slots.flatMap Slot.children

@[simp] theorem references_nil : references [] = [] := rfl

@[simp] theorem references_cons (s : Slot) (slots : List Slot) :
    references (s :: slots) = s.children ++ references slots := rfl

@[simp] theorem references_append (as bs : List Slot) :
    references (as ++ bs) = references as ++ references bs := List.flatMap_append

theorem mem_references {slots : List Slot} {c : Nat} :
    c ∈ references slots ↔ ∃ (i : Nat) (s : Slot), slots[i]? = some s ∧ c ∈ s.children := by
  rw [references, List.mem_flatMap]
  constructor
  · rintro ⟨s, hs, hc⟩
    obtain ⟨i, hi⟩ := List.mem_iff_getElem?.1 hs
    exact ⟨i, s, hi, hc⟩
  · rintro ⟨i, s, hi, hc⟩
    exact ⟨s, List.mem_of_getElem? hi, hc⟩

/-- The numbers of all slots but the first, when a position is added to `n` slots: those that were
there, the first new one, and the children of new ones. -/
theorem Growth.At.numbers {o : Options} {n : Nat} {path : Path} {g : Growth} (h : g.At o n path)
    (hn : 0 < n) : List.range' 1 (n + g.slots.length - 1) =
      List.range' 1 (n - 1) ++ n :: references g.slots := by
  have hpos := h.slots_pos
  rw [references, h.children, ← List.range'_succ,
    show n + g.slots.length - 1 = (n - 1) + (g.slots.length - 1 + 1) by omega,
    ← List.range'_append_1, show 1 + (n - 1) = n by omega]

/-! ## Turns -/

namespace Build

/-- Every slot but the first has one reference, if `loose` counts as well, and from an earlier slot.
Waiting maps, those in `held` included, have slots of their own without fields. -/
structure Linked (held : List Pending) (loose : List Nat) (b : Build) : Prop where
  pos : 0 < b.slots.length
  once : (references b.slots ++ loose).Perm (List.range' 1 (b.slots.length - 1))
  later : ∀ (i : Nat) (s : Slot), b.slots[i]? = some s → ∀ c ∈ s.children, i < c
  unfilled : ∀ p ∈ held ++ b.stack, ∃ required, b.slots[p.slot]? = some (.object [] required)
  apart : ((held ++ b.stack).map Pending.slot).Nodup

variable {o : Options} {held : List Pending} {loose : List Nat} {b c : Build}

theorem Linked.slot_lt (h : b.Linked held loose) {p : Pending} (hp : p ∈ held ++ b.stack) :
    p.slot < b.slots.length := by
  obtain ⟨_, hs⟩ := h.unfilled p hp
  exact (List.getElem?_eq_some_iff.1 hs).1

/-- A compiled position is one more loose slot. -/
theorem Linked.grow {path : Path} {g : Growth} (h : b.Linked held loose)
    (hs : g.At o b.slots.length path) (hg : b.Grows g c) :
    c.Linked held (loose ++ [b.slots.length]) := by
  have hlen : c.slots.length = b.slots.length + g.slots.length := by
    rw [hg.slots, List.length_append]
  have hpos := h.pos
  refine ⟨by omega, ?_, fun i s hi d hd => ?_, fun p hp => ?_, ?_⟩
  · rw [hlen, hs.numbers hpos, hg.slots, references_append]
    refine List.perm_iff_count.2 fun a => ?_
    have := h.once.count_eq a
    simp only [List.count_append, List.count_cons, List.count_nil] at this ⊢
    omega
  · rw [hg.slots, List.getElem?_append] at hi
    split at hi
    · exact h.later i s hi d hd
    · have := hs.child_gt hi hd
      omega
  · rw [hg.slots, hg.stack] at *
    have hold : p ∈ held ++ b.stack →
        ∃ required, (b.slots ++ g.slots)[p.slot]? = some (.object [] required) := by
      intro hp
      rw [List.getElem?_append_left (h.slot_lt hp)]
      exact h.unfilled p hp
    rcases hs.inv with ⟨hw, -⟩ | ⟨q, _, i, required, hw, -, hq, hi, -⟩
    · rw [hw] at hp
      exact hold hp
    · rw [hw] at hp
      rcases List.mem_append.1 hp with hp | hp
      · exact hold (List.mem_append_left _ hp)
      · rcases List.mem_cons.1 hp with rfl | hp
        · refine ⟨required, ?_⟩
          rw [hq, List.getElem?_append_right (by omega), Nat.add_sub_cancel_left, hi]
        · exact hold (List.mem_append_right _ hp)
  · rw [hg.stack]
    rcases hs.inv with ⟨hw, -⟩ | ⟨q, _, i, _, hw, -, hq, -⟩
    · rw [hw]
      exact h.apart
    · rw [hw]
      have hperm : (held ++ ([q] ++ b.stack)).Perm (q :: (held ++ b.stack)) := by
        simp
      refine (hperm.map Pending.slot).nodup_iff.2 (List.nodup_cons.2 ⟨fun hm => ?_, h.apart⟩)
      obtain ⟨p, hp, he⟩ := List.mem_map.1 hm
      have := h.slot_lt hp
      omega

/-- The slots of compiled fields are loose and new. -/
theorem Linked.fields (h : b.Linked held loose) (path : Path) (ps : List (String × Schema)) :
    (fields o path ps b).2.Linked held (loose ++ (fields o path ps b).1.map Prod.snd) ∧
      ∀ f ∈ (Build.fields o path ps b).1, b.slots.length ≤ f.2 := by
  induction ps generalizing b loose with
  | nil => exact ⟨by simpa [Build.fields] using h, by simp [Build.fields]⟩
  | cons p ps ih =>
    obtain ⟨name, s⟩ := p
    obtain ⟨g, hl, -⟩ := field_lays (o := o) (path.child name) name s b
    have hlen : b.slots.length ≤ (field o (path.child name) name s b).2.slots.length := by
      rw [hl.grows.slots, List.length_append]
      omega
    obtain ⟨h1, h2⟩ := ih (h.grow hl.shape hl.grows)
    simp only [Build.fields, List.map_cons, hl.slot]
    refine ⟨by simpa using h1, fun f hf => ?_⟩
    rcases List.mem_cons.1 hf with rfl | hf
    · exact Nat.le_refl _
    · exact Nat.le_trans hlen (h2 f hf)

/-- The slots after the fields of a map are filled in. -/
theorem slots_setFields {p : Nat} {required : Bool}
    (h : b.slots[p]? = some (.object [] required)) (fs : List (String × Nat)) :
    ∃ as bs, as.length = p ∧ b.slots = as ++ .object [] required :: bs ∧
      (b.setFields p fs).slots = as ++ .object fs required :: bs := by
  obtain ⟨hlt, hp⟩ := List.getElem?_eq_some_iff.1 h
  have hb : b.slots = b.slots.take p ++ .object [] required :: b.slots.drop (p + 1) := by
    rw [← hp, List.getElem_cons_drop, List.take_append_drop]
  have ha : (b.slots.take p).length = p := List.length_take_of_le (Nat.le_of_lt hlt)
  refine ⟨_, _, ha, hb, ?_⟩
  show (b.nodes.modify _ _).toList = _
  rw [Array.toList_modify]
  have hm := modify_append_cons (b.slots.take p) (.object [] required) (b.slots.drop (p + 1))
  rw [ha, ← hb] at hm
  exact hm _

theorem getElem?_setFields {p : Nat} {fs : List (String × Nat)} {required : Bool}
    (h : b.slots[p]? = some (.object [] required)) (i : Nat) :
    (b.setFields p fs).slots[i]? = if i = p then some (.object fs required) else b.slots[i]? := by
  obtain ⟨as, bs, rfl, hb, hc⟩ := slots_setFields h fs
  rw [hb, hc, List.getElem?_append, List.getElem?_append]
  split
  · rw [if_neg (by omega)]
  · rename_i hi
    obtain ⟨k, rfl⟩ := Nat.exists_eq_add_of_le (Nat.le_of_not_lt hi)
    cases k <;> simp

/-- Filling in the fields of a map makes their slots its children. -/
theorem Linked.close {p : Pending} {fs : List (String × Nat)}
    (h : b.Linked [p] (fs.map Prod.snd)) (hlt : ∀ f ∈ fs, p.slot < f.2) :
    (b.setFields p.slot fs).Linked [] [] := by
  obtain ⟨required, hp⟩ := h.unfilled p (by simp)
  have hlen : (b.setFields p.slot fs).slots.length = b.slots.length := by
    simp [setFields, slots]
  refine ⟨by rw [hlen]; exact h.pos, ?_, fun i s hi d hd => ?_, fun q hq => ?_, ?_⟩
  · rw [hlen]
    refine List.Perm.trans ?_ h.once
    obtain ⟨as, bs, -, hb, hc⟩ := slots_setFields hp fs
    rw [hb, hc]
    refine List.perm_iff_count.2 fun a => ?_
    simp only [references_append, references_cons, Slot.children, List.map_nil, List.count_append,
      List.count_nil]
    omega
  · rw [getElem?_setFields hp] at hi
    split at hi
    · rename_i he
      subst he
      cases hi
      obtain ⟨f, hf, rfl⟩ := List.mem_map.1 hd
      exact hlt f hf
    · exact h.later i s hi d hd
  · have hne : p.slot ≠ q.slot := by
      have := (List.nodup_cons.1 h.apart).1
      exact fun he => this (List.mem_map.2 ⟨q, hq, he.symm⟩)
    rw [getElem?_setFields hp, if_neg (Ne.symm hne)]
    exact h.unfilled q (List.mem_cons_of_mem _ hq)
  · exact (List.nodup_cons.1 h.apart).2

/-- A map that is taken from the stack still waits. -/
theorem Linked.pop {p : Pending} {rest : List Pending} (h : b.Linked [] [])
    (hs : b.stack = p :: rest) : Linked [p] [] { b with stack := rest } := by
  refine ⟨h.pos, h.once, h.later, ?_, ?_⟩
  · have := h.unfilled
    rw [hs] at this
    exact this
  · have := h.apart
    rw [hs] at this
    exact this

/-- A turn. -/
theorem Linked.expand {p : Pending} {rest : List Pending} (h : b.Linked [] [])
    (hs : b.stack = p :: rest) : (expand o p { b with stack := rest }).Linked [] [] := by
  obtain ⟨h1, h2⟩ := (h.pop hs).fields (o := o) p.path p.fields
  have hlt := (h.pop hs).slot_lt (p := p) (by simp)
  exact h1.close fun f hf => Nat.lt_of_lt_of_le hlt (h2 f hf)

theorem Linked.run (h : b.Linked [] []) : (run o b).Linked [] [] := by
  fun_induction Build.run o b with
  | case1 b _ => exact h
  | case2 b p rest hs ih => exact ih (h.expand hs)

theorem stack_run (b : Build) : (Build.run o b).stack = [] := by
  fun_induction Build.run o b with
  | case1 b hs => exact hs
  | case2 b p rest _ ih => exact ih

theorem run_of_nil (hs : b.stack = []) : run o b = b := by
  rw [run]
  split
  · rfl
  · rename_i p rest hp
    rw [hs] at hp
    cases hp

theorem run_of_cons {p : Pending} {rest : List Pending} (hs : b.stack = p :: rest) :
    run o b = run o (expand o p { b with stack := rest }) := by
  rw [run]
  split
  · rename_i hn
    rw [hs] at hn
    cases hn
  · rename_i q tail hq
    rw [hs] at hq
    cases hq
    rfl

/-! ## Whole compilations -/

/-- The compilation of a schema before the first turn. -/
def start (o : Options) (s : Schema) : Build :=
  (schedule o .root s.normalize.properties s.normalize.facets.required false
    (if s.normalize.properties.isSome then empty
      else empty.warn .root .objectWithoutProperties)).2

/-- The first slot is the object of the root, whose map waits. -/
theorem start_grows (o : Options) (s : Schema) :
    ∃ g, g.At o 0 .root ∧ empty.Grows g (start o s) ∧
      g.slots = [.object [] false] ∧ g.values = [Plain.root o s] ∧
      g.waiting = [⟨.root, 0, prune o.blackList (s.normalize.properties.getD [])⟩] := by
  refine ⟨_, .object (s.normalize.facets.required.getD [])
    (prune o.blackList (s.normalize.properties.getD [])) false, ⟨?_, ?_, ?_⟩, rfl, ?_, rfl⟩
  · simp only [start, schedule, alloc, warnAll_eq]
    split <;> simp [empty, warn, slots]
  · simp only [start, schedule, alloc, warnAll_eq]
    split <;> simp [empty, warn]
  · simp only [start, schedule, alloc, warnAll_eq]
    split <;> rfl
  · rw [Plain.root, Plain.object]

theorem slots_start (o : Options) (s : Schema) : (start o s).slots = [.object [] false] := by
  obtain ⟨g, -, hg, hslots, -⟩ := start_grows o s
  rw [hg.slots, hslots]
  rfl

theorem stack_start (o : Options) (s : Schema) :
    (start o s).stack = [⟨.root, 0, prune o.blackList (s.normalize.properties.getD [])⟩] := by
  obtain ⟨g, -, hg, -, -, hw⟩ := start_grows o s
  rw [hg.stack, hw]
  rfl

theorem linked_start (o : Options) (s : Schema) : (start o s).Linked [] [] := by
  have hs := slots_start o s
  have hst := stack_start o s
  refine ⟨by simp [hs], by simp [hs, Slot.children], fun i t hi c hc => ?_, fun p hp => ?_, ?_⟩
  · rw [hs, List.getElem?_singleton] at hi
    split at hi <;> cases hi
    simp [Slot.children] at hc
  · rw [hst, List.nil_append, List.mem_singleton] at hp
    subst hp
    exact ⟨false, by rw [hs]; rfl⟩
  · simp [hst]

/-- **The slots of a compilation are a tree.** -/
theorem linked_root (o : Options) (s : Schema) : (root o s).Linked [] [] :=
  (linked_start o s).run

end Build

end Conform
