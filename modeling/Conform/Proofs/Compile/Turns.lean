import Conform.Proofs.Compile.Arena

/-!
# The turns of a compilation

A turn takes a map from the stack and may put others there, which are no parts of the schema but
merges of parts. It ends all the same: merging makes fewer schemas of many, so a turn leaves fewer
waiting maps and schemas (`Turn.lt`). For the same reason the slots, each made for a schema that
waits no more, are never more than the schemas there were (`Turns.load_le`).

* `turns_root`: a compilation ends, after no more turns and with no more slots than its schema holds
  schemas.
-/

set_option autoImplicit false

namespace Conform

namespace Build

variable {o : Options} {b c d : Build}

/-- The number of schemas in waiting maps. -/
def heldSize : List Pending → Nat
  | [] => 0
  | p :: ps => Schema.sizeNamed p.fields + heldSize ps

theorem pending_eq (ps : List Pending) : pending ps = ps.length + heldSize ps := by
  induction ps with
  | nil => rfl
  | cons p ps ih =>
    rw [pending, ih, heldSize, List.length_cons]
    omega

/-! ## Turns -/

/-- The last map that waits is compiled. -/
inductive Turn (o : Options) (b : Build) : Build → Prop
  | take {p : Pending} {rest : List Pending} (h : b.stack = p :: rest) :
    Turn o b (expand o p { b with stack := rest })

/-- So many turns, one after the other. -/
inductive Turns (o : Options) : Nat → Build → Build → Prop
  | none (b : Build) : Turns o 0 b b
  | turn {n : Nat} {b c d : Build} (first : Turn o b c) (rest : Turns o n c d) :
    Turns o (n + 1) b d

/-- A turn leaves fewer waiting maps and schemas. -/
theorem Turn.lt (h : Turn o b c) :
    c.stack.length + heldSize c.stack < b.stack.length + heldSize b.stack := by
  cases h with
  | @take p rest hs =>
    rw [← pending_eq, ← pending_eq, hs]
    exact pending_expand_lt o p { b with stack := rest }

theorem Turns.add_le {n : Nat} (h : Turns o n b c) :
    n + (c.stack.length + heldSize c.stack) ≤ b.stack.length + heldSize b.stack := by
  induction h with
  | none => omega
  | turn first _ ih =>
    have := first.lt
    omega

theorem turns_run (b : Build) : ∃ n, Turns o n b (run o b) := by
  fun_induction Build.run o b with
  | case1 b _ => exact ⟨0, .none b⟩
  | case2 b p rest hs ih =>
    obtain ⟨n, h⟩ := ih
    exact ⟨n + 1, .turn (.take hs) h⟩

/-! ## Slots -/

/-- The slots and the schemas that wait for one. -/
def load (b : Build) : Nat := b.slots.length + heldSize b.stack

theorem load_schedule_le (path : Path) (ps : Option (List (String × Schema)))
    (names : Option (List String)) (required : Bool) (b : Build) {n : Nat}
    (h : Schema.sizeProperties ps < n) :
    (schedule o path ps names required b).2.load ≤ b.load + n := by
  have hp := Schema.sizeNamed_prune_le o.blackList (ps.getD [])
  have hslots : (schedule o path ps names required b).2.slots.length = b.slots.length + 1 := by
    simp [schedule, alloc, warnAll_eq, slots]
  rw [load, hslots, stack_schedule, heldSize, load]
  cases ps <;> simp only [Schema.sizeProperties, Option.getD, Schema.sizeNamed] at h hp ⊢ <;> omega

@[simp] theorem load_setElement (b : Build) (slot element : Nat) :
    (b.setElement slot element).load = b.load := by
  simp [load, setElement, slots]

@[simp] theorem load_setFields (b : Build) (slot : Nat) (fs : List (String × Nat)) :
    (b.setFields slot fs).load = b.load := by
  simp [load, setFields, slots]

@[simp] theorem load_alloc (b : Build) (s : Slot) : (b.alloc s).2.load = b.load + 1 := by
  simp only [load, alloc, slots, Array.toList_push, List.length_append, List.length_singleton]
  omega

theorem load_leaf_le (path : Path) (s : Schema) (b : Build) :
    (leaf o path s b).2.load ≤ b.load + s.size := by
  rw [leaf, load_alloc, warnAll_eq]
  exact Nat.add_le_add_left s.size_pos b.load

theorem load_typed_le (path : Path) (s : Schema) (b : Build) :
    (typed o path s b).2.load ≤ b.load + s.size := by
  fun_induction typed o path s b with
  | case1 path s b _ i hi n list element ih =>
    have hn : n.size ≤ i.size := Schema.size_normalize_le i
    have hs := Schema.size_lt_of_items hi
    have hl : list.2.load = b.load + 1 := load_alloc b _
    have he : element.2.load ≤ list.2.load + n.size := by
      simp only [element]
      split
      · exact load_schedule_le _ _ _ _ _ (Schema.sizeProperties_lt n)
      · exact ih
    rw [load_setElement]
    omega
  | case2 path s b => exact load_leaf_le path s (b.warn path _)
  | case3 path s b _ _ ps hp =>
    exact load_schedule_le _ _ _ _ _ (Schema.sizeNamed_lt_of_properties hp)
  | case4 path s b => exact load_leaf_le path s (b.warn path _)
  | case5 path s b => exact load_leaf_le path s b

theorem load_field_le (path : Path) (name : String) (s : Schema) (b : Build) :
    (field o path name s b).2.load ≤ b.load + s.size := by
  unfold field
  split
  · rw [load_alloc]
    exact Nat.add_le_add_left s.size_pos b.load
  · split
    · refine load_schedule_le _ _ _ _ _ ?_
      exact Nat.lt_of_lt_of_le (Schema.sizeProperties_lt _) (Schema.size_normalize_le s)
    · exact load_typed_le path s b

theorem load_fields_le (path : Path) (ps : List (String × Schema)) (b : Build) :
    (fields o path ps b).2.load ≤ b.load + Schema.sizeNamed ps := by
  induction ps generalizing b with
  | nil => simp [fields]
  | cons p ps ih =>
    obtain ⟨name, s⟩ := p
    have h1 := load_field_le (o := o) (path.child name) name s b
    have h2 := ih (field o (path.child name) name s b).2
    simp only [fields, Schema.sizeNamed]
    omega

/-- A turn makes no more slots than it takes schemas from the stack. -/
theorem Turn.load_le (h : Turn o b c) : c.load ≤ b.load := by
  cases h with
  | @take p rest hs =>
    have hrest : b.load = load { b with stack := rest } + Schema.sizeNamed p.fields := by
      rw [load, hs, heldSize, Nat.add_comm (Schema.sizeNamed _), ← Nat.add_assoc]
      rfl
    rw [expand, load_setFields, hrest]
    exact load_fields_le p.path p.fields { b with stack := rest }

theorem Turns.load_le {n : Nat} (h : Turns o n b c) : c.load ≤ b.load := by
  induction h with
  | none => exact Nat.le_refl _
  | turn first _ ih => exact Nat.le_trans ih first.load_le

/-! ## Whole compilations -/

/-- At the start there is one slot, and one map waits, with no more schemas than are below the
root. -/
theorem start_sizes (o : Options) (s : Schema) :
    (start o s).slots.length = 1 ∧ (start o s).stack.length = 1 ∧
      heldSize (start o s).stack < s.size := by
  refine ⟨by rw [slots_start]; rfl, by rw [stack_start]; rfl, ?_⟩
  rw [stack_start, heldSize, heldSize]
  have hprune := Schema.sizeNamed_prune_le o.blackList (s.normalize.properties.getD [])
  have hroot := Schema.sizeProperties_lt s.normalize
  have hnormalize := Schema.size_normalize_le s
  cases hps : s.normalize.properties <;>
    simp only [hps, Schema.sizeProperties, Option.getD, Schema.sizeNamed] at hprune hroot ⊢ <;>
    omega

/-- **A compilation ends and does not blow up.** Every turn leaves fewer waiting maps and schemas
than there were, since merging never adds to the number of schemas. So the turns come to an end when
no map waits any more, there are no more of them than schemas in the schema that is compiled, and no
more slots either. -/
theorem turns_root (o : Options) (s : Schema) :
    (∀ b c, Turn o b c →
      c.stack.length + heldSize c.stack < b.stack.length + heldSize b.stack) ∧
    (∀ t : Schema, t.normalize.size ≤ t.size) ∧
    (∃ n, Turns o n (start o s) (root o s)) ∧
    (root o s).stack = [] ∧
    (∀ n c, Turns o n (start o s) c → n ≤ s.size) ∧
    (root o s).slots.length ≤ s.size := by
  obtain ⟨hslots, hstack, hheld⟩ := start_sizes o s
  obtain ⟨n, hn⟩ := turns_run (o := o) (start o s)
  refine ⟨fun _ _ h => h.lt, Schema.size_normalize_le, ⟨n, hn⟩, stack_run _, fun m c hm => ?_, ?_⟩
  · have := hm.add_le
    omega
  · have hload : (root o s).load ≤ (start o s).load := hn.load_le
    rw [load, load] at hload
    omega

end Build

end Conform
