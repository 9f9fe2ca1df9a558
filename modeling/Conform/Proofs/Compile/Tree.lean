import Conform.Proofs.Compile.Assembly
import Conform.Proofs.Lists
import Mathlib.Data.List.Nodup

/-!
# The tree of a compilation

When no map waits any more, the slots of a compilation are a tree (`IsTree`): the first one is the
object of the root, and each of the others is the child of one slot, which comes before it. So they
can be built from the last one to the first, and taking never fails (`Assembles`): what a slot asks
for is there, and when the root is taken nothing is left.

* `exists_parent`: what is referred to once has one parent.
* `Linked.assembles`: building linked slots never misses a validator.
* `slots_root`: the slots of every compilation are a tree and can be built.
-/

set_option autoImplicit false

namespace Conform

/-! ## Trees of slots -/

/-- Slots are a tree with the first one as its root. -/
structure IsTree (slots : List Slot) : Prop where
  /-- Children are slots, and come after the slot that they are children of. -/
  child : ∀ (i : Nat) (s : Slot), slots[i]? = some s → ∀ c ∈ s.children, i < c ∧ c < slots.length
  /-- Every slot but the first is the child of one slot, and once. -/
  parent : ∀ c, 0 < c → c < slots.length → ∃ (i : Nat) (s : Slot), slots[i]? = some s ∧
    s.children.count c = 1 ∧ ∀ (j : Nat) (t : Slot), slots[j]? = some t → c ∈ t.children → j = i

/-- What is referred to once is the child of one slot. -/
theorem exists_parent {slots : List Slot} {c : Nat} (h : (references slots).count c = 1) :
    ∃ (i : Nat) (s : Slot), slots[i]? = some s ∧ s.children.count c = 1 ∧
      ∀ (j : Nat) (t : Slot), slots[j]? = some t → c ∈ t.children → j = i := by
  have hc : c ∈ references slots := List.count_pos_iff.1 (by omega)
  obtain ⟨s, hs, hcs⟩ := List.mem_flatMap.1 hc
  obtain ⟨before, after, rfl⟩ := List.append_of_mem hs
  have hpos := List.count_pos_iff.2 hcs
  rw [references_append, references_cons, List.count_append, List.count_append] at h
  have hbefore : c ∉ references before := List.count_eq_zero.1 (by omega)
  have hafter : c ∉ references after := List.count_eq_zero.1 (by omega)
  refine ⟨before.length, s, getElem?_length_append before after s, by omega, fun j t ht hct => ?_⟩
  rcases Nat.lt_trichotomy j before.length with hj | hj | hj
  · rw [List.getElem?_append_left hj] at ht
    exact absurd (mem_references.2 ⟨j, t, ht, hct⟩) hbefore
  · exact hj
  · obtain ⟨d, rfl⟩ := Nat.exists_eq_add_of_lt hj
    rw [List.getElem?_append_right (by omega),
      show before.length + d + 1 - before.length = d + 1 by omega, List.getElem?_cons_succ] at ht
    exact absurd (mem_references.2 ⟨d, t, ht, hct⟩) hafter

/-! ## Building them -/

namespace Built

/-- The slots that fields ask for, each with the validators that are there when it is taken. -/
def askedFields : List (String × Nat) → Built → List (Nat × Built)
  | [], _ => []
  | (_, slot) :: fs, built => (slot, built) :: askedFields fs (built.take slot).2

/-- The slots that a slot asks for when it is built, each with the validators that are there when it
is taken. -/
def asked : Slot → Built → List (Nat × Built)
  | .leaf _, _ => []
  | .object fields _, built => askedFields fields built
  | .array element _ _ _, built => [(element, built)]

/-- Nothing is taken from a slot before it is asked for. -/
theorem askedFields_spec {fields : List (String × Nat)} {built : Built} {q : Nat × Built}
    (hn : (fields.map Prod.snd).Nodup) (hq : q ∈ askedFields fields built) :
    q.1 ∈ fields.map Prod.snd ∧ q.2[q.1]? = built[q.1]? := by
  induction fields generalizing built with
  | nil => cases hq
  | cons f fields ih =>
    obtain ⟨hf, hn⟩ := List.nodup_cons.1 hn
    rcases List.mem_cons.1 hq with rfl | hq
    · exact ⟨List.mem_cons_self, rfl⟩
    · obtain ⟨hmem, hget⟩ := ih hn hq
      have hne : q.1 ≠ f.2 := fun he => hf (he ▸ hmem)
      exact ⟨List.mem_cons_of_mem _ hmem, by rw [hget, getElem?_take, if_neg hne]⟩

theorem asked_spec {s : Slot} {built : Built} {q : Nat × Built} (hn : s.children.Nodup)
    (hq : q ∈ asked s built) : q.1 ∈ s.children ∧ q.2[q.1]? = built[q.1]? := by
  cases s with
  | leaf v => cases hq
  | object fields required => exact askedFields_spec hn hq
  | array element required least most =>
    cases List.mem_singleton.1 hq
    exact ⟨List.mem_singleton.2 rfl, rfl⟩

end Built

open Built in
/-- Building slots from the last one to the first finds every child there and leaves nothing. -/
structure Assembles (slots : List Slot) : Prop where
  /-- What a slot asks for is there: the validator that was built for it. -/
  found : ∀ (k : Nat) (s : Slot), slots[k]? = some s → ∀ q ∈ asked s (builtFrom slots (k + 1)),
    ∃ v, made slots q.1 = some v ∧ q.2[q.1]? = some (some v)
  /-- So is the first slot in the end. -/
  root : ∃ v, made slots 0 = some v ∧ (builtFrom slots 0)[0]? = some (some v)
  /-- When it is taken as well, nothing is left. -/
  rest : ∀ x ∈ ((builtFrom slots 0).take 0).2, x = none

namespace Build

variable {o : Options} {b : Build}

theorem Linked.isTree (h : b.Linked [] []) : IsTree b.slots := by
  refine ⟨fun i s hs c hc => ⟨h.later i s hs c hc, ((h.children_built hs).2 c hc).1⟩,
    fun c hpos hlt => exists_parent ?_⟩
  exact List.count_eq_one_of_mem (h.perm.nodup_iff.2 List.nodup_range')
    (h.mem_references_iff.2 ⟨hpos, hlt⟩)

theorem Linked.assembles (h : b.Linked [] []) : Assembles b.slots := by
  refine ⟨fun k s hs q hq => ?_, ?_, fun x hx => ?_⟩
  · obtain ⟨hnodup, hbuilt⟩ := h.children_built hs
    obtain ⟨hchild, hsame⟩ := Built.asked_spec hnodup hq
    obtain ⟨hlt, hget⟩ := hbuilt q.1 hchild
    obtain ⟨v, hv⟩ := Built.exists_made hlt
    exact ⟨v, hv, by rw [hsame, hget, hv]⟩
  · obtain ⟨v, hv⟩ := Built.exists_made h.pos
    exact ⟨v, hv, by rw [h.getElem?_builtFrom_zero h.pos, if_pos rfl, hv]⟩
  · obtain ⟨j, hj⟩ := Array.mem_iff_getElem?.1 hx
    have hlt := (Array.getElem?_eq_some_iff.1 hj).1
    rw [Built.size_take, Built.size_builtFrom] at hlt
    rw [Built.getElem?_take, h.getElem?_builtFrom_zero hlt] at hj
    by_cases hz : j = 0
    · rw [if_pos hz] at hj
      exact (Option.some.inj hj).symm
    · rw [if_neg hz, if_neg hz] at hj
      exact (Option.some.inj hj).symm

/-! ## The root -/

/-- Compiling fields gives a slot for each of them; all new slots come behind the old ones, also
those of the maps that are put on the stack. -/
theorem fields_appends (path : Path) (ps : List (String × Schema)) (b : Build) :
    (fields o path ps b).1.map Prod.fst = KeyMap.keys ps ∧
      (∃ more, (fields o path ps b).2.slots = b.slots ++ more) ∧
      ∀ q ∈ (fields o path ps b).2.stack, q ∈ b.stack ∨ b.slots.length ≤ q.slot := by
  induction ps generalizing b with
  | nil => exact ⟨rfl, ⟨[], by simp [fields]⟩, fun q hq => .inl hq⟩
  | cons p ps ih =>
    obtain ⟨name, s⟩ := p
    obtain ⟨g, hl, -⟩ := field_lays (o := o) (path.child name) name s b
    obtain ⟨hkeys, ⟨more, hmore⟩, hstack⟩ := ih (field o (path.child name) name s b).2
    refine ⟨congrArg (name :: ·) hkeys, ⟨g.slots ++ more, ?_⟩, fun q hq => ?_⟩
    · rw [← List.append_assoc, ← hl.grows.slots, ← hmore]
      rfl
    · rcases hstack q hq with hq | hq
      · rw [hl.grows.stack] at hq
        rcases List.mem_append.1 hq with hq | hq
        · rcases hl.shape.inv with ⟨hw, -⟩ | ⟨r, _, i, _, hw, -, hr, -⟩
          · rw [hw] at hq
            cases hq
          · rw [hw, List.mem_singleton] at hq
            subst hq
            exact .inr (by omega)
        · exact .inl hq
      · rw [hl.grows.slots, List.length_append] at hq
        exact .inr (by omega)

/-- The first slot is an object over these fields, and no map waits for it. -/
structure Rooted (fs : List (String × Nat)) (b : Build) : Prop where
  root : b.slots[0]? = some (.object fs false)
  others : ∀ q ∈ b.stack, q.slot ≠ 0

theorem Rooted.expand {fs : List (String × Nat)} {p : Pending} {rest : List Pending}
    (h : b.Rooted fs) (hl : b.Linked [] []) (hs : b.stack = p :: rest) :
    (expand o p { b with stack := rest }).Rooted fs := by
  obtain ⟨-, ⟨more, hmore⟩, hstack⟩ := fields_appends (o := o) p.path p.fields { b with stack := rest }
  have hp : p.slot ≠ 0 := h.others p (by simp [hs])
  obtain ⟨required, hslot⟩ := ((hl.pop hs).fields (o := o) p.path p.fields).1.unfilled p (by simp)
  refine ⟨?_, fun q hq => ?_⟩
  · rw [Build.expand, getElem?_setFields hslot, if_neg hp.symm, hmore,
      List.getElem?_append_left hl.pos]
    exact h.root
  · rcases hstack q hq with hq | hq
    · exact h.others q (by rw [hs]; exact List.mem_cons_of_mem _ hq)
    · have := hl.pos
      exact Nat.ne_of_gt (Nat.lt_of_lt_of_le this hq)

theorem Rooted.run {fs : List (String × Nat)} (h : b.Rooted fs) (hl : b.Linked [] []) :
    (run o b).Rooted fs := by
  fun_induction Build.run o b with
  | case1 b _ => exact h
  | case2 b p rest hs ih => exact ih (h.expand hl hs) (hl.expand hs)

/-- The first slot of a compilation is an object over the properties of the root, blacklisted ones
apart. -/
theorem rooted_root (o : Options) (s : Schema) :
    ∃ fs, (root o s).Rooted fs ∧
      fs.map Prod.fst = KeyMap.keys (prune o.blackList (s.normalize.properties.getD [])) := by
  have hstack := stack_start o s
  obtain ⟨hkeys, ⟨more, hmore⟩, hothers⟩ := fields_appends (o := o) .root
    (prune o.blackList (s.normalize.properties.getD [])) { start o s with stack := [] }
  have hfirst : (fields o .root (prune o.blackList (s.normalize.properties.getD []))
      { start o s with stack := [] }).2.slots[0]? = some (.object [] false) := by
    have hslots : ({ start o s with stack := [] } : Build).slots = [.object [] false] :=
      slots_start o s
    rw [hmore, hslots]
    rfl
  have hl := linked_start o s
  have hrun : root o s = run o (start o s) := rfl
  rw [hrun, run_of_cons hstack]
  refine ⟨_, Rooted.run ⟨?_, fun q hq => ?_⟩ (hl.expand hstack), hkeys⟩
  · rw [expand, getElem?_setFields hfirst, if_pos rfl]
  · rcases hothers q hq with hq | hq
    · cases hq
    · exact Nat.ne_of_gt (Nat.lt_of_lt_of_le hl.pos hq)

/-- **The slots of a compilation are a tree that can be built.** No map waits any more. The first slot
is the object of the root, each of the others is the child of one slot before it, and every list has
got its element. So while slots are built from the last one to the first, whatever is taken is there
and has not been taken, and the tree is what is built for the first slot, with nothing left over. -/
theorem slots_root (o : Options) (s : Schema) :
    (root o s).stack = [] ∧
    (∃ fs, (root o s).slots[0]? = some (.object fs false) ∧
      fs.map Prod.fst = KeyMap.keys (prune o.blackList (s.normalize.properties.getD []))) ∧
    IsTree (root o s).slots ∧
    (∀ (i element : Nat) (required : Bool) (least most : Option Nat),
      (root o s).slots[i]? = some (.array element required least most) → element ≠ 0) ∧
    Assembles (root o s).slots ∧
    Built.made (root o s).slots 0 = some (assemble (root o s).nodes) := by
  obtain ⟨fs, hrooted, hkeys⟩ := rooted_root o s
  have hl := linked_root o s
  refine ⟨stack_run _, ⟨fs, hrooted.root, hkeys⟩, hl.isTree,
    fun i element required least most hi => ?_, hl.assembles, hl.made_zero⟩
  exact Nat.ne_of_gt (Nat.zero_lt_of_lt (hl.later i _ hi element (List.mem_singleton.2 rfl)))

end Build

end Conform
