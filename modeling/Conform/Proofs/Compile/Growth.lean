import Conform.Proofs.Compile.Plain
import Conform.Proofs.Compile.Required
import Conform.Proofs.Path
import Conform.Proofs.Schema.Sorted

/-!
# What a position adds to a compilation

Compiling a position (`Build.field`, `Build.typed`) only adds to a compilation: some lists, each the
element of the one before, and at their end a leaf or an object that waits for its fields.
`Growth.At` describes these additions, and `Build.Lays` says that compiling a position made them.
All that is proved about the turns of a compilation follows from these two, and no later proof opens
`Build.field`.

* `field_lays`: a field adds a `Growth` at its path, whose first value is `Plain.field`.
* `Growth.At.inv`: at most one map is put on the stack, and the required paths are those of its
  required names.
-/

set_option autoImplicit false

namespace Conform

/-- The slots that a slot refers to. -/
def Slot.children : Slot → List Nat
  | .leaf _ => []
  | .object fields _ => fields.map Prod.snd
  | .array element _ _ _ => [element]

/-! ## Additions -/

/-- Slots, waiting maps and required paths that are new, and the validators that the slots stand for
once all waiting maps are expanded. -/
structure Growth where
  slots : List Slot
  waiting : List Pending
  required : List Path
  values : List Validator

/-- The additions of a position at a path whose first slot is numbered `n`. -/
inductive Growth.At (o : Options) : Nat → Path → Growth → Prop
  | leaf {n : Nat} {path : Path} (v : Validator) : At o n path ⟨[.leaf v], [], [], [v]⟩
  | object {n : Nat} {path : Path} (names : List String) (fs : List (String × Schema))
      (required : Bool) :
      At o n path ⟨[.object [] required], [⟨path, n, fs⟩],
        (resolve path (KeyMap.keys fs) names).resolved,
        [.object (Plain.fields o names fs) required false]⟩
  | list {n : Nat} {path : Path} {g : Growth} {v : Validator} (required : Bool)
      (least most : Option Nat) (element : At o (n + 1) path.items g)
      (value : g.values.head? = some v) :
      At o n path ⟨.array (n + 1) required least most :: g.slots, g.waiting, g.required,
        .array v required false least most :: g.values⟩

namespace Growth.At

variable {o : Options} {n : Nat} {path : Path} {g : Growth}

theorem length_values (h : g.At o n path) : g.values.length = g.slots.length := by
  induction h with
  | leaf => rfl
  | object => rfl
  | list _ _ _ _ _ ih => simp [ih]

theorem slots_pos (h : g.At o n path) : 0 < g.slots.length := by
  cases h <;> simp

/-- Each new slot but the first is the child of the one before it. -/
theorem children (h : g.At o n path) :
    g.slots.flatMap Slot.children = List.range' (n + 1) (g.slots.length - 1) := by
  induction h with
  | leaf => rfl
  | object => rfl
  | list required least most element _ ih =>
    obtain ⟨k, hk⟩ := Nat.exists_eq_succ_of_ne_zero (Nat.ne_of_gt element.slots_pos)
    simp [Slot.children, ih, hk, List.range'_succ]

theorem child_gt (h : g.At o n path) {i c : Nat} {s : Slot} (hs : g.slots[i]? = some s)
    (hc : c ∈ s.children) : n + i < c := by
  induction h generalizing i with
  | leaf v =>
    cases i with
    | zero =>
      simp only [List.getElem?_cons_zero, Option.some.injEq] at hs
      subst hs
      simp [Slot.children] at hc
    | succ i => simp at hs
  | object names fs required =>
    cases i with
    | zero =>
      simp only [List.getElem?_cons_zero, Option.some.injEq] at hs
      subst hs
      simp [Slot.children] at hc
    | succ i => simp at hs
  | list required least most element _ ih =>
    cases i with
    | zero =>
      simp only [List.getElem?_cons_zero, Option.some.injEq] at hs
      subst hs
      simp only [Slot.children, List.mem_singleton] at hc
      omega
    | succ i =>
      have := ih (by simpa using hs)
      omega

/-- Nothing waits, or one map below the path does: its slot is a new one without fields, and the
required paths are those of its required names. -/
theorem inv (h : g.At o n path) :
    (g.waiting = [] ∧ g.required = []) ∨
      ∃ (q : Pending) (names : List String) (i : Nat) (required : Bool), g.waiting = [q] ∧
        path <+: q.path ∧ q.slot = n + i ∧ g.slots[i]? = some (.object [] required) ∧
        g.values[i]? = some (.object (Plain.fields o names q.fields) required false) ∧
        g.required = (resolve q.path (KeyMap.keys q.fields) names).resolved := by
  induction h with
  | leaf => exact .inl ⟨rfl, rfl⟩
  | object names fs required =>
    exact .inr ⟨_, names, 0, required, rfl, List.prefix_refl _, rfl, rfl, rfl, rfl⟩
  | list required least most element _ ih =>
    rcases ih with ih | ⟨q, names, i, flag, hw, hp, hs, hsl, hv, hr⟩
    · exact .inl ih
    · refine .inr ⟨q, names, i + 1, flag, hw, (Path.prefix_items _).trans hp, by omega, ?_, ?_, hr⟩
      · simpa using hsl
      · simpa using hv

end Growth.At

/-! ## Compiling adds -/

namespace Build

/-- The slots in the order of their numbers. -/
abbrev slots (b : Build) : List Slot := b.nodes.toList

/-- The compilation `c` is `b` with additions, warnings apart. -/
structure Grows (b : Build) (g : Growth) (c : Build) : Prop where
  slots : c.slots = b.slots ++ g.slots
  stack : c.stack = g.waiting ++ b.stack
  required : c.required = b.required.insertAll g.required

/-- No path below `path` is required. -/
def Quiet (b : Build) (path : Path) : Prop := ∀ t ∈ b.required.paths, path <+: t → t = path

variable (o : Options)

/-- Compiling a position at `path` made the additions `g`: the slot that it gives is the first new
one and stands for `v`. -/
structure Lays (path : Path) (b : Build) (g : Growth) (r : Nat × Build) (v : Validator) : Prop where
  shape : g.At o b.slots.length path
  slot : r.1 = b.slots.length
  grows : b.Grows g r.2
  value : b.Quiet path → g.values.head? = some v

theorem warnAll_eq (b : Build) (path : Path) (ks : List WarningKind) :
    b.warnAll path ks =
      { b with warnings := b.warnings ++ (ks.map fun k => (⟨path, k⟩ : Warning)).toArray } := by
  induction ks generalizing b with
  | nil => simp [warnAll]
  | cons k ks ih =>
    have h : b.warnAll path (k :: ks) = (b.warn path k).warnAll path ks := rfl
    rw [h, ih]
    simp only [warn, List.map_cons, ← Array.toList_inj, mk.injEq, true_and, Array.toList_append,
      Array.toList_push, List.append_assoc, List.cons_append, List.nil_append]

variable {o}

theorem schedule_lays (path : Path) (ps : Option (List (String × Schema)))
    (names : Option (List String)) (required : Bool) (b : Build) :
    ∃ g, Lays o path b g (schedule o path ps names required b) (Plain.object o ps names required) ∧
      ∀ q ∈ g.waiting, q.fields = prune o.blackList (ps.getD []) := by
  refine ⟨_, ⟨.object (names.getD []) (prune o.blackList (ps.getD [])) required, ?_, ⟨?_, ?_, ?_⟩,
    fun _ => ?_⟩, ?_⟩
  · simp [schedule, alloc, warnAll_eq, slots]
  · simp [schedule, alloc, warnAll_eq, slots]
  · simp [schedule, alloc, warnAll_eq, slots]
  · simp [schedule, alloc, warnAll_eq]
  · rw [Plain.object]; rfl
  · simp

theorem leaf_lays (path : Path) (s : Schema) (b : Build) :
    Lays o path b ⟨[.leaf (.scalar (o.leafScalar s (b.requires path)))], [], [],
        [.scalar (o.leafScalar s (b.requires path))]⟩ (leaf o path s b)
      (.scalar (o.leafScalar s (b.requires path))) := by
  refine ⟨.leaf _, ?_, ⟨?_, ?_, ?_⟩, fun _ => rfl⟩
  · simp [leaf, alloc, warnAll_eq, slots]
  · simp [leaf, alloc, warnAll_eq, requires, slots]
  · simp [leaf, alloc, warnAll_eq]
  · simp [leaf, alloc, warnAll_eq, RequiredSet.insertAll]

/-- A leaf that is compiled after a warning. -/
theorem leaf_warn_lays (path : Path) (s : Schema) (b : Build) (k : WarningKind) :
    ∃ g, Lays o path b g (leaf o path s (b.warn path k))
        (.scalar (o.leafScalar s (b.requires path))) ∧ g.waiting = [] :=
  have h := leaf_lays (o := o) path s (b.warn path k)
  ⟨_, ⟨h.shape, h.slot, ⟨h.grows.slots, h.grows.stack, h.grows.required⟩, h.value⟩, rfl⟩

theorem modify_append_cons {α : Type} (as : List α) (a : α) (bs : List α) (f : α → α) :
    (as ++ a :: bs).modify as.length f = as ++ f a :: bs := by
  induction as with
  | nil => rfl
  | cons c as ih => simp [ih]

/-- A list is compiled before its element, which it gets afterwards. -/
theorem list_lays {path : Path} {b : Build} {least most : Option Nat} {g : Growth}
    {r : Nat × Build} {v w : Validator}
    (h : Lays o path.items (b.alloc (.array 0 (b.requires path) least most)).2 g r w)
    (hv : b.Quiet path → g.values.head? = some v) :
    ∃ g', Lays o path b g' (b.nodes.size, r.2.setElement b.nodes.size r.1)
        (.array v (b.requires path) false least most) ∧ g'.waiting = g.waiting := by
  have hn : (b.alloc (.array 0 (b.requires path) least most)).2.slots.length =
      b.slots.length + 1 := by simp [alloc, slots]
  have hs := h.shape
  rw [hn] at hs
  obtain ⟨u, hu⟩ : ∃ u, g.values.head? = some u := by
    cases hg : g.values with
    | nil => have := hs.length_values; have := hs.slots_pos; simp_all
    | cons u us => exact ⟨u, rfl⟩
  refine ⟨_, ⟨.list (b.requires path) least most hs hu, by simp [slots], ⟨?_, ?_, ?_⟩,
    fun hq => ?_⟩, rfl⟩
  · have hg : r.2.slots = b.slots ++ .array 0 (b.requires path) least most :: g.slots := by
      rw [h.grows.slots]
      simp [alloc, slots]
    have hl : b.nodes.size = b.slots.length := by simp [slots]
    have hr : r.1 = b.slots.length + 1 := by rw [h.slot, hn]
    show (r.2.nodes.modify _ _).toList = _
    rw [Array.toList_modify, show r.2.nodes.toList = _ from hg, hl, modify_append_cons, hr]
  · exact h.grows.stack
  · exact h.grows.required
  · have := hv hq
    rw [hu] at this
    cases this
    rfl

theorem Quiet.items {b : Build} {path : Path} (h : b.Quiet path) : b.Quiet path.items := by
  intro t ht hp
  have he := h t ht ((Path.prefix_items path).trans hp)
  have := hp.length_le
  rw [he, Path.length_items] at this
  omega

/-- The items of a list are never required. -/
theorem Quiet.requires_items {b : Build} {path : Path} (h : b.Quiet path) :
    b.requires path.items = false := by
  cases hr : b.requires path.items with
  | false => rfl
  | true =>
    have he := h _ (RequiredSet.contains_iff.1 hr) (Path.prefix_items path)
    have := congrArg List.length he
    simp at this

theorem typed_lays (path : Path) (s : Schema) (b : Build) :
    ∃ g, Lays o path b g (typed o path s b) (Plain.typed o s (b.requires path)) ∧
      (s.Sorted → ∀ q ∈ g.waiting, Schema.SortedMap q.fields) := by
  fun_induction typed o path s b with
  | case1 path s b ht i hi n list element ih =>
    have hel : ∃ g w, Lays o path.items list.2 g element w ∧
        (b.Quiet path → g.values.head? = some (Plain.item o i)) ∧
        (i.Sorted → ∀ q ∈ g.waiting, Schema.SortedMap q.fields) := by
      rw [Plain.item]
      by_cases hob : n.isObjectItem = true
      · obtain ⟨g, hg, hw⟩ :=
          schedule_lays (o := o) path.items n.properties n.facets.required false list.2
        have he : element = _ := dif_pos hob
        rw [he]
        refine ⟨g, _, hg, fun hq => ?_, fun hs q hq => ?_⟩
        · rw [if_pos hob]
          exact hg.value hq.items
        · exact hw q hq ▸ hs.normalize.getD_properties.prune _
      · obtain ⟨g, hg, hw⟩ := ih
        have he : element = _ := dif_neg hob
        rw [he]
        refine ⟨g, _, hg, fun hq => ?_, fun hs => hw hs.normalize⟩
        rw [if_neg hob, ← hq.requires_items]
        exact hg.value hq.items
    obtain ⟨g, w, hg, hv, hw⟩ := hel
    obtain ⟨g', hg', hw'⟩ := list_lays hg hv
    rw [Plain.typed_of_items ht hi]
    exact ⟨g', hg', fun hs => by rw [hw']; exact hw (hs.item hi)⟩
  | case2 path s b ht hi =>
    obtain ⟨g, hg, hw⟩ := leaf_warn_lays (o := o) path s b .arrayWithoutItems
    rw [Plain.typed_of_no_items ht hi]
    exact ⟨g, hg, fun _ => by simp [hw]⟩
  | case3 path s b ha ht ps hp =>
    obtain ⟨g, hg, hw⟩ :=
      schedule_lays (o := o) path (some ps) s.facets.required (b.requires path) b
    rw [Plain.typed_of_properties ht hp]
    exact ⟨g, hg, fun hs q hq => hw q hq ▸ (hs.map hp).prune _⟩
  | case4 path s b ha ht hp =>
    obtain ⟨g, hg, hw⟩ := leaf_warn_lays (o := o) path s b .objectWithoutProperties
    rw [Plain.typed_of_no_properties ht hp]
    exact ⟨g, hg, fun _ => by simp [hw]⟩
  | case5 path s b ha ht =>
    rw [Plain.typed_of_other ha ht]
    exact ⟨_, leaf_lays path s b, fun _ => by simp⟩

/-- **What compiling a field does.** -/
theorem field_lays (path : Path) (name : String) (s : Schema) (b : Build) :
    ∃ g, Lays o path b g (field o path name s b) (Plain.field o name s (b.requires path)) ∧
      (s.Sorted → ∀ q ∈ g.waiting, Schema.SortedMap q.fields) := by
  cases hc : o.custom.lookup name with
  | some v =>
    rw [Plain.field_of_custom hc, field, hc]
    refine ⟨_, ⟨.leaf v, ?_, ⟨?_, ?_, ?_⟩, fun _ => rfl⟩, by simp⟩ <;>
      simp [alloc, slots, RequiredSet.insertAll]
  | none =>
    by_cases ha : s.allOf.isSome = true
    · obtain ⟨g, hg, hw⟩ := schedule_lays (o := o) path s.normalize.properties
        s.normalize.facets.required (b.requires path) b
      rw [Plain.field_of_allOf hc ha, field, hc]
      simp only [if_pos ha]
      exact ⟨g, hg, fun hs q hq => hw q hq ▸ hs.normalize.getD_properties.prune _⟩
    · rw [Plain.field_of_typed hc ha, field, hc]
      simp only [if_neg ha]
      exact typed_lays path s b

end Build

end Conform
