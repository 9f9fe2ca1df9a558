import Conform.Proofs.Compile.Assembly

/-!
# What the slots of a compilation stand for

Each slot stands for a validator from the moment it is there, although an object gets its fields
only when its map is taken from the stack. `Build.Means` says so of all slots at once: a slot that
is filled in agrees with its children, and a waiting map stands for the object over its fields, of
which exactly those in the list `required` next to them have a required path.

The required paths are kept in one set for the whole schema. A look-up in it is as good as one in
the list of the map since no two maps are ever put on the stack under one path: the paths of waiting
maps are apart, and nothing below their fields is required yet (`Build.Clear`).

* `validator_compile`: compiling gives the validator of the plain recursion.
-/

set_option autoImplicit false

namespace Conform

/-! ## Values of new slots -/

theorem Slot.Shows.append {values : List Validator} {s : Slot} {w : Validator}
    (h : s.Shows values w) (more : List Validator) : s.Shows (values ++ more) w := by
  cases s with
  | leaf v => exact h
  | object fields required =>
    obtain ⟨vs, rfl, hv⟩ := h
    refine ⟨vs, rfl, ?_⟩
    rw [← hv]
    refine List.map_congr_left fun f hf => ?_
    have hm := List.mem_map_of_mem (f := fun f => (f.1, values[f.2]?)) hf
    rw [hv] at hm
    obtain ⟨u, -, hu⟩ := List.mem_map.1 hm
    have hg : values[f.2]? = some u.2 := (congrArg Prod.snd hu).symm
    rw [List.getElem?_append_left (List.getElem?_eq_some_iff.1 hg).1]
  | array element required least most =>
    obtain ⟨v, hv, rfl⟩ := h
    refine ⟨v, ?_, rfl⟩
    rw [List.getElem?_append_left (List.getElem?_eq_some_iff.1 hv).1, hv]

namespace Growth.At

variable {o : Options} {n : Nat} {path : Path} {g : Growth}

/-- A new slot agrees with its children unless its map waits. -/
theorem shows (h : g.At o n path) {values : List Validator} (hn : values.length = n) {i : Nat}
    {s : Slot} (hi : g.slots[i]? = some s) (hw : ∀ q ∈ g.waiting, q.slot ≠ n + i) :
    ∃ w, g.values[i]? = some w ∧ s.Shows (values ++ g.values) w := by
  induction h generalizing values i with
  | leaf v =>
    cases i with
    | zero => cases hi; exact ⟨v, rfl, rfl⟩
    | succ i => simp at hi
  | object names fs required =>
    cases i with
    | zero => simp at hw
    | succ i => simp at hi
  | @list n path g v required least most element value ih =>
    cases i with
    | zero =>
      cases hi
      refine ⟨_, rfl, v, ?_, rfl⟩
      rw [List.getElem?_append_right (by omega), hn, show n + 1 - n = 1 by omega]
      simpa [List.head?_eq_getElem?] using value
    | succ i =>
      have hlen : (values ++ [Validator.array v required false least most]).length = n + 1 := by
        simp [hn]
      obtain ⟨w, hw', hs⟩ := ih hlen (by simpa using hi) fun q hq => by
        have := hw q hq
        omega
      exact ⟨w, by simpa using hw', by simpa using hs⟩

/-- New required paths are below the path of the position. -/
theorem required_below (h : g.At o n path) {t : Path} (ht : t ∈ g.required) :
    path <+: t ∧ path.length < t.length := by
  rcases h.inv with ⟨-, hr⟩ | ⟨q, names, i, required, -, hp, -, -, -, hr⟩
  · rw [hr] at ht
    simp at ht
  · rw [hr] at ht
    obtain ⟨name, -, -, rfl⟩ := mem_resolved.1 ht
    have := hp.length_le
    exact ⟨hp.trans (Path.prefix_child _ _), by rw [Path.length_child]; omega⟩

end Growth.At

namespace Build

variable {o : Options} {held : List Pending} {b c : Build} {values : List Validator} {path : Path}
  {g : Growth}

theorem Grows.mem_required (hg : b.Grows g c) {t : Path} :
    t ∈ c.required.paths ↔ t ∈ b.required.paths ∨ t ∈ g.required := by
  rw [hg.required, RequiredSet.mem_insertAll]

/-- Whether a path that is not new is required does not change. -/
theorem Grows.requires_eq (hg : b.Grows g c) {t : Path} (ht : t ∉ g.required) :
    c.requires t = b.requires t := by
  rw [Bool.eq_iff_iff, requires, requires, RequiredSet.contains_iff, RequiredSet.contains_iff,
    hg.mem_required]
  exact or_iff_left ht

/-! ## The invariant -/

/-- Nothing has been compiled at a path or below: no required path is below it, and no waiting map
is above or below it. -/
structure Clear (b : Build) (path : Path) : Prop where
  quiet : b.Quiet path
  stack : ∀ q ∈ b.stack, q.path.Apart path

/-- A waiting map stands for the object over its fields. Those in the list `names` next to them are
the ones whose paths are required. -/
structure Awaits (o : Options) (b : Build) (values : List Validator) (q : Pending)
    (names : List String) (required : Bool) : Prop where
  value : values[q.slot]? = some (.object (Plain.fields o names q.fields) required false)
  slot : b.slots[q.slot]? = some (.object [] required)
  requires : ∀ name ∈ KeyMap.keys q.fields, b.requires (q.path.child name) = names.contains name

/-- The slots of a compilation stand for `values`. The maps in `held` wait as well, besides those on
the stack. -/
structure Means (o : Options) (held : List Pending) (b : Build) (values : List Validator) :
    Prop where
  length : values.length = b.slots.length
  shown : ∀ (i : Nat) (s : Slot), b.slots[i]? = some s → (∀ q ∈ held ++ b.stack, q.slot ≠ i) →
    ∃ w, values[i]? = some w ∧ s.Shows values w
  waiting : ∀ q ∈ held ++ b.stack, ∃ names required, b.Awaits o values q names required
  sorted : ∀ q ∈ held ++ b.stack, Schema.SortedMap q.fields
  apart : b.stack.Pairwise fun p q => p.path.Apart q.path
  shallow : ∀ q ∈ b.stack, ∀ name, b.Quiet (q.path.child name)

/-- A map goes on waiting while none of its own paths becomes required. -/
theorem Awaits.grow {q : Pending} {names : List String} {required : Bool}
    (h : b.Awaits o values q names required) (hg : b.Grows g c)
    (hr : ∀ name, q.path.child name ∉ g.required) (more : List Validator) :
    c.Awaits o (values ++ more) q names required := by
  refine ⟨?_, ?_, fun name hn => ?_⟩
  · rw [List.getElem?_append_left (List.getElem?_eq_some_iff.1 h.value).1, h.value]
  · rw [hg.slots, List.getElem?_append_left (List.getElem?_eq_some_iff.1 h.slot).1, h.slot]
  · rw [hg.requires_eq (hr name), h.requires name hn]

/-- A position leaves what is apart from it as it was. -/
theorem Clear.grow {p : Path} (h : b.Clear p) (ha : path.Apart p) (hs : g.At o b.slots.length path)
    (hg : b.Grows g c) : c.Clear p := by
  refine ⟨fun t ht hp => ?_, fun q hq => ?_⟩
  · rcases hg.mem_required.1 ht with ht | ht
    · exact h.quiet t ht hp
    · exact absurd hp (ha.symm.not_below (hs.required_below ht).1)
  · rw [hg.stack] at hq
    rcases List.mem_append.1 hq with hq | hq
    · rcases hs.inv with ⟨hw, -⟩ | ⟨r, _, _, _, hw, hp, -⟩
      · rw [hw] at hq
        cases hq
      · rw [hw, List.mem_singleton] at hq
        subst hq
        exact (ha.symm.below hp).symm
    · exact h.stack q hq

/-- The map that a position puts on the stack waits there, and nothing is required below its
fields. -/
theorem Clear.waiting (hc : b.Clear path) (hl : values.length = b.slots.length)
    (hs : g.At o b.slots.length path) (hg : b.Grows g c) {q : Pending} (hq : q ∈ g.waiting) :
    path <+: q.path ∧ (∀ name, c.Quiet (q.path.child name)) ∧
      ∃ names required, c.Awaits o (values ++ g.values) q names required := by
  rcases hs.inv with ⟨hw, -⟩ | ⟨r, names, i, required, hw, hp, hi, hsl, hv, hr⟩
  · rw [hw] at hq
    cases hq
  rw [hw, List.mem_singleton] at hq
  subst hq
  have hfresh : ∀ t, q.path <+: t → q.path.length < t.length → t ∉ b.required.paths := by
    intro t hpt hlt ht
    have he := hc.quiet t ht (hp.trans hpt)
    have := hp.length_le
    subst he
    omega
  refine ⟨hp, fun name t ht hpt => ?_, names, required, ?_, ?_, fun name hn => ?_⟩
  · rcases hg.mem_required.1 ht with ht | ht
    · have := hpt.length_le
      rw [Path.length_child] at this
      exact absurd ht (hfresh t ((Path.prefix_child _ _).trans hpt) (by omega))
    · rw [hr] at ht
      obtain ⟨other, -, -, rfl⟩ := mem_resolved.1 ht
      exact (hpt.eq_of_length (by simp)).symm
  · rw [hi, ← hl, List.getElem?_append_right (by omega), Nat.add_sub_cancel_left, hv]
  · rw [hi, hg.slots, List.getElem?_append_right (by omega), Nat.add_sub_cancel_left, hsl]
  · rw [Bool.eq_iff_iff, requires, RequiredSet.contains_iff, hg.mem_required, hr, mem_resolved,
      List.contains_iff_mem]
    constructor
    · rintro (ht | ⟨other, ho, -, he⟩)
      · exact absurd ht (hfresh _ (Path.prefix_child _ _) (by simp))
      · rw [(Path.child_inj.1 he).2]
        exact ho
    · exact fun ho => .inr ⟨name, ho, hn, rfl⟩

/-- **A compiled position.** -/
theorem Means.grow (h : b.Means o held values) (hc : b.Clear path)
    (hh : ∀ q ∈ held, q.path.length < path.length) (hs : g.At o b.slots.length path)
    (hg : b.Grows g c) (hsort : ∀ q ∈ g.waiting, Schema.SortedMap q.fields) :
    c.Means o held (values ++ g.values) := by
  have hmem : ∀ {q}, q ∈ held ++ c.stack ↔ q ∈ g.waiting ∨ q ∈ held ++ b.stack := by
    intro q
    rw [hg.stack]
    simp only [List.mem_append]
    exact or_left_comm
  -- the new required paths are none of those that the waiting maps look up
  have hold : ∀ q ∈ held ++ b.stack, ∀ name, q.path.child name ∉ g.required := by
    intro q hq name ht
    obtain ⟨hp, hl⟩ := hs.required_below ht
    rcases List.mem_append.1 hq with hq | hq
    · have := hh q hq
      rw [Path.length_child] at hl
      omega
    · exact (hc.stack q hq).not_below hp (Path.prefix_child _ _)
  have hnew : ∀ q ∈ g.waiting, path <+: q.path ∧ (∀ name, c.Quiet (q.path.child name)) ∧
      ∃ names required, c.Awaits o (values ++ g.values) q names required :=
    fun q hq => hc.waiting h.length hs hg hq
  refine ⟨?_, fun i s hi hw => ?_, fun q hq => ?_, fun q hq => ?_, ?_, fun q hq name => ?_⟩
  · rw [hg.slots, List.length_append, List.length_append, h.length, hs.length_values]
  · rw [hg.slots] at hi
    rcases Nat.lt_or_ge i b.slots.length with hlt | hge
    · rw [List.getElem?_append_left hlt] at hi
      obtain ⟨w, hv, hsh⟩ := h.shown i s hi fun q hq => hw q (hmem.2 (.inr hq))
      exact ⟨w, by rw [List.getElem?_append_left (h.length ▸ hlt), hv], hsh.append _⟩
    · obtain ⟨k, rfl⟩ := Nat.exists_eq_add_of_le hge
      rw [List.getElem?_append_right hge, Nat.add_sub_cancel_left] at hi
      obtain ⟨w, hv, hsh⟩ := hs.shows h.length hi fun q hq => hw q (hmem.2 (.inl hq))
      refine ⟨w, ?_, hsh⟩
      rw [← h.length, List.getElem?_append_right (by omega), Nat.add_sub_cancel_left, hv]
  · rcases hmem.1 hq with hq | hq
    · exact (hnew q hq).2.2
    · obtain ⟨names, required, ha⟩ := h.waiting q hq
      exact ⟨names, required, ha.grow hg (hold q hq) _⟩
  · rcases hmem.1 hq with hq | hq
    · exact hsort q hq
    · exact h.sorted q hq
  · rw [hg.stack, List.pairwise_append]
    refine ⟨?_, h.apart, fun p hp q hq => ((hc.stack q hq).below (hnew p hp).1).symm⟩
    rcases hs.inv with ⟨hw, -⟩ | ⟨q, _, _, _, hw, -⟩
    · rw [hw]
      exact List.Pairwise.nil
    · rw [hw]
      exact List.pairwise_singleton _ _
  · rw [hg.stack] at hq
    rcases List.mem_append.1 hq with hq | hq
    · exact (hnew q hq).2.1 name
    · intro t ht hp
      rcases hg.mem_required.1 ht with ht | ht
      · exact h.shallow q hq name t ht hp
      · exact absurd ((Path.prefix_child _ _).trans hp)
          ((hc.stack q hq).not_below (hs.required_below ht).1)

/-! ## Turns -/

/-- The fields of a map stand for what `Plain.fields` makes of them. -/
theorem Means.fields (h : b.Means o held values) (path : Path)
    (hh : ∀ q ∈ held, q.path.length ≤ path.length) {names : List String}
    {ps : List (String × Schema)} (hs : Schema.SortedMap ps)
    (hc : ∀ name ∈ KeyMap.keys ps, b.Clear (path.child name))
    (hr : ∀ name ∈ KeyMap.keys ps, b.requires (path.child name) = names.contains name) :
    ∃ more, (fields o path ps b).2.Means o held (values ++ more) ∧
      (fields o path ps b).1.map (fun f => (f.1, (values ++ more)[f.2]?)) =
        (Plain.fields o names ps).map fun f => (f.1, some f.2) := by
  induction ps generalizing b values with
  | nil => exact ⟨[], by simpa [Build.fields] using h, by simp [Build.fields, Plain.fields]⟩
  | cons p ps ih =>
    obtain ⟨name, s⟩ := p
    obtain ⟨g, hl, hsort⟩ := field_lays (o := o) (path.child name) name s b
    have hcl := hc name List.mem_cons_self
    have h1 := h.grow hcl (fun q hq => by have := hh q hq; rw [Path.length_child]; omega) hl.shape
      hl.grows (hsort (hs.sorted (name, s) List.mem_cons_self))
    have hne : ∀ other ∈ KeyMap.keys ps, name ≠ other := fun other ho he =>
      hs.ascending.head_notMem (he ▸ ho)
    obtain ⟨more, h2, hv⟩ := ih h1 hs.tail
      (fun other ho => (hc other (List.mem_cons_of_mem _ ho)).grow
        (Path.apart_child (hne other ho)) hl.shape hl.grows)
      (fun other ho => by
        rw [hl.grows.requires_eq fun ht => ?_]
        · exact hr other (List.mem_cons_of_mem _ ho)
        · have := (hl.shape.required_below ht).2
          simp at this)
    refine ⟨g.values ++ more, by simpa [Build.fields] using h2, ?_⟩
    have hfirst : (values ++ (g.values ++ more))[b.slots.length]? =
        some (Plain.field o name s (names.contains name)) := by
      have hv := hl.value hcl.quiet
      rw [hr name List.mem_cons_self, List.head?_eq_getElem?] at hv
      rw [← h.length, List.getElem?_append_right (Nat.le_refl _), Nat.sub_self,
        List.getElem?_append_left (List.getElem?_eq_some_iff.1 hv).1, hv]
    rw [Plain.fields]
    simp only [Build.fields, List.map_cons, hl.slot, hfirst]
    rw [← List.append_assoc, hv]

/-- A map whose fields are filled in does not wait any more. -/
theorem Means.close {p : Pending} {fs : List (String × Nat)} {vs : List (String × Validator)}
    {required : Bool} (h : b.Means o [p] values) (hn : (([p] ++ b.stack).map Pending.slot).Nodup)
    (hp : b.slots[p.slot]? = some (.object [] required))
    (hv : values[p.slot]? = some (.object vs required false))
    (hf : fs.map (fun f => (f.1, values[f.2]?)) = vs.map fun f => (f.1, some f.2)) :
    (b.setFields p.slot fs).Means o [] values := by
  have hne : ∀ q ∈ b.stack, q.slot ≠ p.slot := fun q hq he =>
    (List.nodup_cons.1 hn).1 (List.mem_map.2 ⟨q, hq, he⟩)
  refine ⟨?_, fun i s hi hw => ?_, fun q hq => ?_, fun q hq => ?_, h.apart, h.shallow⟩
  · rw [h.length]
    simp [setFields, slots]
  · rw [getElem?_setFields hp] at hi
    split at hi
    · rename_i he
      subst he
      cases hi
      exact ⟨_, hv, vs, rfl, hf⟩
    · rename_i hip
      refine h.shown i s hi fun q hq => ?_
      rcases List.mem_cons.1 hq with rfl | hq
      · exact Ne.symm hip
      · exact hw q hq
  · obtain ⟨names, flag, hq'⟩ := h.waiting q (List.mem_cons_of_mem _ hq)
    refine ⟨names, flag, hq'.value, ?_, hq'.requires⟩
    rw [getElem?_setFields hp, if_neg (hne q hq)]
    exact hq'.slot
  · exact h.sorted q (List.mem_cons_of_mem _ hq)

/-- A map that is taken from the stack still waits, and nothing has been compiled at its fields. -/
theorem Means.pop {p : Pending} {rest : List Pending} (h : b.Means o [] values)
    (hs : b.stack = p :: rest) :
    Means o [p] { b with stack := rest } values ∧
      ∀ name, Clear { b with stack := rest } (p.path.child name) := by
  obtain ⟨hlength, hshown, hwaiting, hsorted, hapart, hshallow⟩ := h
  rw [hs] at hshown hwaiting hsorted hapart hshallow
  obtain ⟨hp, hrest⟩ := List.pairwise_cons.1 hapart
  refine ⟨⟨hlength, hshown, fun q hq => ?_, hsorted, hrest,
    fun q hq => hshallow q (List.mem_cons_of_mem _ hq)⟩, fun name => ⟨?_, fun q hq => ?_⟩⟩
  · obtain ⟨names, required, ha⟩ := hwaiting q hq
    exact ⟨names, required, ha.value, ha.slot, ha.requires⟩
  · exact hshallow p List.mem_cons_self name
  · exact (hp q hq).symm.below (Path.prefix_child _ _)

/-- A turn. -/
theorem Means.expand {p : Pending} {rest : List Pending} (hl : b.Linked [] [])
    (h : b.Means o [] values) (hs : b.stack = p :: rest) :
    ∃ more, (expand o p { b with stack := rest }).Means o [] (values ++ more) := by
  obtain ⟨h', hc⟩ := h.pop hs
  obtain ⟨names, required, ha⟩ := h'.waiting p List.mem_cons_self
  obtain ⟨more, h1, hv⟩ := h'.fields p.path (by simp) (h'.sorted p List.mem_cons_self)
    (fun name _ => hc name) (fun name hn => ha.requires name hn)
  have hl1 := ((hl.pop hs).fields (o := o) p.path p.fields).1
  obtain ⟨names', required', ha'⟩ := h1.waiting p List.mem_cons_self
  have hsame : Plain.fields o names' p.fields = Plain.fields o names p.fields := by
    have hv' := ha'.value
    rw [List.getElem?_append_left (List.getElem?_eq_some_iff.1 ha.value).1, ha.value] at hv'
    simp only [Option.some.injEq, Validator.object.injEq] at hv'
    exact hv'.1.symm
  exact ⟨more, h1.close hl1.apart ha'.slot ha'.value (by rw [hsame]; exact hv)⟩

theorem Means.run (hl : b.Linked [] []) (h : b.Means o [] values) :
    ∃ more, (run o b).Means o [] (values ++ more) := by
  fun_induction Build.run o b generalizing values with
  | case1 b _ => exact ⟨[], by simpa using h⟩
  | case2 b p rest hs ih =>
    obtain ⟨more, h1⟩ := h.expand hl hs
    obtain ⟨more', h2⟩ := ih (hl.expand hs) h1
    exact ⟨more ++ more', by rw [← List.append_assoc]; exact h2⟩

/-! ## Whole schemas -/

theorem means_start (o : Options) {s : Schema} (hs : s.Sorted) :
    (start o s).Means o [] [Plain.root o s] := by
  obtain ⟨g, hat, hg, -, hv, hw⟩ := start_grows o s
  have hempty : empty.Means o [] [] :=
    ⟨rfl, by simp [empty], by simp [empty], by simp [empty], List.Pairwise.nil, by simp [empty]⟩
  have hclear : empty.Clear .root := ⟨by simp [Quiet, empty, RequiredSet.empty], by simp [empty]⟩
  have := hempty.grow hclear (by simp) hat hg fun q hq => by
    rw [hw, List.mem_singleton] at hq
    subst hq
    exact hs.normalize.getD_properties.prune _
  rwa [hv] at this

end Build

/-- A compilation ends with slots whose tree is the validator of the plain recursion. -/
theorem assemble_root (o : Options) {s : Schema} (hs : s.Sorted) :
    assemble (Build.root o s).nodes = Plain.root o s := by
  obtain ⟨more, hm⟩ := (Build.means_start o hs).run (Build.linked_start o s)
  have h0 := assemble_eq (Build.linked_root o s) fun i t hi => hm.shown i t hi (by
    simp [Build.stack_run])
  simpa using h0.symm

/-- **Compiling is the plain recursion.** The turns, the slots and the set of required paths leave
no trace in the validator. -/
theorem validator_compile (o : Options) (s : Schema) (hs : s.Sorted) :
    (compile o s).validator = Plain.root o s :=
  assemble_root o hs

theorem Plain.root_shipment (v : Validator) :
    Plain.root ⟨.default, [("note", v)], [], false⟩ Schema.shipment =
      .object
        [("note", v), ("secret", .scalar (Scalar.of .string).allowNull.require),
          ("stops", .array (.object [("name", .scalar (Scalar.of .string).allowNull.require)]
            false false) true false none none)]
        false false := by
  simp [Plain.root, Plain.object, Plain.fields, Plain.field, Plain.typed, Plain.item,
    Plain.leaf_eq, Schema.shipment, Schema.stop, Schema.ofProperties, Schema.ofItems,
    Schema.ofType, Schema.isObjectItem, Schema.normalize, Schema.normalizeOnto, Schema.merge,
    Schema.mergeProperties, Schema.mergeNamed, Schema.mergeItems, Schema.empty, Schema.typeName?,
    KeyMap.alter, Facets.merge, joinLists, prune, Facets.empty, TypeDecl.primary?, List.lookup_cons]
  rfl

theorem validator_compile_shipment :
    Schema.shipment.Sorted ∧
    (compile ⟨.default, [("note", .scalar .permissive)], [], false⟩ Schema.shipment).validator =
      .object
        [("note", .scalar .permissive), ("secret", .scalar (Scalar.of .string).allowNull.require),
          ("stops", .array (.object [("name", .scalar (Scalar.of .string).allowNull.require)]
            false false) true false none none)]
        false false :=
  ⟨Schema.sorted_shipment,
    (validator_compile _ _ Schema.sorted_shipment).trans (Plain.root_shipment _)⟩

end Conform
