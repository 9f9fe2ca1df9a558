import Conform.Proofs.Compile.Meaning

/-!
# Compilations that keep step

A `Simulation` is a change to schemas, and to the options with them, that compiling does not notice:
some names are left out of objects, which the blacklist would leave out anyway, and what is under a
name for which a validator is given may become anything. The compilation of the changed schema keeps
step with that of the schema itself. After every turn they have the same slots, warnings and
required paths, and the waiting maps of one are those of the other with the change made to their
fields (`Build.through`).

* `expand_through`, `run_through`: a turn and a whole run keep step.
* `Simulation.compile_eq`: the same validator and the same warnings in the same order.
-/

set_option autoImplicit false

namespace Conform

open Schema

/-- A change from schemas that are compiled with options `o` to schemas that are compiled with
options `o'`. -/
structure Simulation (o o' : Options) where
  onSchema : Schema → Schema
  /-- What becomes of the schema of a property. -/
  onField : String → Schema → Schema
  /-- The names that are not left out. -/
  keeps : String → Bool
  types : o'.types = o.types
  custom : o'.custom = o.custom
  blackList : ∀ name, o.blackList.contains name = (!keeps name || o'.blackList.contains name)
  facets : ∀ s, ∃ extra, (onSchema s).facets =
    { s.facets with required := s.facets.required.map (·.filter keeps), extra := extra }
  properties : ∀ s, (onSchema s).properties = s.properties.map fun ps =>
    (ps.filter fun p => keeps p.1).map fun p => (p.1, onField p.1 p.2)
  items : ∀ s, (onSchema s).items = s.items.map onSchema
  allOf : ∀ s, (onSchema s).allOf.isSome = s.allOf.isSome
  field : ∀ name s, o.custom.lookup name = none → onField name s = onSchema s
  normalize : ∀ s : Schema, s.Sorted → (onSchema s).normalize = onSchema s.normalize

/-- Keeping all names changes no list. -/
theorem map_filter_true {α : Type} (x : Option (List α)) :
    (x.map fun as => as.filter fun _ => true) = x := by
  cases x with
  | none => rfl
  | some as => exact congrArg some (List.filter_eq_self.2 fun _ _ => rfl)

namespace Simulation

variable {o o' : Options} (sim : Simulation o o')

/-- What becomes of fields from which the blacklisted names have been taken. -/
def onFields (ps : List (String × Schema)) : List (String × Schema) :=
  ps.map fun p => (p.1, sim.onField p.1 p.2)

/-- What becomes of properties. -/
def onProperties (ps : List (String × Schema)) : List (String × Schema) :=
  sim.onFields (ps.filter fun p => sim.keeps p.1)

theorem typeName?_eq (s : Schema) : (sim.onSchema s).typeName? = s.typeName? := by
  obtain ⟨extra, h⟩ := sim.facets s
  rw [typeName?, typeName?, h]

theorem required_eq (s : Schema) :
    (sim.onSchema s).facets.required = s.facets.required.map (·.filter sim.keeps) := by
  obtain ⟨extra, h⟩ := sim.facets s
  rw [h]

theorem items_eq (s : Schema) :
    (sim.onSchema s).facets.minItems = s.facets.minItems ∧
      (sim.onSchema s).facets.maxItems = s.facets.maxItems := by
  obtain ⟨extra, h⟩ := sim.facets s
  rw [h]
  exact ⟨rfl, rfl⟩

theorem isObjectItem_eq (s : Schema) : (sim.onSchema s).isObjectItem = s.isObjectItem := by
  rw [isObjectItem, isObjectItem, typeName?_eq, sim.properties, Option.isSome_map]

theorem leafWarnings_eq (s : Schema) : o'.leafWarnings (sim.onSchema s) = o.leafWarnings s := by
  rw [Options.leafWarnings, Options.leafWarnings, typeName?_eq, sim.types]

theorem leafScalar_eq (s : Schema) (required : Bool) :
    o'.leafScalar (sim.onSchema s) required = o.leafScalar s required := by
  obtain ⟨extra, h⟩ := sim.facets s
  simp only [Options.leafScalar, Options.leafBase, lower?, upper?, typeName?_eq, sim.types, h]

/-- Leaving names out beforehand is as good as having them on the blacklist. -/
theorem prune_onProperties (ps : List (String × Schema)) :
    prune o'.blackList (sim.onProperties ps) = sim.onFields (prune o.blackList ps) := by
  rw [prune, prune, onProperties, onFields, onFields, List.filter_map, List.filter_filter]
  refine congrArg _ (List.filter_congr fun p _ => ?_)
  rw [sim.blackList, Bool.not_or, Bool.not_not]
  exact Bool.and_comm ..

theorem keys_onFields (ps : List (String × Schema)) :
    KeyMap.keys (sim.onFields ps) = KeyMap.keys ps := by
  rw [onFields, KeyMap.keys, KeyMap.keys, List.map_map]
  rfl

end Simulation

/-- The waiting map with the change made to its fields. -/
def Pending.through {o o' : Options} (sim : Simulation o o') (p : Pending) : Pending :=
  { p with fields := sim.onFields p.fields }

/-- The compilation with the change made to all that waits. -/
def Build.through {o o' : Options} (sim : Simulation o o') (b : Build) : Build :=
  { b with stack := b.stack.map (Pending.through sim) }

/-- Names that are no properties can be left out of the required names beforehand. -/
theorem resolve_filter (path : Path) (fields required : List String) {q : String → Bool}
    (hq : ∀ name ∈ fields, q name = true) :
    resolve path fields (required.filter q) =
      ⟨(resolve path fields required).resolved,
        (resolve path fields required).unresolved.filter q⟩ := by
  simp only [resolve, List.filter_filter, Resolution.mk.injEq]
  refine ⟨congrArg (List.map path.child) (List.filter_congr fun name _ => ?_),
    List.filter_congr fun name _ => Bool.and_comm ..⟩
  by_cases hf : name ∈ fields
  · simp [hf, hq name hf]
  · simp [hf]

namespace Build

variable {o o' : Options} {b : Build} {path : Path} {s : Schema} (sim : Simulation o o')

/-! ## Positions -/

/-- The items of a list. -/
def item (o : Options) (path : Path) (i : Schema) (b : Build) : Nat × Build :=
  if i.normalize.isObjectItem then
    schedule o path i.normalize.properties i.normalize.facets.required false b
  else typed o path i.normalize b

theorem typed_of_items {i : Schema} (ht : s.typeName? = some "array") (hi : s.items = some i) :
    typed o path s b =
      (b.nodes.size, (item o path.items i
        (b.alloc (.array 0 (b.requires path) s.facets.minItems s.facets.maxItems)).2).2.setElement
          b.nodes.size (item o path.items i
            (b.alloc (.array 0 (b.requires path) s.facets.minItems s.facets.maxItems)).2).1) := by
  rw [typed, if_pos ht]
  split
  · rename_i j hj
    rw [hi] at hj
    cases hj
    rfl
  · rename_i hn
    rw [hi] at hn
    cases hn

theorem typed_of_no_items (ht : s.typeName? = some "array") (hi : s.items = none) :
    typed o path s b = leaf o path s (b.warn path .arrayWithoutItems) := by
  rw [typed, if_pos ht]
  split
  · rename_i j hj
    rw [hi] at hj
    cases hj
  · rfl

theorem typed_of_properties (ht : s.typeName? = some "object") {ps : List (String × Schema)}
    (hp : s.properties = some ps) :
    typed o path s b = schedule o path (some ps) s.facets.required (b.requires path) b := by
  rw [typed, if_neg (by simp [ht]), if_pos ht, hp]

theorem typed_of_no_properties (ht : s.typeName? = some "object") (hp : s.properties = none) :
    typed o path s b = leaf o path s (b.warn path .objectWithoutProperties) := by
  rw [typed, if_neg (by simp [ht]), if_pos ht, hp]

theorem warn_through (b : Build) (path : Path) (k : WarningKind) :
    (b.through sim).warn path k = (b.warn path k).through sim := rfl

theorem schedule_through (path : Path) (s : Schema) (flag : Bool) (b : Build) :
    schedule o' path (sim.onSchema s).properties (sim.onSchema s).facets.required flag
        (b.through sim) =
      ((schedule o path s.properties s.facets.required flag b).1,
        (schedule o path s.properties s.facets.required flag b).2.through sim) := by
  have hfields : prune o'.blackList ((sim.onSchema s).properties.getD []) =
      sim.onFields (prune o.blackList (s.properties.getD [])) := by
    rw [sim.properties]
    cases s.properties with
    | none => rfl
    | some ps => exact sim.prune_onProperties ps
  have hnames : (sim.onSchema s).facets.required.getD [] =
      (s.facets.required.getD []).filter sim.keeps := by
    rw [sim.required_eq]
    cases s.facets.required <;> rfl
  have hkept : ∀ name ∈ KeyMap.keys (prune o.blackList (s.properties.getD [])),
      sim.keeps name = true := by
    intro name hn
    obtain ⟨t, ht⟩ := KeyMap.mem_keys.1 hn
    have hblack := (List.mem_filter.1 ht).2
    rw [sim.blackList, Bool.not_or, Bool.not_not, Bool.and_eq_true] at hblack
    exact hblack.1
  -- the names that are left out beforehand are those that would not be missed
  have hmissing : ∀ names : List String,
      (names.filter sim.keeps).filter (fun name => !o'.blackList.contains name) =
        names.filter fun name => !o.blackList.contains name := by
    intro names
    rw [List.filter_filter]
    refine List.filter_congr fun name _ => ?_
    rw [sim.blackList, Bool.not_or, Bool.not_not]
    exact Bool.and_comm ..
  simp only [schedule, hfields, hnames, sim.keys_onFields, resolve_filter path _ _ hkept,
    hmissing, alloc, warnAll_eq, through, List.map_cons, Pending.through]

theorem leaf_through (path : Path) (s : Schema) (b : Build) :
    leaf o' path (sim.onSchema s) (b.through sim) =
      ((leaf o path s b).1, (leaf o path s b).2.through sim) := by
  simp only [leaf, alloc, sim.leafWarnings_eq, sim.leafScalar_eq, warnAll_eq, through, requires]

theorem typed_through (path : Path) (s : Schema) (b : Build) (hs : s.Sorted) :
    typed o' path (sim.onSchema s) (b.through sim) =
      ((typed o path s b).1, (typed o path s b).2.through sim) := by
  fun_induction typed o path s b with
  | case1 path s b ht i hi n list element ih =>
    have hn : (sim.onSchema i).normalize = sim.onSchema n := sim.normalize i (hs.item hi)
    have hel : item o' path.items (sim.onSchema i) (list.2.through sim) =
        (element.1, element.2.through sim) := by
      rw [item, hn, sim.isObjectItem_eq]
      by_cases hob : n.isObjectItem = true
      · have he : element = _ := dif_pos hob
        rw [he, if_pos hob]
        exact schedule_through ..
      · have he : element = _ := dif_neg hob
        rw [he, if_neg hob]
        exact ih (hs.item hi).normalize
    have hi' : (sim.onSchema s).items = some (sim.onSchema i) := by
      rw [sim.items, hi, Option.map_some]
    rw [typed_of_items ((sim.typeName?_eq s).trans ht) hi', (sim.items_eq s).1, (sim.items_eq s).2]
    exact congrArg (fun r : Nat × Build => (b.nodes.size, r.2.setElement b.nodes.size r.1)) hel
  | case2 path s b ht hi =>
    have hi' : (sim.onSchema s).items = none := by rw [sim.items, hi, Option.map_none]
    rw [typed_of_no_items ((sim.typeName?_eq s).trans ht) hi', warn_through]
    exact leaf_through ..
  | case3 path s b ha ht ps hp =>
    have hp' := sim.properties s
    rw [hp, Option.map_some] at hp'
    rw [typed_of_properties ((sim.typeName?_eq s).trans ht) hp', ← hp', ← hp]
    exact schedule_through ..
  | case4 path s b ha ht hp =>
    have hp' := sim.properties s
    rw [hp, Option.map_none] at hp'
    rw [typed_of_no_properties ((sim.typeName?_eq s).trans ht) hp', warn_through]
    exact leaf_through ..
  | case5 path s b ha ht =>
    rw [typed, if_neg (by rwa [sim.typeName?_eq]), if_neg (by rwa [sim.typeName?_eq])]
    exact leaf_through ..

theorem field_through (path : Path) (name : String) (s : Schema) (b : Build) (hs : s.Sorted) :
    field o' path name (sim.onField name s) (b.through sim) =
      ((field o path name s b).1, (field o path name s b).2.through sim) := by
  rw [field, field, sim.custom]
  cases hc : o.custom.lookup name with
  | some v => rfl
  | none =>
    simp only [sim.field name s hc, sim.allOf]
    split
    · rw [sim.normalize s hs]
      exact schedule_through ..
    · exact typed_through sim path s b hs

theorem fields_through (path : Path) (ps : List (String × Schema)) (b : Build)
    (hs : ∀ p ∈ ps, p.2.Sorted) :
    fields o' path (sim.onFields ps) (b.through sim) =
      ((fields o path ps b).1, (fields o path ps b).2.through sim) := by
  induction ps generalizing b with
  | nil => rfl
  | cons p ps ih =>
    obtain ⟨name, s⟩ := p
    have hrest : ∀ p ∈ ps, p.2.Sorted := fun p hp => hs p (List.mem_cons_of_mem _ hp)
    have hfield := fun b => field_through sim (path.child name) name s b (hs _ List.mem_cons_self)
    rw [Simulation.onFields] at ih ⊢
    simp only [List.map_cons, fields, hfield, ih _ hrest]

/-! ## Turns -/

theorem expand_through (p : Pending) (b : Build) (hs : ∀ f ∈ p.fields, f.2.Sorted) :
    expand o' (p.through sim) (b.through sim) = (expand o p b).through sim := by
  simp only [expand, Pending.through, fields_through sim p.path p.fields b hs]
  rfl

/-- **A run keeps step.** -/
theorem run_through {values : List Validator} (hl : b.Linked [] []) (h : b.Means o [] values) :
    run o' (b.through sim) = (run o b).through sim := by
  fun_induction run o b generalizing values with
  | case1 b hs => exact run_of_nil (by rw [through, hs]; rfl)
  | case2 b p rest hs ih =>
    obtain ⟨more, h1⟩ := h.expand hl hs
    have hsorted : ∀ f ∈ p.fields, f.2.Sorted := (h.sorted p (by simp [hs])).sorted
    have hstack : (b.through sim).stack = p.through sim :: rest.map (Pending.through sim) := by
      rw [through, hs, List.map_cons]
    rw [← ih (hl.expand hs) h1, ← expand_through sim p _ hsorted]
    exact run_of_cons hstack

theorem root_through (hs : s.Sorted) : root o' (sim.onSchema s) = (root o s).through sim := by
  have hstart : start o' (sim.onSchema s) = (start o s).through sim := by
    rw [start, start, sim.normalize s hs, sim.properties, Option.isSome_map, ← sim.properties]
    split
    · exact congrArg Prod.snd (schedule_through sim .root s.normalize false empty)
    · exact congrArg Prod.snd (schedule_through sim .root s.normalize false
        (empty.warn .root .objectWithoutProperties))
  have hroot : root o' (sim.onSchema s) = run o' ((start o s).through sim) :=
    congrArg (run o') hstart
  exact hroot.trans (run_through sim (linked_start o s) (means_start o hs))

end Build

/-- **What is simulated compiles to the same**: the same validator, and the same warnings in the
same order. -/
theorem Simulation.compile_eq {o o' : Options} (sim : Simulation o o') {s : Schema}
    (hs : s.Sorted) : compile o' (sim.onSchema s) = compile o s := by
  rw [compile, compile, Build.root_through sim hs]
  rfl

end Conform
