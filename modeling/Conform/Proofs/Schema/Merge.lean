import Conform.Proofs.Schema.Sorted

/-!
# What is in a merged schema

Keyword by keyword a merge is an `Option.merge` of what the two schemas have: lists are appended
(`joinLists_eq`), the schemas of the items and of each property are merged (`mergeItems_eq`,
`property?_merge`). So a law of merging is proved for the keywords one by one, properties by their
names (`ext_property?`).

* `merge_empty`, `empty_merge`: the schema without keywords changes nothing on either side.
-/

set_option autoImplicit false

namespace Conform

theorem joinLists_eq {α : Type} (a b : Option (List α)) :
    joinLists a b = a.merge (· ++ ·) b := by
  cases a <;> cases b <;> rfl

/-- A function goes through a merge of optional values if it does for the values that are there. -/
theorem map_merge_eq {α β : Type} {f : α → β} {g : α → α → α} {h : β → β → β} {a b : Option α}
    (hm : ∀ u v, a = some u → b = some v → f (g u v) = h (f u) (f v)) :
    (a.merge g b).map f = (a.map f).merge h (b.map f) := by
  cases a with
  | none => simp
  | some u =>
    cases b with
    | none => simp
    | some v => exact congrArg some (hm u v rfl rfl)

/-- Merges of optional values are associative if those of the values that are there are. -/
theorem merge_assoc_eq {α : Type} {g : α → α → α} {a b c : Option α}
    (hm : ∀ u v w, a = some u → b = some v → c = some w → g (g u v) w = g u (g v w)) :
    (a.merge g b).merge g c = a.merge g (b.merge g c) := by
  cases a with
  | none => simp
  | some u =>
    cases b with
    | none => simp
    | some v =>
      cases c with
      | none => simp
      | some w => exact congrArg some (hm u v w rfl rfl rfl)

/-! ## Folds -/

/-- Values laid over one another, if there are any. -/
def pile {α : Type} (f : α → α → α) : List α → Option α
  | [] => none
  | a :: as => some (as.foldl f a)

theorem pile_eq_none {α : Type} {f : α → α → α} {as : List α} : pile f as = none ↔ as = [] := by
  cases as <;> simp [pile]

/-- What is read from a fold is what is read from its layers, laid over one another, if one step
takes the reading to a merge. -/
theorem read_foldl {α β : Type} (read : α → Option β) {P : α → Prop} {step : α → α → α}
    {f : β → β → β} (hkept : ∀ t l, P t → P l → P (step t l))
    (hread : ∀ t l, P t → P l → read (step t l) = (read t).merge f (read l))
    {ls : List α} (hl : ∀ l ∈ ls, P l) {t : α} (ht : P t) :
    read (ls.foldl step t) = pile f ((read t).toList ++ ls.filterMap read) := by
  induction ls generalizing t with
  | nil => cases h : read t <;> simp [pile, h]
  | cons l ls ih =>
    have hsl := hl l List.mem_cons_self
    rw [List.foldl_cons, ih (fun m hm => hl m (List.mem_cons_of_mem _ hm)) (hkept t l ht hsl),
      hread t l ht hsl, List.filterMap_cons]
    cases read t <;> cases read l <;> rfl

/-- Of values that replace one another the last one is left. -/
theorem pile_last {α : Type} (as : List α) : pile (fun _ a => a) as = as.getLast? := by
  cases as with
  | nil => rfl
  | cons a as =>
    have hfold : ∀ b, as.foldl (fun _ a => a) b = as.getLast?.getD b := by
      induction as with
      | nil => exact fun b => rfl
      | cons a as ih => simp [ih, List.getLast?_cons]
    rw [pile, hfold, List.getLast?_cons]

theorem pile_map {α β : Type} {f : α → α → α} {g : β → β → β} {h : α → β}
    (hm : ∀ a b, g (h a) (h b) = h (f a b)) (as : List α) :
    pile g (as.map h) = (pile f as).map h := by
  cases as with
  | nil => rfl
  | cons a as =>
    rw [List.map_cons, pile, List.foldl_map]
    exact congrArg some (List.foldl_hom h hm)

theorem Json.mergeMembers_eq (ns ms : List (String × Json)) :
    mergeMembers ns ms = KeyMap.overlay merge ns ms := by
  induction ms generalizing ns with
  | nil => rw [mergeMembers]; rfl
  | cons m ms ih => rw [mergeMembers, ih]; rfl

theorem Facets.empty_merge {f : Facets} (h : KeyMap.Sorted f.extra) :
    Facets.empty.merge f = f := by
  have he : Json.mergeMembers [] f.extra = f.extra := by
    rw [Json.mergeMembers_eq, KeyMap.overlay_nil h]
  obtain ⟨_, required, enum, _, _, _, _, _, _, _⟩ := f
  simp only [Facets.merge, Facets.empty, he, Option.or_none, joinLists_eq, Option.merge_none_left]

namespace Schema

theorem mergeItems_eq (a b : Option Schema) : mergeItems a b = a.merge merge b := by
  cases a <;> cases b <;> rw [mergeItems] <;> rfl

theorem mergeNamed_eq (ps qs : List (String × Schema)) :
    mergeNamed ps qs = KeyMap.overlay merge ps qs := by
  induction qs generalizing ps with
  | nil => rw [mergeNamed]; rfl
  | cons q qs ih => rw [mergeNamed, ih]; rfl

@[simp] theorem facets_merge (t s : Schema) : (merge t s).facets = t.facets.merge s.facets := by
  cases s; rw [merge]

/-! ## Properties by their names -/

/-- The schema of a property. -/
def property? (s : Schema) (name : String) : Option Schema := (s.properties.getD []).lookup name

theorem Sorted.property {s t : Schema} (h : s.Sorted) {name : String}
    (ht : s.property? name = some t) : t.Sorted :=
  h.getD_properties.sorted _ (KeyMap.mem_of_lookup ht)

/-- Induction on what is merged with a schema inside: the properties and the items. -/
@[elab_as_elim] theorem Sorted.induct {motive : (s : Schema) → s.Sorted → Prop}
    (step : ∀ (s : Schema) (hs : s.Sorted),
      (∀ name t (ht : s.property? name = some t), motive t (hs.property ht)) →
      (∀ i (hi : s.items = some i), motive i (hs.item hi)) → motive s hs)
    (s : Schema) (hs : s.Sorted) : motive s hs := by
  induction hs with
  | @intro s ascending properties items allOf ihp ihi _ =>
    refine step s (.intro ascending properties items allOf) (fun name t ht => ?_) ihi
    have hmem : ∃ ps, s.properties = some ps ∧ (name, t) ∈ ps := by
      rw [property?] at ht
      cases hp : s.properties with
      | none => simp [hp] at ht
      | some ps => exact ⟨ps, rfl, KeyMap.mem_of_lookup (by simpa [hp] using ht)⟩
    obtain ⟨ps, hp, hm⟩ := hmem
    exact ihp ps hp _ hm

/-- Schemas with the same keywords and the same schemas under the names of their properties are
the same. -/
theorem ext_property? {s t : Schema} (hs : s.Sorted) (ht : t.Sorted) (hf : s.facets = t.facets)
    (hsome : s.properties.isSome = t.properties.isSome)
    (hp : ∀ name, s.property? name = t.property? name) (hi : s.items = t.items)
    (ha : s.allOf = t.allOf) : s = t := by
  have hmap : s.properties.getD [] = t.properties.getD [] :=
    hs.getD_properties.ascending.ext ht.getD_properties.ascending hp
  obtain ⟨_, ps, _, _⟩ := s
  obtain ⟨_, qs, _, _⟩ := t
  cases hf
  cases hi
  cases ha
  cases ps <;> cases qs <;> simp_all

theorem isSome_properties_merge (t s : Schema) :
    (merge t s).properties.isSome = (t.properties.isSome || s.properties.isSome) := by
  rw [properties_merge]
  cases t.properties <;> cases s.properties <;> simp [mergeProperties]

theorem property?_merge {t s : Schema} (ht : t.Sorted) (hs : s.Sorted) (name : String) :
    (merge t s).property? name = (t.property? name).merge merge (s.property? name) := by
  rw [property?, property?, property?, properties_merge]
  cases hp : s.properties with
  | none =>
    rw [mergeProperties]
    exact Option.merge_none_right.symm
  | some ps =>
    rw [mergeProperties, mergeNamed_eq]
    exact KeyMap.lookup_overlay ht.getD_properties.ascending (hs.map hp).ascending merge name

/-! ## The schema without keywords -/

theorem merge_empty (s : Schema) : merge s empty = s := by
  obtain ⟨⟨⟩, _, _, _⟩ := s
  simp [merge, empty, Facets.merge, Facets.empty, mergeProperties, mergeItems, joinLists,
    Json.mergeMembers]

/-- On the left the unknown keywords have to be a map. -/
theorem empty_merge {s : Schema} (hs : s.Sorted) (he : KeyMap.Sorted s.facets.extra) :
    merge empty s = s := by
  refine ext_property? (sorted_merge _ _ sorted_empty hs) hs ?_ ?_ (fun name => ?_) ?_ ?_
  · rw [facets_merge]
    exact Facets.empty_merge he
  · rw [isSome_properties_merge]
    rfl
  · rw [property?_merge sorted_empty hs]
    exact Option.merge_none_left
  · rw [items_merge, mergeItems_eq]
    exact Option.merge_none_left
  · rw [allOf_merge, joinLists_eq]
    exact Option.merge_none_left

end Schema

end Conform
