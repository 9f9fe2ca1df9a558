import Conform.Proofs.Schema.Members
import Conform.Schema.Merge

/-!
# Schemas with sorted properties

The properties of a schema are a map, so their names are in strictly ascending order, at the top and
in every schema inside. Merging builds maps by `KeyMap.alter` and keeps that order.

* `Sorted.normalize`: a normalized schema is sorted.
* `SortedMap.prune`: so is a map without the blacklisted names.
* `sorted_ofJson?`: a schema that is read from a value with sorted objects is sorted.

`Schema.shipment` is a small schema of lists of objects.
-/

set_option autoImplicit false

namespace Conform

namespace Schema

/-- All maps of properties in the schema have their names in ascending order. -/
inductive Sorted : Schema → Prop
  | intro {s : Schema}
    (ascending : ∀ ps, s.properties = some ps → KeyMap.Sorted ps)
    (properties : ∀ ps, s.properties = some ps → ∀ p ∈ ps, Sorted p.2)
    (items : ∀ i, s.items = some i → Sorted i)
    (allOf : ∀ ss, s.allOf = some ss → ∀ t ∈ ss, Sorted t) : Sorted s

/-- Properties in ascending order of their names, and sorted schemas under the names. -/
structure SortedMap (ps : List (String × Schema)) : Prop where
  ascending : KeyMap.Sorted ps
  sorted : ∀ p ∈ ps, p.2.Sorted

theorem Sorted.map {s : Schema} (h : s.Sorted) {ps : List (String × Schema)}
    (hp : s.properties = some ps) : SortedMap ps := by
  cases h with
  | intro ascending properties _ _ => exact ⟨ascending ps hp, properties ps hp⟩

theorem Sorted.item {s : Schema} (h : s.Sorted) {i : Schema} (hi : s.items = some i) :
    i.Sorted := by
  cases h with
  | intro _ _ items _ => exact items i hi

theorem Sorted.entry {s : Schema} (h : s.Sorted) {ss : List Schema} (hs : s.allOf = some ss)
    {t : Schema} (ht : t ∈ ss) : t.Sorted := by
  cases h with
  | intro _ _ _ allOf => exact allOf ss hs t ht

theorem Sorted.of_parts {s : Schema} (hp : ∀ ps, s.properties = some ps → SortedMap ps)
    (hi : ∀ i, s.items = some i → i.Sorted)
    (ha : ∀ ss, s.allOf = some ss → ∀ t ∈ ss, t.Sorted) : s.Sorted :=
  .intro (fun ps h => (hp ps h).ascending) (fun ps h => (hp ps h).sorted) hi ha

theorem sortedMap_nil : SortedMap [] := ⟨KeyMap.sorted_nil, by simp⟩

theorem SortedMap.tail {p : String × Schema} {ps : List (String × Schema)}
    (h : SortedMap (p :: ps)) : SortedMap ps :=
  ⟨h.ascending.tail, fun q hq => h.sorted q (List.mem_cons_of_mem _ hq)⟩

theorem SortedMap.prune {ps : List (String × Schema)} (h : SortedMap ps)
    (blackList : List String) : SortedMap (Conform.prune blackList ps) :=
  ⟨h.ascending.filter _, fun p hp => h.sorted p (List.mem_filter.1 hp).1⟩

/-- The properties of a sorted schema, or none at all. -/
theorem Sorted.getD_properties {s : Schema} (h : s.Sorted) :
    SortedMap (s.properties.getD []) := by
  cases hp : s.properties with
  | none => exact sortedMap_nil
  | some ps => exact h.map hp

theorem sorted_empty : empty.Sorted :=
  .of_parts (by simp [empty]) (by simp [empty]) (by simp [empty])

/-! ## Merging -/

theorem SortedMap.alter {ps : List (String × Schema)} (h : SortedMap ps) {name : String}
    {f : Option Schema → Schema} (hnone : (f none).Sorted)
    (hsome : ∀ t : Schema, t.Sorted → (f (some t)).Sorted) :
    SortedMap (KeyMap.alter name f ps) := by
  refine ⟨KeyMap.sorted_alter h.ascending, fun p hp => ?_⟩
  rcases KeyMap.mem_alter hp with hp | rfl | ⟨t, ht, rfl⟩
  · exact h.sorted p hp
  · exact hnone
  · exact hsome t (h.sorted _ ht)

theorem mem_joinLists {α : Type} {t l : Option (List α)} {as : List α} {a : α}
    (h : joinLists t l = some as) (ha : a ∈ as) :
    (∃ bs, t = some bs ∧ a ∈ bs) ∨ ∃ bs, l = some bs ∧ a ∈ bs := by
  cases l with
  | none => exact .inl ⟨as, h, ha⟩
  | some bs =>
    simp only [joinLists, Option.some.injEq] at h
    subst h
    rcases List.mem_append.1 ha with ha | ha
    · cases t with
      | none => simp at ha
      | some cs => exact .inl ⟨cs, rfl, ha⟩
    · exact .inr ⟨bs, rfl, ha⟩

@[simp] theorem properties_merge (t s : Schema) :
    (merge t s).properties = mergeProperties t.properties s.properties := by
  cases s; rw [merge]

@[simp] theorem items_merge (t s : Schema) : (merge t s).items = mergeItems t.items s.items := by
  cases s; rw [merge]

@[simp] theorem allOf_merge (t s : Schema) : (merge t s).allOf = joinLists t.allOf s.allOf := by
  cases s; rw [merge]

mutual

theorem sorted_merge (t s : Schema) (ht : t.Sorted) (hs : s.Sorted) : (merge t s).Sorted := by
  match s, hs with
  | ⟨facets, properties, items, allOf⟩, hs =>
    refine .of_parts (fun ps hp => ?_) (fun i hi => ?_) (fun ss ha u hu => ?_)
    · rw [properties_merge] at hp
      match properties, hs with
      | none, _ => exact ht.map (by simpa only [mergeProperties] using hp)
      | some qs, hs =>
        simp only [mergeProperties, Option.some.injEq] at hp
        subst hp
        exact sortedMap_mergeNamed _ qs ht.getD_properties (hs.map rfl)
    · rw [items_merge] at hi
      match items, hs with
      | none, _ => exact ht.item (by simpa only [mergeItems] using hi)
      | some j, hs =>
        simp only [mergeItems, Option.some.injEq] at hi
        subst hi
        cases hti : t.items with
        | none => exact hs.item rfl
        | some k => exact sorted_merge k j (ht.item hti) (hs.item rfl)
    · rw [allOf_merge] at ha
      rcases mem_joinLists ha hu with ⟨ts, hts, hu⟩ | ⟨ts, hts, hu⟩
      · exact ht.entry hts hu
      · exact hs.entry hts hu

theorem sortedMap_mergeNamed (t ps : List (String × Schema)) (ht : SortedMap t)
    (hs : SortedMap ps) : SortedMap (mergeNamed t ps) := by
  match ps, hs with
  | [], _ => rw [mergeNamed]; exact ht
  | (name, s) :: ps, hs =>
    have hsh : s.Sorted := hs.sorted (name, s) List.mem_cons_self
    rw [mergeNamed]
    refine sortedMap_mergeNamed _ ps (ht.alter hsh fun u hu => ?_) hs.tail
    exact sorted_merge u s hu hsh

end

/-! ## Normalizing -/

/-- A schema without its `allOf`. -/
theorem Sorted.without_allOf {facets : Facets} {properties : Option (List (String × Schema))}
    {items : Option Schema} {allOf : Option (List Schema)}
    (h : Sorted ⟨facets, properties, items, allOf⟩) :
    Sorted ⟨facets, properties, items, none⟩ :=
  .of_parts (fun _ hp => h.map hp) (fun _ hi => h.item hi) (by simp)

mutual

theorem Sorted.normalize {s : Schema} (h : s.Sorted) : s.normalize.Sorted := by
  match s, h with
  | ⟨facets, properties, items, none⟩, h => rw [Schema.normalize]; exact h
  | ⟨facets, properties, items, some entries⟩, h =>
    rw [Schema.normalize]
    exact sorted_merge _ _
      (sorted_normalizeOnto empty entries sorted_empty fun t ht => h.entry rfl ht) h.without_allOf

theorem sorted_normalizeOnto (t : Schema) (ss : List Schema) (ht : t.Sorted)
    (hs : ∀ s ∈ ss, s.Sorted) : (normalizeOnto t ss).Sorted := by
  match ss, hs with
  | [], _ => rw [normalizeOnto]; exact ht
  | s :: ss, hs =>
    rw [normalizeOnto]
    exact sorted_normalizeOnto _ ss
      (sorted_merge t _ ht (hs s List.mem_cons_self).normalize)
      fun u hu => hs u (List.mem_cons_of_mem _ hu)

end

/-! ## Reading -/

end Schema

/-- All objects in the value have their names in ascending order. -/
inductive Json.Sorted : Json → Prop
  | null : Sorted .null
  | bool (b : Bool) : Sorted (.bool b)
  | num (n : Number) : Sorted (.num n)
  | str (s : String) : Sorted (.str s)
  | arr {vs : List Json} (items : ∀ v ∈ vs, Sorted v) : Sorted (.arr vs)
  | obj {ms : List (String × Json)} (ascending : KeyMap.Sorted ms)
    (members : ∀ m ∈ ms, Sorted m.2) : Sorted (.obj ms)

namespace Json

attribute [simp] Sorted.null Sorted.bool Sorted.num Sorted.str

@[simp] theorem sorted_arr_iff {vs : List Json} : (arr vs).Sorted ↔ ∀ v ∈ vs, v.Sorted := by
  refine ⟨fun h => ?_, .arr⟩
  cases h with
  | arr items => exact items

@[simp] theorem sorted_obj_iff {ms : List (String × Json)} :
    (obj ms).Sorted ↔ KeyMap.Sorted ms ∧ ∀ m ∈ ms, m.2.Sorted := by
  refine ⟨fun h => ?_, fun h => .obj h.1 h.2⟩
  cases h with
  | obj ascending members => exact ⟨ascending, members⟩

end Json

namespace Schema

/-- The names stay as they are when the schemas under them are read. -/
theorem keys_named? {ms : List (String × Json)} {ps : List (String × Schema)}
    (h : named? ms = some ps) : KeyMap.keys ps = KeyMap.keys ms := by
  induction ms generalizing ps with
  | nil =>
    simp only [named?, Option.some.injEq] at h
    subst h
    rfl
  | cons m ms ih =>
    obtain ⟨name, v⟩ := m
    obtain ⟨s, qs, -, hqs, rfl⟩ := of_named?_cons h
    rw [KeyMap.keys_cons, KeyMap.keys_cons, ih hqs]

mutual

theorem sorted_ofJson? (v : Json) (hv : v.Sorted) {s : Schema} (h : ofJson? v = some s) :
    s.Sorted := by
  obtain ⟨ms, rfl, h⟩ := of_ofJson? h
  exact sorted_ofMembers? ms (Json.sorted_obj_iff.1 hv).2 h

theorem sorted_ofMembers? (ms : List (String × Json)) (hm : ∀ m ∈ ms, m.2.Sorted) {s : Schema}
    (h : ofMembers? ms = some s) : s.Sorted := by
  match ms, hm with
  | [], _ =>
    simp only [ofMembers?, Option.some.injEq] at h
    exact h ▸ sorted_empty
  | (key, v) :: ms, hm =>
    obtain ⟨hv, hm⟩ := List.forall_mem_cons.1 hm
    obtain ⟨t, ht, hs⟩ := withMember_of_ofMembers? h
    have hrest := sorted_ofMembers? ms hm ht
    have hproperties : ∀ ps, t.properties = some ps → SortedMap ps := fun _ hp => hrest.map hp
    have hitems : ∀ i, t.items = some i → i.Sorted := fun _ hi => hrest.item hi
    have hallOf : ∀ ss, t.allOf = some ss → ∀ u ∈ ss, u.Sorted := fun _ ha _ hu => hrest.entry ha hu
    cases hs with
    | absent _ _ hs => exact hs ▸ hrest
    | @properties ps qs _ hobj hread hs =>
      subst hobj hs
      obtain ⟨ascending, members⟩ := Json.sorted_obj_iff.1 hv
      refine .of_parts (fun rs hr => ?_) hitems hallOf
      cases hr
      refine ⟨?_, sorted_named? ps members hread⟩
      rw [KeyMap.sorted_iff_keys] at ascending ⊢
      rwa [keys_named? hread]
    | @items i _ _ hread hs =>
      subst hs
      refine .of_parts hproperties (fun j hj => ?_) hallOf
      cases hj
      exact sorted_ofJson? v hv hread
    | @allOf vs ss _ harr hread hs =>
      subst harr hs
      refine .of_parts hproperties hitems fun ts ht => ?_
      cases ht
      exact sorted_list? vs (Json.sorted_arr_iff.1 hv) hread
    | facet _ _ hs =>
      subst hs
      exact .of_parts hproperties hitems hallOf

theorem sorted_named? (ms : List (String × Json)) (hm : ∀ m ∈ ms, m.2.Sorted)
    {ps : List (String × Schema)} (h : named? ms = some ps) : ∀ p ∈ ps, p.2.Sorted := by
  match ms, hm with
  | [], _ =>
    simp only [named?, Option.some.injEq] at h
    subst h
    simp
  | (name, v) :: ms, hm =>
    obtain ⟨hv, hm⟩ := List.forall_mem_cons.1 hm
    obtain ⟨s, qs, hs, hqs, rfl⟩ := of_named?_cons h
    exact List.forall_mem_cons.2 ⟨sorted_ofJson? v hv hs, sorted_named? ms hm hqs⟩

theorem sorted_list? (vs : List Json) (hv : ∀ v ∈ vs, v.Sorted) {ss : List Schema}
    (h : list? vs = some ss) : ∀ s ∈ ss, s.Sorted := by
  match vs, hv with
  | [], _ =>
    simp only [list?, Option.some.injEq] at h
    subst h
    simp
  | v :: vs, hv =>
    obtain ⟨hw, hv⟩ := List.forall_mem_cons.1 hv
    obtain ⟨s, ts, hs, hts, rfl⟩ := of_list?_cons h
    exact List.forall_mem_cons.2 ⟨sorted_ofJson? v hw hs, sorted_list? vs hv hts⟩

end

/-! ## A shipment -/

/-- Values of a type. -/
def ofType (name : String) : Schema :=
  { empty with facets := { Facets.empty with type := some (.one name) } }

/-- Objects with properties, some of which are required. -/
def ofProperties (ps : List (String × Schema)) (names : List String) : Schema :=
  { empty with facets := { Facets.empty with required := some names }, properties := some ps }

/-- Lists of items. -/
def ofItems (i : Schema) : Schema := { ofType "array" with items := some i }

theorem sorted_ofType (name : String) : (ofType name).Sorted :=
  .of_parts (by simp [ofType, empty]) (by simp [ofType, empty]) (by simp [ofType, empty])

theorem sorted_ofProperties {ps : List (String × Schema)} (names : List String)
    (h : SortedMap ps) : (ofProperties ps names).Sorted :=
  .of_parts (fun qs hq => by cases hq; exact h) (by simp [ofProperties, empty])
    (by simp [ofProperties, empty])

theorem sorted_ofItems {i : Schema} (h : i.Sorted) : (ofItems i).Sorted :=
  .of_parts (by simp [ofItems, ofType, empty]) (fun j hj => by cases hj; exact h)
    (by simp [ofItems, ofType, empty])

/-- A stop has a name, by way of `allOf`. -/
def stop : Schema :=
  { empty with allOf := some [ofProperties [("name", ofType "string")] ["name"]] }

/-- A shipment has a note, a secret and stops. -/
def shipment : Schema :=
  ofProperties
    [("note", ofType "string"), ("secret", ofType "string"), ("stops", ofItems stop)]
    ["secret", "stops"]

theorem sorted_stop : stop.Sorted := by
  refine .of_parts (by simp [stop, empty]) (by simp [stop, empty]) fun ss hss t ht => ?_
  cases hss
  cases List.mem_singleton.1 ht
  exact sorted_ofProperties _ ⟨by decide, by simp [sorted_ofType]⟩

theorem sorted_shipment : shipment.Sorted :=
  sorted_ofProperties _ ⟨by decide, by simp [sorted_ofType, sorted_ofItems sorted_stop]⟩

end Schema

end Conform
