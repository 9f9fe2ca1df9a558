import Conform.Proofs.Schema.Parts
import Conform.Schema.Size

/-!
# Two readings of a schema with layers

A schema can be read as it is reached: it is normalized, and what is below it is normalized when it
is reached in turn (`effective`). Or every layer is worked out, with all that is below it, before
the next one is laid on it (`eager`). Merging leaves the `allOf` of nested schemas for later, and
when it is worked out at last it comes before the own keywords of all layers, also of those before
it. So the layers come in another order (`seenOf`).

* `normalize_foldl_merge`: schemas that are laid over one another and then normalized are the fold
  of their layers as seen.
* `foldl_seenOf`: where no later schema brings an `allOf` to the keywords of an earlier one, that is
  the fold of their layers as they are laid.
* `foldl_eager_layers`: what layers describe together is the fold of what each describes.
-/

set_option autoImplicit false

namespace Conform

namespace Schema

/-! ## The two readings -/

theorem sizeItems_lt (s : Schema) : sizeItems s.items < s.size := by
  cases s; simp only [size]; omega

mutual

/-- What is seen of a schema when every schema is normalized at the moment it is reached. -/
def effective (s : Schema) : Schema :=
  { s.normalize with
    properties := effectiveProperties s.normalize.properties
    items := effectiveItems s.normalize.items }
termination_by (s.size, 0)
decreasing_by
  · have h := Nat.lt_of_lt_of_le (sizeProperties_lt s.normalize) (size_normalize_le s)
    simp only [Prod.lex_def]
    omega
  · have h := Nat.lt_of_lt_of_le (sizeItems_lt s.normalize) (size_normalize_le s)
    simp only [Prod.lex_def]
    omega

/-- What is seen of the properties. -/
def effectiveProperties : Option (List (String × Schema)) → Option (List (String × Schema))
  | none => none
  | some ps => some (effectiveNamed ps)
termination_by ps => (sizeProperties ps, 2)
decreasing_by
  rw [sizeProperties]
  exact .right _ (by omega)

/-- What is seen of the items. -/
def effectiveItems : Option Schema → Option Schema
  | none => none
  | some i => some (effective i)
termination_by i => (sizeItems i, 1)
decreasing_by
  rw [sizeItems]
  exact .right _ (by omega)

/-- What is seen of named schemas. -/
def effectiveNamed : List (String × Schema) → List (String × Schema)
  | [] => []
  | (name, s) :: ps => (name, effective s) :: effectiveNamed ps
termination_by ps => (sizeNamed ps, 1)
decreasing_by
  all_goals
    have h := size_pos s
    simp only [sizeNamed, Prod.lex_def]
    omega

end

mutual

/-- What the layers of a schema describe together: each is worked out, with all that is below it,
before the next one is laid on it. -/
def eager : Schema → Schema
  | ⟨facets, properties, items, allOf⟩ =>
    merge (eagerEntries allOf) ⟨facets, eagerProperties properties, eagerItems items, none⟩

/-- The schemas that apply as well, laid over one another. -/
def eagerEntries : Option (List Schema) → Schema
  | none => empty
  | some entries => eagerOnto empty entries

/-- Lays schemas over a target, each worked out, in their order. -/
def eagerOnto (target : Schema) : List Schema → Schema
  | [] => target
  | s :: ss => eagerOnto (merge target (eager s)) ss

/-- What the layers describe of the properties. -/
def eagerProperties : Option (List (String × Schema)) → Option (List (String × Schema))
  | none => none
  | some ps => some (eagerNamed ps)

/-- What the layers describe of the items. -/
def eagerItems : Option Schema → Option Schema
  | none => none
  | some i => some (eager i)

/-- What the layers describe of named schemas. -/
def eagerNamed : List (String × Schema) → List (String × Schema)
  | [] => []
  | (name, s) :: ps => (name, eager s) :: eagerNamed ps

end

/-! ## Equations -/

/-- The schema with a function applied to what is directly below it. -/
def mapBelow (f : Schema → Schema) (s : Schema) : Schema :=
  { s with
    properties := s.properties.map (·.map fun p => (p.1, f p.2))
    items := s.items.map f }

/-- The schema's own keywords. -/
def own (s : Schema) : Schema := { s with allOf := none }

/-- The schemas that apply as well. -/
def entries (s : Schema) : List Schema := s.allOf.getD []

theorem effectiveNamed_eq (ps : List (String × Schema)) :
    effectiveNamed ps = ps.map fun p => (p.1, p.2.effective) := by
  induction ps with
  | nil => rw [effectiveNamed]; rfl
  | cons p ps ih => rw [effectiveNamed, ih]; rfl

theorem effective_eq (s : Schema) : s.effective = s.normalize.mapBelow effective := by
  have hp : effectiveProperties s.normalize.properties =
      s.normalize.properties.map (·.map fun p => (p.1, effective p.2)) := by
    cases s.normalize.properties with
    | none => rw [effectiveProperties]; rfl
    | some ps => rw [effectiveProperties, effectiveNamed_eq]; rfl
  have hi : effectiveItems s.normalize.items = s.normalize.items.map effective := by
    cases s.normalize.items <;> rw [effectiveItems] <;> rfl
  rw [effective, hp, hi, mapBelow]

theorem eagerNamed_eq (ps : List (String × Schema)) :
    eagerNamed ps = ps.map fun p => (p.1, p.2.eager) := by
  induction ps with
  | nil => rw [eagerNamed]; rfl
  | cons p ps ih => rw [eagerNamed, ih]; rfl

theorem eagerOnto_eq (t : Schema) (ss : List Schema) :
    eagerOnto t ss = (ss.map eager).foldl merge t := by
  induction ss generalizing t with
  | nil => rw [eagerOnto]; rfl
  | cons s ss ih => rw [eagerOnto, ih]; rfl

theorem eager_eq (s : Schema) :
    s.eager = merge ((s.entries.map eager).foldl merge empty) (s.own.mapBelow eager) := by
  obtain ⟨facets, properties, items, allOf⟩ := s
  have ha : eagerEntries allOf = ((allOf.getD []).map eager).foldl merge empty := by
    cases allOf <;> rw [eagerEntries]
    · rfl
    · exact eagerOnto_eq _ _
  have hp : eagerProperties properties = properties.map (·.map fun p => (p.1, eager p.2)) := by
    cases properties <;> rw [eagerProperties]
    · rfl
    · rw [eagerNamed_eq]; rfl
  have hi : eagerItems items = items.map eager := by
    cases items <;> rw [eagerItems] <;> rfl
  rw [eager, ha, hp, hi]
  rfl

/-! ## Own keywords and entries -/

variable {s t u : Schema} {ss ls : List Schema}

theorem allOf_entries : s.allOf = none ∧ s.entries = [] ∨ s.allOf = some s.entries := by
  rw [entries]
  cases s.allOf with
  | none => exact .inl ⟨rfl, rfl⟩
  | some ss => exact .inr rfl

theorem Sorted.own (hs : s.Sorted) : s.own.Sorted :=
  .of_parts (fun _ hp => hs.map hp) (fun _ hi => hs.item hi) (by simp [Schema.own])

theorem Sorted.entries (hs : s.Sorted) : ∀ t ∈ s.entries, t.Sorted := by
  intro t ht
  rcases allOf_entries (s := s) with ⟨-, he⟩ | ha
  · rw [he] at ht
    cases ht
  · exact hs.entry ha ht

theorem layers_eq (s : Schema) : s.layers = layersOf s.entries ++ [s.own] := by
  obtain ⟨facets, properties, items, allOf⟩ := s
  cases allOf <;> rw [layers] <;> rfl

theorem layers_of_entries_eq_nil (h : s.entries = []) : s.layers = [s.own] := by
  rw [layers_eq, h, layersOf, List.nil_append]

theorem own_merge (t s : Schema) : (merge t s).own = merge t.own s.own := by
  obtain ⟨facets, properties, items, allOf⟩ := s
  rw [merge, own, own, own, merge]
  rfl

theorem entries_merge (t s : Schema) : (merge t s).entries = t.entries ++ s.entries := by
  simp only [entries, allOf_merge]
  cases s.allOf <;> simp [joinLists]

theorem own_foldl_merge (t : Schema) (ss : List Schema) :
    (ss.foldl merge t).own = (ss.map own).foldl merge t.own := by
  induction ss generalizing t with
  | nil => rfl
  | cons s ss ih => rw [List.foldl_cons, ih, own_merge, List.map_cons, List.foldl_cons]

theorem entries_foldl_merge (t : Schema) (ss : List Schema) :
    (ss.foldl merge t).entries = t.entries ++ ss.flatMap entries := by
  induction ss generalizing t with
  | nil => simp
  | cons s ss ih => simp [ih, entries_merge]

theorem Agree.normalize (h : Agree s t) (hs : s.Sorted) (ht : t.Sorted) :
    Agree s.normalize t.normalize := by
  rw [Agree, edit_normalize hs, edit_normalize ht, h]

/-! ## The order in which layers are seen -/

/-- The layers of some schemas in the order in which they come to bear when the schemas are laid
over one another and the result is normalized: what is in the `allOf` of any of them comes before
the own keywords of all. -/
def seenOf (ss : List Schema) : List Schema := layersOf (ss.flatMap entries) ++ ss.map own

theorem sorted_flatMap_entries (hs : ∀ s ∈ ss, s.Sorted) : ∀ t ∈ ss.flatMap entries, t.Sorted := by
  intro t ht
  obtain ⟨s, hm, ht⟩ := List.mem_flatMap.1 ht
  exact (hs s hm).entries t ht

theorem sorted_map_own (hs : ∀ s ∈ ss, s.Sorted) : ∀ t ∈ ss.map own, t.Sorted := by
  intro t ht
  obtain ⟨s, hm, rfl⟩ := List.mem_map.1 ht
  exact (hs s hm).own

theorem sorted_seenOf (hs : ∀ s ∈ ss, s.Sorted) : ∀ l ∈ seenOf ss, l.Sorted := by
  intro l hl
  rcases List.mem_append.1 hl with hl | hl
  · exact sorted_layersOf _ (sorted_flatMap_entries hs) l hl
  · exact sorted_map_own hs l hl

/-- Schemas laid over one another and then normalized are the fold of their layers as seen. -/
theorem normalize_foldl_merge (hs : ∀ s ∈ ss, s.Sorted) :
    Agree (ss.foldl merge empty).normalize ((seenOf ss).foldl merge empty) := by
  have hbelow := sorted_layersOf _ (sorted_flatMap_entries hs)
  have hown := sorted_map_own hs
  have hfold := sorted_foldl_merge sorted_empty hbelow
  have h := normalize_agree_foldl (sorted_foldl_merge sorted_empty hs)
  rw [layers_eq, entries_foldl_merge, own_foldl_merge, List.foldl_append] at h
  rw [seenOf, List.foldl_append]
  refine h.trans ?_
  -- the own keywords were laid over one another first; they can be laid on one by one
  have hmove := merge_foldl_merge hfold sorted_empty hown
  rw [merge_empty] at hmove
  exact hmove

/-- Layers that come one after the other are seen in that order: the later one has no `allOf`, or
the earlier one has no keywords of its own. -/
def InOrder (s t : Schema) : Prop := t.entries = [] ∨ Agree s.own empty

theorem layersOf_eq_map_own (h : ∀ s ∈ ss, s.entries = []) : layersOf ss = ss.map own := by
  induction ss with
  | nil => rw [layersOf]; rfl
  | cons s ss ih =>
    rw [layersOf, layers_of_entries_eq_nil (h s List.mem_cons_self),
      ih fun t ht => h t (List.mem_cons_of_mem _ ht)]
    rfl

theorem Agree.merge_empty (h : Agree s Schema.empty) (ht : t.Sorted) (hs : s.Sorted) :
    Agree (Schema.merge t s) t := by
  have hm := (Agree.refl t).merge h ht ht hs sorted_empty
  rwa [Schema.merge_empty] at hm

/-- Layers in order are seen as they are laid. -/
theorem foldl_seenOf (ho : ss.Pairwise InOrder) (hs : ∀ s ∈ ss, s.Sorted) (hu : u.Sorted) :
    Agree ((seenOf ss).foldl merge u) ((layersOf ss).foldl merge u) := by
  induction ss generalizing u with
  | nil => exact .refl _
  | cons s ss ih =>
    obtain ⟨hlater, ho⟩ := List.pairwise_cons.1 ho
    have hsn := hs s List.mem_cons_self
    have hss : ∀ t ∈ ss, t.Sorted := fun t ht => hs t (List.mem_cons_of_mem _ ht)
    have hbelow := sorted_foldl_merge hu (sorted_layersOf _ hsn.entries)
    rw [seenOf, List.flatMap_cons, List.map_cons, layersOf_append, layersOf, layers_eq]
    simp only [List.foldl_append, List.foldl_cons, List.foldl_nil]
    by_cases he : Agree s.own empty
    · -- the own keywords of the first schema change nothing, wherever they come
      have hmid := sorted_foldl_merge hbelow (sorted_layersOf _ (sorted_flatMap_entries hss))
      have hleft := (he.merge_empty hmid hsn.own).foldl_merge (sorted_merge _ _ hmid hsn.own) hmid
        (sorted_map_own hss)
      have hright := (he.merge_empty hbelow hsn.own).symm.foldl_merge hbelow
        (sorted_merge _ _ hbelow hsn.own) (sorted_layersOf _ hss)
      have hmiddle := ih ho hss hbelow
      rw [seenOf, List.foldl_append] at hmiddle
      exact hleft.trans (hmiddle.trans hright)
    · -- nothing of the later schemas comes before the own keywords of the first
      have hnone : ∀ t ∈ ss, t.entries = [] := fun t ht => (hlater t ht).resolve_right he
      rw [List.flatMap_eq_nil_iff.2 hnone, layersOf_eq_map_own hnone, layersOf]
      exact .refl _

/-! ## What is below -/

variable {f : Schema → Schema} {seg : Segment}

theorem child?_mapBelow (f : Schema → Schema) (seg : Segment) (s : Schema) :
    child? seg (s.mapBelow f) = (child? seg s).map f := by
  cases seg with
  | field name =>
    have hp : (s.mapBelow f).properties.getD [] =
        (s.properties.getD []).map fun p => (p.1, f p.2) := by
      rw [mapBelow]
      cases s.properties <;> rfl
    rw [child?, child?, property?, property?, hp, KeyMap.lookup_map]
  | items => rfl
  | index i => rfl

theorem mapBelow_top (f : Schema → Schema) (s : Schema) : AgreeTop (s.mapBelow f) s :=
  ⟨rfl, by simp [mapBelow], rfl⟩

theorem sorted_mapBelow (hs : s.Sorted)
    (hp : ∀ ps, s.properties = some ps → ∀ p ∈ ps, (f p.2).Sorted)
    (hi : ∀ i, s.items = some i → (f i).Sorted) : (s.mapBelow f).Sorted := by
  refine .of_parts (fun ps h => ?_) (fun i h => ?_) fun _ h _ ht => hs.entry h ht
  · obtain ⟨qs, hq, rfl⟩ := Option.map_eq_some_iff.1 h
    refine ⟨(hs.map hq).ascending.map f, fun p hm => ?_⟩
    obtain ⟨q, hqs, rfl⟩ := List.mem_map.1 hm
    exact hp qs hq q hqs
  · obtain ⟨j, hj, rfl⟩ := Option.map_eq_some_iff.1 h
    exact hi j hj

theorem size_le_sizeNamed {p : String × Schema} {ps : List (String × Schema)} (h : p ∈ ps) :
    p.2.size ≤ sizeNamed ps := by
  induction ps with
  | nil => cases h
  | cons q ps ih =>
    obtain ⟨name, s⟩ := q
    rw [sizeNamed]
    rcases List.mem_cons.1 h with rfl | h
    · exact Nat.le_add_right _ _
    · have := ih h
      omega

theorem Sorted.effective {s : Schema} (hs : s.Sorted) : s.effective.Sorted := by
  have hle := size_normalize_le s
  rw [effective_eq]
  refine sorted_mapBelow hs.normalize (fun ps hp p hm => ?_) fun i hi => ?_
  · have hlt := sizeNamed_lt_of_properties hp
    have hmem := size_le_sizeNamed hm
    exact Sorted.effective ((hs.normalize.map hp).sorted p hm)
  · have hlt := size_lt_of_items hi
    exact Sorted.effective (hs.normalize.item hi)
termination_by s.size
decreasing_by
  · omega
  · omega

theorem Sorted.eager (hs : s.Sorted) : s.eager.Sorted := by
  induction hs with
  | @intro s ascending properties items allOf ihp ihi iha =>
    have hs : s.Sorted := .intro ascending properties items allOf
    have hentries : ∀ t ∈ s.entries.map Schema.eager, t.Sorted := by
      intro t ht
      obtain ⟨u, hu, rfl⟩ := List.mem_map.1 ht
      rcases allOf_entries (s := s) with ⟨-, he⟩ | ha
      · rw [he] at hu
        cases hu
      · exact iha _ ha u hu
    rw [eager_eq]
    exact sorted_merge _ _ (sorted_foldl_merge sorted_empty hentries)
      (sorted_mapBelow hs.own ihp ihi)

theorem sorted_map_eager (hs : ∀ s ∈ ss, s.Sorted) : ∀ t ∈ ss.map eager, t.Sorted := by
  intro t ht
  obtain ⟨s, hm, rfl⟩ := List.mem_map.1 ht
  exact (hs s hm).eager

theorem Sorted.mapBelow_eager (hs : s.Sorted) : (s.mapBelow Schema.eager).Sorted :=
  sorted_mapBelow hs (fun _ hp p hm => ((hs.map hp).sorted p hm).eager) fun _ hi =>
    (hs.item hi).eager

theorem sorted_map_mapBelow (hs : ∀ s ∈ ss, s.Sorted) :
    ∀ t ∈ ss.map (mapBelow eager), t.Sorted := by
  intro t ht
  obtain ⟨s, hm, rfl⟩ := List.mem_map.1 ht
  exact (hs s hm).mapBelow_eager

mutual

/-- Laying the layers of a schema on a target, each worked out, is laying what they describe
together on it. -/
theorem foldl_eager_layers (t s : Schema) (ht : t.Sorted) (hs : s.Sorted) :
    Agree ((s.layers.map (mapBelow eager)).foldl merge t) (merge t s.eager) := by
  match s, hs with
  | ⟨facets, properties, items, none⟩, hs =>
    rw [layers, eager_eq, List.map_singleton, List.foldl_cons, List.foldl_nil]
    have hown := hs.mapBelow_eager
    exact (Agree.refl t).merge (Agree.empty_merge hown).symm ht ht hown
      (sorted_merge _ _ sorted_empty hown)
  | ⟨facets, properties, items, some entries⟩, hs =>
    have he : ∀ s ∈ entries, s.Sorted := fun s hm => hs.entry rfl hm
    have hown := hs.without_allOf.mapBelow_eager
    have hlayers := sorted_foldl_merge ht (sorted_map_mapBelow (sorted_layersOf entries he))
    have hfold := sorted_foldl_merge ht (sorted_map_eager he)
    have hbelow := sorted_foldl_merge sorted_empty (sorted_map_eager he)
    rw [layers, eager_eq, List.map_append, List.foldl_append]
    -- the target goes below what the entries describe, then below the whole
    have hmove := merge_foldl_merge ht sorted_empty (sorted_map_eager he)
    rw [merge_empty] at hmove
    exact ((foldl_eager_layersOf t entries ht he).merge (.refl _) hlayers hfold hown hown).trans
      ((hmove.symm.merge (.refl _) hfold (sorted_merge t _ ht hbelow) hown hown).trans
        (merge_assoc ht hbelow hown))

theorem foldl_eager_layersOf (t : Schema) (ss : List Schema) (ht : t.Sorted)
    (hs : ∀ s ∈ ss, s.Sorted) :
    Agree (((layersOf ss).map (mapBelow eager)).foldl merge t) ((ss.map eager).foldl merge t) := by
  match ss, hs with
  | [], _ =>
    rw [layersOf]
    exact .refl _
  | s :: ss, hs =>
    have hsn := hs s List.mem_cons_self
    have hss : ∀ v ∈ ss, v.Sorted := fun v hv => hs v (List.mem_cons_of_mem _ hv)
    have hlayers := sorted_foldl_merge ht (sorted_map_mapBelow (sorted_layers s hsn))
    rw [layersOf, List.map_append, List.foldl_append, List.map_cons, List.foldl_cons]
    exact (foldl_eager_layersOf _ ss hlayers hss).trans
      ((foldl_eager_layers t s ht hsn).foldl_merge hlayers (sorted_merge t _ ht hsn.eager)
        (sorted_map_eager hss))

end

end Schema

end Conform
