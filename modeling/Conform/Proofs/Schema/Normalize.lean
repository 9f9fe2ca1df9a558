import Conform.Proofs.Schema.Edit

/-!
# Layers of a schema

The layers of a schema are its own keywords and, before them, the layers of the schemas in its
`allOf`. Normalizing lays them over one another in their order, whatever the nesting of `allOf` is,
since merging is associative and has the schema without keywords as identity. All this is up to
unknown keywords (`Agree`): their values are merged as JSON, which is not associative where values
of different kinds meet.

* `merge_assoc`: the grouping of three layers makes no difference.
* `normalize_layers`: a normalized schema is the fold of its layers.
-/

set_option autoImplicit false

namespace Conform

namespace Schema

/-- The schemas agree on all but unknown keywords, at every depth. -/
def Agree (s t : Schema) : Prop := s.edit .dropUnknown = t.edit .dropUnknown

variable {s t u : Schema}

theorem Agree.refl (s : Schema) : Agree s s := rfl

theorem Agree.symm (h : Agree s t) : Agree t s := Eq.symm h

theorem Agree.trans (h : Agree s t) (h' : Agree t u) : Agree s u := Eq.trans h h'

theorem Agree.merge {t' u' : Schema} (h : Agree t t') (h' : Agree u u') (ht : t.Sorted)
    (ht' : t'.Sorted) (hu : u.Sorted) (hu' : u'.Sorted) :
    Agree (merge t u) (Schema.merge t' u') := by
  rw [Agree, edit_merge ht hu, edit_merge ht' hu', h, h']

/-! ## Three layers -/

theorem merge_unknown_assoc (hs : s.Sorted) (ht : t.Sorted) (hu : u.Sorted) :
    merge (merge (s.edit .dropUnknown) (t.edit .dropUnknown)) (u.edit .dropUnknown) =
      merge (s.edit .dropUnknown) (merge (t.edit .dropUnknown) (u.edit .dropUnknown)) := by
  induction u, hu using Sorted.induct generalizing s t with
  | step u hu ihp ihi =>
    have hst := sorted_merge _ _ (hs.edit (e := .dropUnknown)) (ht.edit (e := .dropUnknown))
    have htu := sorted_merge _ _ (ht.edit (e := .dropUnknown)) (hu.edit (e := .dropUnknown))
    refine ext_property? (sorted_merge _ _ hst hu.edit) (sorted_merge _ _ hs.edit htu) ?_ ?_
      (fun name => ?_) ?_ ?_
    · simp only [facets_merge, facets_edit, Edit.dropUnknown, Facets.merge, Json.mergeMembers,
        Option.or_assoc, joinLists_eq]
      rw [merge_assoc_eq fun _ _ _ _ _ _ => List.append_assoc ..,
        merge_assoc_eq fun _ _ _ _ _ _ => List.append_assoc ..]
    · simp only [isSome_properties_merge, Bool.or_assoc]
    · rw [property?_merge hst hu.edit, property?_merge hs.edit ht.edit,
        property?_merge hs.edit htu, property?_merge ht.edit hu.edit]
      refine merge_assoc_eq fun x y z hx hy hz => ?_
      simp only [property?_edit, Edit.dropUnknown, if_true, Option.map_eq_some_iff] at hx hy hz
      obtain ⟨x, hx, rfl⟩ := hx
      obtain ⟨y, hy, rfl⟩ := hy
      obtain ⟨z, hz, rfl⟩ := hz
      exact ihp name z hz (hs.property hx) (ht.property hy)
    · simp only [items_merge, mergeItems_eq, items_edit]
      refine merge_assoc_eq fun x y z hx hy hz => ?_
      simp only [Option.map_eq_some_iff] at hx hy hz
      obtain ⟨x, hx, rfl⟩ := hx
      obtain ⟨y, hy, rfl⟩ := hy
      obtain ⟨z, hz, rfl⟩ := hz
      exact ihi z hz (hs.item hx) (ht.item hy)
    · simp only [allOf_merge, joinLists_eq]
      exact merge_assoc_eq fun _ _ _ _ _ _ => List.append_assoc ..

/-- **Merging is associative**, unknown keywords apart. -/
theorem merge_assoc (hs : s.Sorted) (ht : t.Sorted) (hu : u.Sorted) :
    Agree (merge (merge s t) u) (merge s (merge t u)) := by
  rw [Agree, edit_merge (sorted_merge s t hs ht) hu, edit_merge hs ht,
    edit_merge hs (sorted_merge t u ht hu), edit_merge ht hu]
  exact merge_unknown_assoc hs ht hu

/-- Values of unknown keywords are merged as JSON: where a number comes between two lists, the
grouping decides whether it replaces the first one. -/
example : (Json.merge (.arr [.nat 1]) (.nat 2)).merge (.arr [.nat 3]) = .arr [.nat 3] ∧
    Json.merge (.arr [.nat 1]) ((Json.nat 2).merge (.arr [.nat 3])) = .arr [.nat 1, .nat 3] :=
  ⟨rfl, rfl⟩

/-! ## Layers -/

mutual

/-- The layers of a schema: those of the schemas in its `allOf`, in their order, and on top its own
keywords. -/
def layers : Schema → List Schema
  | ⟨facets, properties, items, none⟩ => [⟨facets, properties, items, none⟩]
  | ⟨facets, properties, items, some entries⟩ =>
    layersOf entries ++ [⟨facets, properties, items, none⟩]

/-- The layers of some schemas, in their order. -/
def layersOf : List Schema → List Schema
  | [] => []
  | s :: ss => layers s ++ layersOf ss

end

theorem layersOf_append (ss us : List Schema) :
    layersOf (ss ++ us) = layersOf ss ++ layersOf us := by
  induction ss with
  | nil => rw [layersOf]; rfl
  | cons s ss ih => rw [List.cons_append, layersOf, layersOf, ih, List.append_assoc]

mutual

theorem sorted_layers (s : Schema) (hs : s.Sorted) : ∀ l ∈ s.layers, l.Sorted := by
  match s, hs with
  | ⟨facets, properties, items, none⟩, hs =>
    intro l hl
    rw [layers, List.mem_singleton] at hl
    exact hl ▸ hs
  | ⟨facets, properties, items, some entries⟩, hs =>
    intro l hl
    rw [layers] at hl
    rcases List.mem_append.1 hl with hl | hl
    · exact sorted_layersOf entries (fun t ht => hs.entry rfl ht) l hl
    · exact List.mem_singleton.1 hl ▸ hs.without_allOf

theorem sorted_layersOf (ss : List Schema) (hs : ∀ s ∈ ss, s.Sorted) :
    ∀ l ∈ layersOf ss, l.Sorted := by
  match ss, hs with
  | [], _ =>
    intro l hl
    rw [layersOf] at hl
    cases hl
  | s :: ss, hs =>
    intro l hl
    rw [layersOf] at hl
    rcases List.mem_append.1 hl with hl | hl
    · exact sorted_layers s (hs s List.mem_cons_self) l hl
    · exact sorted_layersOf ss (fun u hu => hs u (List.mem_cons_of_mem _ hu)) l hl

end

theorem sorted_foldl_merge {ls : List Schema} (ht : t.Sorted) (hl : ∀ l ∈ ls, l.Sorted) :
    (ls.foldl merge t).Sorted := by
  induction ls generalizing t with
  | nil => exact ht
  | cons l ls ih =>
    exact ih (sorted_merge t l ht (hl l List.mem_cons_self)) fun m hm =>
      hl m (List.mem_cons_of_mem _ hm)

/-- Schemas that agree are the same to lay others on. -/
theorem Agree.normalizeOnto {t' : Schema} {ss : List Schema} (h : Agree t t') (ht : t.Sorted)
    (ht' : t'.Sorted) (hs : ∀ s ∈ ss, s.Sorted) :
    Agree (Schema.normalizeOnto t ss) (Schema.normalizeOnto t' ss) := by
  rw [Agree, edit_normalizeOnto t ss ht hs, edit_normalizeOnto t' ss ht' hs, h]

theorem Agree.foldl_merge {ls : List Schema} (h : Agree t u) (ht : t.Sorted) (hu : u.Sorted)
    (hl : ∀ l ∈ ls, l.Sorted) : Agree (ls.foldl Schema.merge t) (ls.foldl Schema.merge u) := by
  induction ls generalizing t u with
  | nil => exact h
  | cons l ls ih =>
    have hsl := hl l List.mem_cons_self
    exact ih (h.merge (.refl l) ht hu hsl hsl) (sorted_merge t l ht hsl) (sorted_merge u l hu hsl)
      fun m hm => hl m (List.mem_cons_of_mem _ hm)

/-- The lowest of some layers can be laid on last. -/
theorem merge_foldl_merge {ls : List Schema} (ht : t.Sorted) (hu : u.Sorted)
    (hl : ∀ l ∈ ls, l.Sorted) :
    Agree (merge t (ls.foldl merge u)) (ls.foldl merge (merge t u)) := by
  induction ls generalizing u with
  | nil => exact .refl _
  | cons l ls ih =>
    have hsl := hl l List.mem_cons_self
    have hls : ∀ m ∈ ls, m.Sorted := fun m hm => hl m (List.mem_cons_of_mem _ hm)
    have hul := sorted_merge u l hu hsl
    refine (ih hul hls).trans ?_
    exact (merge_assoc ht hu hsl).symm.foldl_merge (sorted_merge t _ ht hul)
      (sorted_merge _ l (sorted_merge t u ht hu) hsl) hls

theorem normalizeOnto_eq (t : Schema) (ss : List Schema) :
    normalizeOnto t ss = (ss.map normalize).foldl merge t := by
  induction ss generalizing t with
  | nil => rw [normalizeOnto]; rfl
  | cons s ss ih => rw [normalizeOnto, ih]; rfl

theorem merge_normalizeOnto (ss : List Schema) (ht : t.Sorted) (hu : u.Sorted)
    (hs : ∀ s ∈ ss, s.Sorted) :
    Agree (merge t (normalizeOnto u ss)) (normalizeOnto (merge t u) ss) := by
  have hnormal : ∀ l ∈ ss.map normalize, l.Sorted := by
    intro l hl
    obtain ⟨s, hm, rfl⟩ := List.mem_map.1 hl
    exact (hs s hm).normalize
  rw [normalizeOnto_eq, normalizeOnto_eq]
  exact merge_foldl_merge ht hu hnormal

mutual

/-- Laying the layers of a schema on a target, one by one, is laying the normalized schema on it. -/
theorem foldl_layers (t s : Schema) (ht : t.Sorted) (hs : s.Sorted) :
    Agree (s.layers.foldl merge t) (merge t s.normalize) := by
  match s, hs with
  | ⟨facets, properties, items, none⟩, hs =>
    rw [layers, normalize]
    exact .refl _
  | ⟨facets, properties, items, some entries⟩, hs =>
    have he : ∀ s ∈ entries, s.Sorted := fun s hs' => hs.entry rfl hs'
    have hown := hs.without_allOf
    have hbelow := sorted_normalizeOnto empty entries sorted_empty he
    have honto := sorted_normalizeOnto t entries ht he
    rw [layers, normalize, List.foldl_append]
    -- the layers of the entries first, then the own keywords on both sides
    have hfold : Agree (((layersOf entries).foldl merge t).merge ⟨facets, properties, items, none⟩)
        (merge (normalizeOnto t entries) ⟨facets, properties, items, none⟩) :=
      (foldl_layersOf t entries ht he).merge (.refl _)
        (sorted_foldl_merge ht (sorted_layersOf entries he)) honto hown hown
    have hmove : Agree (normalizeOnto t entries) (merge t (normalizeOnto empty entries)) := by
      have h := merge_normalizeOnto entries ht sorted_empty he
      rw [merge_empty] at h
      exact h.symm
    exact hfold.trans ((hmove.merge (.refl _) honto (sorted_merge t _ ht hbelow) hown hown).trans
      (merge_assoc ht hbelow hown))

theorem foldl_layersOf (t : Schema) (ss : List Schema) (ht : t.Sorted) (hs : ∀ s ∈ ss, s.Sorted) :
    Agree ((layersOf ss).foldl merge t) (normalizeOnto t ss) := by
  match ss, hs with
  | [], _ =>
    rw [layersOf, normalizeOnto]
    exact .refl _
  | s :: ss, hs =>
    have hsn := hs s List.mem_cons_self
    have hss : ∀ v ∈ ss, v.Sorted := fun v hv => hs v (List.mem_cons_of_mem _ hv)
    have hfold := sorted_foldl_merge ht (sorted_layers s hsn)
    rw [layersOf, normalizeOnto, List.foldl_append]
    exact (foldl_layersOf _ ss hfold hss).trans
      ((foldl_layers t s ht hsn).normalizeOnto hfold (sorted_merge t _ ht hsn.normalize) hss)

end

/-! ## Normalized schemas -/

theorem Agree.empty_merge (hs : s.Sorted) : Agree (Schema.merge empty s) s := by
  rw [Agree, edit_merge sorted_empty hs, edit_empty]
  refine Schema.empty_merge hs.edit ?_
  rw [facets_edit]
  exact KeyMap.sorted_nil

/-- A normalized schema is the fold of its layers. -/
theorem normalize_agree_foldl (hs : s.Sorted) : Agree s.normalize (s.layers.foldl merge empty) :=
  (Agree.empty_merge hs.normalize).symm.trans (foldl_layers empty s sorted_empty hs).symm

/-- The schema with other schemas in its `allOf`. -/
def withAllOf (s : Schema) (entries : List Schema) : Schema := { s with allOf := some entries }

theorem sorted_withAllOf {entries : List Schema} (h : ∀ t ∈ entries, t.Sorted) :
    (empty.withAllOf entries).Sorted :=
  .of_parts (by simp [withAllOf, empty]) (by simp [withAllOf, empty]) fun ss hss => by
    cases hss; exact h

theorem layers_withAllOf (s : Schema) (entries : List Schema) :
    (s.withAllOf entries).layers = layersOf entries ++ [{ s with allOf := none }] := by
  rw [withAllOf, layers]

/-- A schema with nothing but `allOf` adds to the layers in it one without keywords. -/
theorem foldl_layers_group (s : Schema) (xs ys zs : List Schema) :
    (s.withAllOf (xs ++ empty.withAllOf ys :: zs)).layers.foldl merge t =
      (s.withAllOf (xs ++ ys ++ zs)).layers.foldl merge t := by
  have hempty : ({ empty with allOf := none } : Schema) = empty := rfl
  simp only [layers_withAllOf, layersOf_append, layersOf, List.foldl_append, List.foldl_cons,
    List.foldl_nil, hempty, merge_empty]

/-- A group of entries can be taken out of its own `allOf`. -/
theorem normalize_group (s : Schema) (xs ys zs : List Schema)
    (hs : (s.withAllOf (xs ++ empty.withAllOf ys :: zs)).Sorted) :
    Agree (s.withAllOf (xs ++ empty.withAllOf ys :: zs)).normalize
      (s.withAllOf (xs ++ ys ++ zs)).normalize := by
  have hflat : (s.withAllOf (xs ++ ys ++ zs)).Sorted := by
    refine .of_parts (fun _ hp => hs.map hp) (fun _ hi => hs.item hi) fun ss hss t ht => ?_
    cases hss
    rcases List.mem_append.1 ht with ht | ht
    · rcases List.mem_append.1 ht with ht | ht
      · exact hs.entry rfl (List.mem_append_left _ ht)
      · exact (hs.entry rfl (List.mem_append_right _ List.mem_cons_self)).entry rfl ht
    · exact hs.entry rfl (List.mem_append_right _ (List.mem_cons_of_mem _ ht))
  have h := normalize_agree_foldl hs
  rw [foldl_layers_group] at h
  exact h.trans (normalize_agree_foldl hflat).symm

mutual

/-- A normalized schema has no `allOf`. -/
theorem allOf_normalize (s : Schema) : s.normalize.allOf = none := by
  match s with
  | ⟨facets, properties, items, none⟩ => rw [normalize]
  | ⟨facets, properties, items, some entries⟩ =>
    rw [normalize, allOf_merge, allOf_normalizeOnto empty entries rfl]
    rfl

theorem allOf_normalizeOnto (t : Schema) (ss : List Schema) (ht : t.allOf = none) :
    (normalizeOnto t ss).allOf = none := by
  match ss with
  | [] => rw [normalizeOnto, ht]
  | s :: ss =>
    rw [normalizeOnto]
    refine allOf_normalizeOnto _ ss ?_
    rw [allOf_merge, ht, allOf_normalize s]
    rfl

end

/-- **Normalizing lays the layers of a schema over one another.** The nesting of `allOf` makes no
difference, since merging is associative and the schema without keywords changes nothing; the result
has no `allOf` and is not changed any more. -/
theorem normalize_layers {s : Schema} (hs : s.Sorted) :
    Agree s.normalize (s.layers.foldl merge empty) ∧
    (∀ t : Schema, t.Sorted → t.layers = s.layers → Agree t.normalize s.normalize) ∧
    (∀ xs ys zs, s.allOf = some (xs ++ empty.withAllOf ys :: zs) →
      Agree s.normalize (s.withAllOf (xs ++ ys ++ zs)).normalize) ∧
    (∀ t u : Schema, t.Sorted → u.Sorted → Agree (merge (merge s t) u) (merge s (merge t u))) ∧
    merge s empty = s ∧ (KeyMap.Sorted s.facets.extra → merge empty s = s) ∧
    s.normalize.allOf = none ∧ (s.allOf = none → s.normalize = s) ∧
    s.normalize.normalize = s.normalize := by
  refine ⟨normalize_agree_foldl hs, fun t ht hl => ?_, fun xs ys zs ha => ?_,
    fun t u ht hu => merge_assoc hs ht hu, merge_empty s, empty_merge hs, allOf_normalize s,
    normalize_of_allOf_eq_none, normalize_of_allOf_eq_none (allOf_normalize s)⟩
  · have h := normalize_agree_foldl ht
    rw [hl] at h
    exact h.trans (normalize_agree_foldl hs).symm
  · have hw : s = s.withAllOf (xs ++ empty.withAllOf ys :: zs) := by
      cases s
      cases ha
      rfl
    rw [hw] at hs ⊢
    exact normalize_group s xs ys zs hs

/-- Values of a length between the bounds. -/
def ofLength (least most : Option Nat) : Schema :=
  { empty with facets := { Facets.empty with minLength := least, maxLength := most } }

/-- A code of at least one character, then two more layers in a group of their own: at least two
characters, and at most eight. -/
def codedItem : Schema :=
  empty.withAllOf
    [ofProperties [("code", ofLength (some 1) none)] ["code"],
      empty.withAllOf
        [ofProperties [("code", ofLength (some 2) none)] ["code"],
          ofProperties [("code", ofLength none (some 8))] []]]

theorem sorted_codedItem : codedItem.Sorted := by
  have hcode : ∀ least most names,
      (ofProperties [("code", ofLength least most)] names).Sorted := fun least most names =>
    sorted_ofProperties names ⟨List.pairwise_singleton _ _, by
      simp only [List.mem_singleton, forall_eq]
      exact .of_parts (by simp [ofLength, empty]) (by simp [ofLength, empty])
        (by simp [ofLength, empty])⟩
  refine sorted_withAllOf ?_
  simp only [List.mem_cons, List.not_mem_nil, or_false, forall_eq_or_imp, forall_eq]
  refine ⟨hcode _ _ _, sorted_withAllOf ?_⟩
  simp only [List.mem_cons, List.not_mem_nil, or_false, forall_eq_or_imp, forall_eq]
  exact ⟨hcode _ _ _, hcode _ _ _⟩

theorem normalize_layers_codedItem :
    codedItem.Sorted ∧
    Agree codedItem.normalize (codedItem.layers.foldl merge empty) ∧
    Agree codedItem.normalize (empty.withAllOf
      [ofProperties [("code", ofLength (some 1) none)] ["code"],
        ofProperties [("code", ofLength (some 2) none)] ["code"],
        ofProperties [("code", ofLength none (some 8))] []]).normalize ∧
    codedItem.normalize.facets.required = some ["code", "code"] ∧
    (codedItem.normalize.property? "code").map (fun c => (c.facets.minLength, c.facets.maxLength)) =
      some (some 2, some 8) := by
  obtain ⟨hfold, -, hgroup, -⟩ := normalize_layers sorted_codedItem
  have hproperties :
      codedItem.normalize.properties = some [("code", ofLength (some 2) (some 8))] := by
    cbv
  refine ⟨sorted_codedItem, hfold, hgroup [_] _ [] rfl, by cbv, ?_⟩
  rw [property?, hproperties]
  rfl

end Schema

end Conform
