import Conform.Proofs.Schema.Merge

/-!
# Editing schemas

An `Edit` makes the same change to every schema in a schema, at every depth: it rewrites the
keywords that hold no schema, in a way that is compatible with merging, and keeps the properties of
some names only. So it makes no difference whether layers are edited before or after they are
merged.

* `edit_merge`, `edit_normalize`: an edited merge is the merge of the edited schemas.
* `PassesMerge.normalize`: what passes a merge passes normalizing.

`Edit.dropUnknown` leaves unknown keywords out, `Edit.dropNames` some properties and the demands for
them.
-/

set_option autoImplicit false

namespace Conform

/-- A change that is made everywhere in a schema. -/
structure Edit where
  onFacets : Facets → Facets
  keeps : String → Bool
  onFacets_empty : onFacets .empty = .empty
  onFacets_merge : ∀ f g : Facets, onFacets (f.merge g) = (onFacets f).merge (onFacets g)

namespace Edit

/-- Unknown keywords are left out. -/
def dropUnknown : Edit where
  onFacets f := { f with extra := [] }
  keeps _ := true
  onFacets_empty := rfl
  onFacets_merge f g := by simp [Facets.merge, Json.mergeMembers]

/-- Properties of the given names are left out, and so are the names in lists of required ones. -/
def dropNames (names : List String) : Edit where
  onFacets f := { f with required := f.required.map (·.filter fun name => !names.contains name) }
  keeps name := !names.contains name
  onFacets_empty := rfl
  onFacets_merge f g := by
    simp only [Facets.merge, joinLists_eq]
    rw [map_merge_eq fun _ _ _ _ => List.filter_append ..]

end Edit

namespace Schema

variable (e : Edit)

mutual

/-- The schema with the change made to it and to all schemas inside. -/
def edit : Schema → Schema
  | ⟨facets, properties, items, allOf⟩ =>
    { facets := e.onFacets facets
      properties := editProperties properties
      items := editItems items
      allOf := editAllOf allOf }

/-- The properties that are kept, if there are any, each edited. -/
def editProperties : Option (List (String × Schema)) → Option (List (String × Schema))
  | none => none
  | some ps => some (editNamed ps)

/-- The schema of the items, if there is one, edited. -/
def editItems : Option Schema → Option Schema
  | none => none
  | some i => some (edit i)

/-- The schemas that apply as well, each edited. -/
def editAllOf : Option (List Schema) → Option (List Schema)
  | none => none
  | some ss => some (editList ss)

/-- The named schemas that are kept, each edited. -/
def editNamed : List (String × Schema) → List (String × Schema)
  | [] => []
  | (name, s) :: ps => if e.keeps name then (name, edit s) :: editNamed ps else editNamed ps

/-- A list of schemas, each edited. -/
def editList : List Schema → List Schema
  | [] => []
  | s :: ss => edit s :: editList ss

end

variable {e}

/-! ## The parts of an edited schema -/

@[simp] theorem facets_edit (s : Schema) : (s.edit e).facets = e.onFacets s.facets := by
  cases s; rw [edit]

theorem editNamed_eq (ps : List (String × Schema)) :
    editNamed e ps = (ps.filter fun p => e.keeps p.1).map fun p => (p.1, p.2.edit e) := by
  induction ps with
  | nil => rw [editNamed]; rfl
  | cons p ps ih =>
    obtain ⟨name, s⟩ := p
    rw [editNamed, List.filter_cons]
    split <;> simp [ih]

theorem editList_eq (ss : List Schema) : editList e ss = ss.map (edit e) := by
  induction ss with
  | nil => rw [editList]; rfl
  | cons s ss ih => rw [editList, ih]; rfl

@[simp] theorem properties_edit (s : Schema) :
    (s.edit e).properties = s.properties.map (editNamed e) := by
  obtain ⟨_, ps, _, _⟩ := s
  cases ps <;> rw [edit, editProperties] <;> rfl

@[simp] theorem items_edit (s : Schema) : (s.edit e).items = s.items.map (edit e) := by
  obtain ⟨_, _, i, _⟩ := s
  cases i <;> rw [edit, editItems] <;> rfl

@[simp] theorem allOf_edit (s : Schema) : (s.edit e).allOf = s.allOf.map (·.map (edit e)) := by
  obtain ⟨_, _, _, ss⟩ := s
  cases ss <;> rw [edit, editAllOf] <;> simp [editList_eq]

theorem property?_edit (s : Schema) (name : String) :
    (s.edit e).property? name = if e.keeps name then (s.property? name).map (edit e) else none := by
  have h : (s.edit e).properties.getD [] = editNamed e (s.properties.getD []) := by
    rw [properties_edit]
    cases s.properties with
    | none => rw [Option.getD_none, editNamed]; rfl
    | some ps => rfl
  rw [property?, h, editNamed_eq, KeyMap.lookup_map, KeyMap.lookup_filter]
  split <;> rfl

theorem edit_empty : empty.edit e = empty := by
  rw [empty, edit, editProperties, editItems, editAllOf, e.onFacets_empty]

theorem Sorted.edit {s : Schema} (h : s.Sorted) : (s.edit e).Sorted := by
  induction h with
  | @intro s ascending properties items allOf ihp ihi iha =>
    refine .of_parts (fun ps hp => ?_) (fun i hi => ?_) (fun ss hs t ht => ?_)
    · rw [properties_edit] at hp
      obtain ⟨qs, hq, rfl⟩ := Option.map_eq_some_iff.1 hp
      rw [editNamed_eq]
      refine ⟨((ascending qs hq).filter _).map _, fun p hp => ?_⟩
      obtain ⟨q, hqs, rfl⟩ := List.mem_map.1 hp
      exact ihp qs hq q (List.mem_filter.1 hqs).1
    · rw [items_edit] at hi
      obtain ⟨j, hj, rfl⟩ := Option.map_eq_some_iff.1 hi
      exact ihi j hj
    · rw [allOf_edit] at hs
      obtain ⟨us, hu, rfl⟩ := Option.map_eq_some_iff.1 hs
      obtain ⟨u, hus, rfl⟩ := List.mem_map.1 ht
      exact iha us hu u hus

/-! ## Editing and merging -/

/-- **An edited merge** is the merge of the edited schemas. -/
theorem edit_merge {t s : Schema} (ht : t.Sorted) (hs : s.Sorted) :
    (merge t s).edit e = merge (t.edit e) (s.edit e) := by
  induction s, hs using Sorted.induct generalizing t with
  | step s hs ihp ihi =>
    refine ext_property? (sorted_merge t s ht hs).edit (sorted_merge _ _ ht.edit hs.edit) ?_ ?_
      (fun name => ?_) ?_ ?_
    · simp only [facets_edit, facets_merge, e.onFacets_merge]
    · simp only [properties_edit, isSome_properties_merge, Option.isSome_map]
    · rw [property?_edit, property?_merge ht hs, property?_merge ht.edit hs.edit, property?_edit,
        property?_edit]
      split
      · exact map_merge_eq fun u v hu hv => ihp name v hv (ht.property hu)
      · rfl
    · simp only [items_edit, items_merge, mergeItems_eq]
      exact map_merge_eq fun u v hu hv => ihi v hv (ht.item hu)
    · simp only [allOf_edit, allOf_merge, joinLists_eq]
      exact map_merge_eq fun _ _ _ _ => List.map_append

/-! ## Editing and normalizing -/

/-- The function may be applied to schemas before or after they are merged. -/
structure PassesMerge (f : Schema → Schema) : Prop where
  empty : f empty = empty
  merge : ∀ t s : Schema, t.Sorted → s.Sorted → f (merge t s) = merge (f t) (f s)
  allOf : ∀ s : Schema, (f s).allOf = s.allOf.map (·.map f)
  own : ∀ s : Schema, f { s with allOf := none } = { f s with allOf := none }

theorem normalize_of_allOf_eq_none {s : Schema} (h : s.allOf = none) : s.normalize = s := by
  obtain ⟨_, _, _, _⟩ := s
  cases h
  rw [normalize]

theorem normalize_of_allOf_eq_some {s : Schema} {entries : List Schema}
    (h : s.allOf = some entries) :
    s.normalize = merge (normalizeOnto Schema.empty entries) { s with allOf := none } := by
  obtain ⟨_, _, _, _⟩ := s
  cases h
  rw [normalize]

variable {f : Schema → Schema}

mutual

/-- What may be applied before or after merging may be so before or after normalizing. -/
theorem PassesMerge.normalize (hf : PassesMerge f) (s : Schema) (hs : s.Sorted) :
    f s.normalize = (f s).normalize := by
  match s, hs with
  | ⟨facets, properties, items, none⟩, hs =>
    rw [normalize_of_allOf_eq_none rfl, normalize_of_allOf_eq_none (hf.allOf _)]
  | ⟨facets, properties, items, some entries⟩, hs =>
    have hentries : ∀ t ∈ entries, t.Sorted := fun t ht => hs.entry rfl ht
    rw [normalize_of_allOf_eq_some rfl, normalize_of_allOf_eq_some (hf.allOf _),
      hf.merge _ _ (sorted_normalizeOnto Schema.empty entries sorted_empty hentries)
        hs.without_allOf,
      hf.normalizeOnto Schema.empty entries sorted_empty hentries, hf.empty]
    exact congrArg _ (hf.own ⟨facets, properties, items, some entries⟩)

theorem PassesMerge.normalizeOnto (hf : PassesMerge f) (t : Schema) (ss : List Schema)
    (ht : t.Sorted) (hs : ∀ s ∈ ss, s.Sorted) :
    f (Schema.normalizeOnto t ss) = Schema.normalizeOnto (f t) (ss.map f) := by
  match ss, hs with
  | [], _ =>
    rw [List.map_nil, Schema.normalizeOnto, Schema.normalizeOnto]
  | s :: ss, hs =>
    have hsn := hs s List.mem_cons_self
    rw [List.map_cons, Schema.normalizeOnto, Schema.normalizeOnto,
      hf.normalizeOnto _ ss (sorted_merge t _ ht hsn.normalize) fun u hu =>
        hs u (List.mem_cons_of_mem _ hu),
      hf.merge t _ ht hsn.normalize, hf.normalize s hsn]

end

theorem passesMerge_edit : PassesMerge (edit e) where
  empty := edit_empty
  merge _ _ := edit_merge
  allOf := allOf_edit
  own s := by
    obtain ⟨facets, properties, items, allOf⟩ := s
    rw [edit, edit, editAllOf]

/-- **An edited schema is normalized** to what is left of the normalized one. -/
theorem edit_normalize {s : Schema} (hs : s.Sorted) :
    s.normalize.edit e = (s.edit e).normalize :=
  passesMerge_edit.normalize s hs

theorem edit_normalizeOnto (t : Schema) (ss : List Schema) (ht : t.Sorted)
    (hs : ∀ s ∈ ss, s.Sorted) :
    (normalizeOnto t ss).edit e = normalizeOnto (t.edit e) (ss.map (edit e)) :=
  passesMerge_edit.normalizeOnto t ss ht hs

end Schema

end Conform
