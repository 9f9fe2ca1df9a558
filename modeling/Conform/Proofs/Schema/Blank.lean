import Conform.Proofs.Schema.Edit

/-!
# Blanking out properties

`Schema.blank hides` puts the empty schema in the place of every property with one of certain names,
at every depth; the names stay. What is under such a name in one layer is merged with what is under
it in another one and with nothing else, so blanking passes merges (`blank_merge`).
-/

set_option autoImplicit false

namespace Conform.Schema

variable (hides : String → Bool)

mutual

/-- The schema with the empty one under every name that is hidden, also in all schemas inside. -/
def blank : Schema → Schema
  | ⟨facets, properties, items, allOf⟩ =>
    { facets
      properties := blankProperties properties
      items := blankItems items
      allOf := blankAllOf allOf }

/-- The properties, if there are any, blanked out. -/
def blankProperties : Option (List (String × Schema)) → Option (List (String × Schema))
  | none => none
  | some ps => some (blankNamed ps)

/-- The schema of the items, if there is one, blanked out. -/
def blankItems : Option Schema → Option Schema
  | none => none
  | some i => some (blank i)

/-- The schemas that apply as well, blanked out. -/
def blankAllOf : Option (List Schema) → Option (List Schema)
  | none => none
  | some ss => some (blankList ss)

/-- Named schemas, blanked out or hidden. -/
def blankNamed : List (String × Schema) → List (String × Schema)
  | [] => []
  | (name, s) :: ps => (name, if hides name then empty else blank s) :: blankNamed ps

/-- A list of schemas, blanked out. -/
def blankList : List Schema → List Schema
  | [] => []
  | s :: ss => blank s :: blankList ss

end

variable {hides}

/-! ## The parts of a blanked schema -/

@[simp] theorem facets_blank (s : Schema) : (s.blank hides).facets = s.facets := by
  cases s; rw [blank]

theorem blankNamed_eq (ps : List (String × Schema)) :
    blankNamed hides ps =
      ps.map fun p => (p.1, if hides p.1 then empty else p.2.blank hides) := by
  induction ps with
  | nil => rw [blankNamed]; rfl
  | cons p ps ih => rw [blankNamed, ih]; rfl

theorem blankList_eq (ss : List Schema) : blankList hides ss = ss.map (blank hides) := by
  induction ss with
  | nil => rw [blankList]; rfl
  | cons s ss ih => rw [blankList, ih]; rfl

theorem properties_blank (s : Schema) :
    (s.blank hides).properties = s.properties.map fun ps =>
      ps.map fun p => (p.1, if hides p.1 then empty else p.2.blank hides) := by
  obtain ⟨_, ps, _, _⟩ := s
  cases ps <;> rw [blank, blankProperties]
  · rfl
  · rw [blankNamed_eq]
    rfl

theorem items_blank (s : Schema) : (s.blank hides).items = s.items.map (blank hides) := by
  obtain ⟨_, _, i, _⟩ := s
  cases i <;> rw [blank, blankItems] <;> rfl

theorem allOf_blank (s : Schema) : (s.blank hides).allOf = s.allOf.map (·.map (blank hides)) := by
  obtain ⟨_, _, _, ss⟩ := s
  cases ss <;> rw [blank, blankAllOf]
  · rfl
  · rw [blankList_eq]
    rfl

theorem property?_blank (s : Schema) (name : String) :
    (s.blank hides).property? name =
      (s.property? name).map fun t => if hides name then empty else t.blank hides := by
  rw [property?, property?, properties_blank]
  cases s.properties with
  | none => rfl
  | some ps =>
    exact KeyMap.lookup_mapWith (fun name t => if hides name then empty else t.blank hides) ps name

theorem blank_empty : empty.blank hides = empty := by
  rw [empty, blank, blankProperties, blankItems, blankAllOf]

theorem Sorted.blank {s : Schema} (h : s.Sorted) : (s.blank hides).Sorted := by
  induction h with
  | @intro s ascending properties items allOf ihp ihi iha =>
    refine .of_parts (fun ps hp => ?_) (fun i hi => ?_) (fun ss hs t ht => ?_)
    · rw [properties_blank] at hp
      obtain ⟨qs, hq, rfl⟩ := Option.map_eq_some_iff.1 hp
      refine ⟨(ascending qs hq).mapWith fun name t =>
        if hides name then empty else t.blank hides, fun p hp => ?_⟩
      obtain ⟨q, hqs, rfl⟩ := List.mem_map.1 hp
      by_cases hname : hides q.1 = true
      · simpa only [if_pos hname] using sorted_empty
      · simpa only [if_neg hname] using ihp qs hq q hqs
    · rw [items_blank] at hi
      obtain ⟨j, hj, rfl⟩ := Option.map_eq_some_iff.1 hi
      exact ihi j hj
    · rw [allOf_blank] at hs
      obtain ⟨us, hu, rfl⟩ := Option.map_eq_some_iff.1 hs
      obtain ⟨u, hus, rfl⟩ := List.mem_map.1 ht
      exact iha us hu u hus

/-! ## Blanking and merging -/

/-- **A merge is blanked out** by blanking out both schemas. -/
theorem blank_merge {t s : Schema} (ht : t.Sorted) (hs : s.Sorted) :
    (merge t s).blank hides = merge (t.blank hides) (s.blank hides) := by
  induction s, hs using Sorted.induct generalizing t with
  | step s hs ihp ihi =>
    refine ext_property? (sorted_merge t s ht hs).blank (sorted_merge _ _ ht.blank hs.blank) ?_ ?_
      (fun name => ?_) ?_ ?_
    · simp only [facets_blank, facets_merge]
    · simp only [properties_blank, isSome_properties_merge, Option.isSome_map]
    · rw [property?_blank, property?_merge ht hs, property?_merge ht.blank hs.blank,
        property?_blank, property?_blank]
      refine map_merge_eq fun u v hu hv => ?_
      by_cases hname : hides name = true
      -- what is hidden is empty in both schemas and in their merge
      · simp only [if_pos hname, merge_empty]
      · simp only [if_neg hname, ihp name v hv (ht.property hu)]
    · simp only [items_blank, items_merge, mergeItems_eq]
      exact map_merge_eq fun u v hu hv => ihi v hv (ht.item hu)
    · simp only [allOf_blank, allOf_merge, joinLists_eq]
      exact map_merge_eq fun _ _ _ _ => List.map_append

theorem passesMerge_blank : PassesMerge (blank hides) where
  empty := blank_empty
  merge _ _ := blank_merge
  allOf := allOf_blank
  own s := by
    obtain ⟨facets, properties, items, allOf⟩ := s
    rw [blank, blank, blankAllOf]

end Conform.Schema
