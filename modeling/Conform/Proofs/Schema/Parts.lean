import Conform.Path
import Conform.Proofs.Schema.Normalize

/-!
# What is below a merged schema

A schema has another one directly below it for each of its properties and for its items (`child?`),
and paths lead to those further below (`part?`). What is below a fold of layers is the fold of what
is below each of them (`child?_foldl_merge`); the rest of a schema, its top, is folded by itself
(`AgreeTop`). Two schemas agree if their tops do and all that is directly below them
(`agree_of_children`).
-/

set_option autoImplicit false

namespace Conform

namespace Schema

variable {s t u : Schema} {seg : Segment} {ls : List Schema}

/-- The schema directly below a schema: of a property, or of the items. -/
def child? : Segment → Schema → Option Schema
  | .field name, s => s.property? name
  | .items, s => s.items
  | .index _, _ => none

/-- The schema at the end of a path. -/
def part? : Path → Schema → Option Schema
  | [], s => some s
  | seg :: path, s => (child? seg s).bind (part? path)

theorem Sorted.child {c : Schema} (hs : s.Sorted) (hc : child? seg s = some c) : c.Sorted := by
  cases seg with
  | field name => exact hs.property hc
  | items => exact hs.item hc
  | index i => cases hc

theorem child?_merge (ht : t.Sorted) (hs : s.Sorted) (seg : Segment) :
    child? seg (merge t s) = (child? seg t).merge merge (child? seg s) := by
  cases seg with
  | field name => exact property?_merge ht hs name
  | items => exact (items_merge t s).trans (mergeItems_eq _ _)
  | index i => rfl

theorem child?_dropUnknown (seg : Segment) (s : Schema) :
    child? seg (s.edit .dropUnknown) = (child? seg s).map (edit .dropUnknown) := by
  cases seg with
  | field name => exact property?_edit s name
  | items => exact items_edit s
  | index i => rfl

theorem child?_empty (seg : Segment) : child? seg empty = none := by
  cases seg <;> rfl

theorem sorted_children (hl : ∀ l ∈ ls, l.Sorted) (seg : Segment) :
    ∀ c ∈ ls.filterMap (child? seg), c.Sorted := by
  intro c hc
  obtain ⟨l, hm, hc⟩ := List.mem_filterMap.1 hc
  exact (hl l hm).child hc

/-! ## Folds of layers -/

/-- Some layers laid over one another, if there are any. -/
def laid : List Schema → Option Schema
  | [] => none
  | s :: ss => some (ss.foldl merge s)

theorem laid_eq (ls : List Schema) : laid ls = pile merge ls := by
  cases ls <;> rfl

/-- What is below a fold of layers is the fold of what is below each of them. -/
theorem child?_foldl_merge (hl : ∀ l ∈ ls, l.Sorted) (ht : t.Sorted) (seg : Segment) :
    child? seg (ls.foldl merge t) =
      laid ((child? seg t).toList ++ ls.filterMap (child? seg)) := by
  rw [laid_eq]
  exact read_foldl (child? seg) sorted_merge (fun t l ht hl => child?_merge ht hl seg) hl ht

theorem child?_foldl_empty (hl : ∀ l ∈ ls, l.Sorted) (seg : Segment) :
    child? seg (ls.foldl merge empty) = laid (ls.filterMap (child? seg)) := by
  rw [child?_foldl_merge hl sorted_empty, child?_empty]
  rfl

theorem agree_laid {c : Schema} {cs : List Schema} (hc : ∀ d ∈ c :: cs, d.Sorted) :
    Agree (cs.foldl merge c) ((c :: cs).foldl merge empty) :=
  have hsc := hc c List.mem_cons_self
  (Agree.empty_merge hsc).symm.foldl_merge hsc (sorted_merge empty c sorted_empty hsc)
    fun d hd => hc d (List.mem_cons_of_mem _ hd)

theorem Agree.child (h : Agree s t) (seg : Segment) :
    (child? seg s).map (edit .dropUnknown) = (child? seg t).map (edit .dropUnknown) := by
  rw [← child?_dropUnknown, ← child?_dropUnknown, h]

theorem Agree.part (h : Agree s t) (path : Path) :
    (part? path s).map (edit .dropUnknown) = (part? path t).map (edit .dropUnknown) := by
  induction path generalizing s t with
  | nil => exact congrArg some h
  | cons seg path ih =>
    have hc := h.child seg
    rw [part?, part?]
    cases hs : child? seg s with
    | none =>
      rw [hs, Option.map_none, eq_comm, Option.map_eq_none_iff] at hc
      rw [hc]
    | some c =>
      rw [hs, Option.map_some, eq_comm, Option.map_eq_some_iff] at hc
      obtain ⟨d, hd, he⟩ := hc
      rw [hd]
      exact ih (Eq.symm he)

/-- What is below a schema that agrees with a fold: if there is anything below the layers, the fold
of it. -/
theorem Agree.child_foldl (h : Agree s (ls.foldl Schema.merge Schema.empty))
    (hl : ∀ l ∈ ls, l.Sorted) (seg : Segment) :
    (child? seg s = none ∧ ls.filterMap (child? seg) = []) ∨
    ∃ c, child? seg s = some c ∧ ls.filterMap (child? seg) ≠ [] ∧
      Agree c ((ls.filterMap (child? seg)).foldl Schema.merge Schema.empty) := by
  have hb := h.child seg
  have hcs := sorted_children hl seg
  rw [child?_foldl_empty hl] at hb
  cases hm : ls.filterMap (child? seg) with
  | nil =>
    rw [hm] at hb
    exact .inl ⟨Option.map_eq_none_iff.1 hb, rfl⟩
  | cons d ds =>
    rw [hm] at hb hcs
    obtain ⟨c, hc, hcd⟩ := Option.map_eq_some_iff.1 hb
    exact .inr ⟨c, hc, List.cons_ne_nil d ds, Agree.trans hcd (agree_laid hcs)⟩

/-! ## Tops -/

/-- The schemas agree on all but unknown keywords and what is below them. -/
structure AgreeTop (s t : Schema) : Prop where
  facets : Edit.dropUnknown.onFacets s.facets = Edit.dropUnknown.onFacets t.facets
  properties : s.properties.isSome = t.properties.isSome
  allOf : s.allOf.map (·.map (edit .dropUnknown)) = t.allOf.map (·.map (edit .dropUnknown))

theorem Agree.top (h : Agree s t) : AgreeTop s t := by
  refine ⟨?_, ?_, ?_⟩
  · rw [← facets_edit, ← facets_edit, h]
  · have hp := congrArg (fun u : Schema => u.properties.isSome) h
    simpa using hp
  · rw [← allOf_edit, ← allOf_edit, h]

theorem AgreeTop.symm (h : AgreeTop s t) : AgreeTop t s :=
  ⟨h.facets.symm, h.properties.symm, h.allOf.symm⟩

theorem AgreeTop.trans (h : AgreeTop s t) (h' : AgreeTop t u) : AgreeTop s u :=
  ⟨h.facets.trans h'.facets, h.properties.trans h'.properties, h.allOf.trans h'.allOf⟩

theorem AgreeTop.merge {v w : Schema} (h : AgreeTop s t) (h' : AgreeTop v w) :
    AgreeTop (Schema.merge s v) (Schema.merge t w) := by
  refine ⟨?_, ?_, ?_⟩
  · rw [facets_merge, facets_merge, Edit.onFacets_merge, Edit.onFacets_merge, h.facets, h'.facets]
  · rw [isSome_properties_merge, isSome_properties_merge, h.properties, h'.properties]
  · rw [allOf_merge, allOf_merge, joinLists_eq, joinLists_eq,
      map_merge_eq fun _ _ _ _ => List.map_append, map_merge_eq fun _ _ _ _ => List.map_append,
      h.allOf, h'.allOf]

/-- Schemas agree if their tops do and what is directly below them. -/
theorem agree_of_children (hs : s.Sorted) (ht : t.Sorted) (h : AgreeTop s t)
    (hc : ∀ seg, (child? seg s).map (edit .dropUnknown) = (child? seg t).map (edit .dropUnknown)) :
    Agree s t := by
  refine ext_property? hs.edit ht.edit ?_ ?_ (fun name => ?_) ?_ ?_
  · rw [facets_edit, facets_edit, h.facets]
  · simpa using h.properties
  · exact (child?_dropUnknown (.field name) s).trans
      ((hc (.field name)).trans (child?_dropUnknown (.field name) t).symm)
  · exact (child?_dropUnknown .items s).trans
      ((hc .items).trans (child?_dropUnknown .items t).symm)
  · rw [allOf_edit, allOf_edit, h.allOf]

end Schema

end Conform
