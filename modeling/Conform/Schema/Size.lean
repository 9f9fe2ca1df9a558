import Conform.Schema.Merge

/-!
# The size of merged schemas

Merging makes one schema of two, so it never adds to the number of schemas.

* `size_merge_lt`: a merge holds fewer schemas than its two parts together.
* `size_normalize_le`: a normalized schema holds no more schemas than it did before.
* `sizeNamed_prune_le`: leaving names out makes a map no larger.
-/

set_option autoImplicit false

namespace Conform.Schema

theorem size_pos (s : Schema) : 0 < s.size := by
  cases s; rw [size]; omega

theorem size_lt_of_items {s i : Schema} (h : s.items = some i) : i.size < s.size := by
  cases s; subst h; rw [size, sizeItems]; omega

theorem sizeProperties_lt (s : Schema) : sizeProperties s.properties < s.size := by
  cases s; simp only [size]; omega

theorem sizeNamed_lt_of_properties {s : Schema} {ps : List (String × Schema)}
    (h : s.properties = some ps) : sizeNamed ps < s.size := by
  cases s; subst h; rw [size, sizeProperties]; omega

/-! ## Maps -/

/-- A map grows by no more than what its new or changed value adds. -/
theorem sizeNamed_alter_le {name : String} {f : Option Schema → Schema} {n : Nat}
    (hnone : (f none).size ≤ n) (hsome : ∀ t : Schema, (f (some t)).size ≤ t.size + n)
    (ps : List (String × Schema)) : sizeNamed (KeyMap.alter name f ps) ≤ sizeNamed ps + n := by
  induction ps with
  | nil => simpa [KeyMap.alter, sizeNamed] using hnone
  | cons p ps ih =>
    obtain ⟨k, v⟩ := p
    simp only [KeyMap.alter]
    split
    · simp only [sizeNamed]; omega
    · split
      · have := hsome v
        simp only [sizeNamed]; omega
      · simp only [sizeNamed]; omega

theorem sizeNamed_filter_le (q : String × Schema → Bool) (ps : List (String × Schema)) :
    sizeNamed (ps.filter q) ≤ sizeNamed ps := by
  induction ps with
  | nil => simp [sizeNamed]
  | cons p ps ih =>
    obtain ⟨k, v⟩ := p
    simp only [List.filter_cons]
    split <;> simp only [sizeNamed] <;> omega

theorem sizeNamed_prune_le (blacklist : List String) (ps : List (String × Schema)) :
    sizeNamed (prune blacklist ps) ≤ sizeNamed ps := sizeNamed_filter_le _ ps

theorem sizeList_append (ss ts : List Schema) :
    sizeList (ss ++ ts) = sizeList ss + sizeList ts := by
  induction ss with
  | nil => simp [sizeList]
  | cons s ss ih => simp only [List.cons_append, sizeList, ih]; omega

theorem sizeAllOf_joinLists (a b : Option (List Schema)) :
    sizeAllOf (joinLists a b) = sizeAllOf a + sizeAllOf b := by
  cases a <;> cases b <;> simp [joinLists, sizeAllOf, sizeList_append]

/-! ## Merging -/

mutual

theorem size_merge_lt (t s : Schema) : (merge t s).size < t.size + s.size := by
  match s with
  | ⟨facets, properties, items, allOf⟩ =>
    obtain ⟨tf, tp, ti, ta⟩ := t
    have h1 := sizeProperties_merge_le tp properties
    have h2 := sizeItems_merge_le ti items
    simp only [merge, size, sizeAllOf_joinLists]
    omega

theorem sizeProperties_merge_le (t p : Option (List (String × Schema))) :
    sizeProperties (mergeProperties t p) ≤ sizeProperties t + sizeProperties p := by
  match p with
  | none => simp [mergeProperties, sizeProperties]
  | some ps =>
    have h := sizeNamed_merge_le (t.getD []) ps
    cases t <;> simpa [mergeProperties, sizeProperties, sizeNamed] using h

theorem sizeItems_merge_le (t i : Option Schema) :
    sizeItems (mergeItems t i) ≤ sizeItems t + sizeItems i := by
  match i with
  | none => simp [mergeItems, sizeItems]
  | some s =>
    cases t with
    | none => simp [mergeItems, sizeItems]
    | some t =>
      have h := size_merge_lt t s
      simp only [mergeItems, sizeItems, Option.elim_some]
      omega

theorem sizeNamed_merge_le (t ps : List (String × Schema)) :
    sizeNamed (mergeNamed t ps) ≤ sizeNamed t + sizeNamed ps := by
  match ps with
  | [] => simp [mergeNamed, sizeNamed]
  | (name, s) :: ps =>
    have h := sizeNamed_merge_le
      (KeyMap.alter name (fun old => old.elim s (fun t => merge t s)) t) ps
    have h' : sizeNamed (KeyMap.alter name (fun old => old.elim s (fun t => merge t s)) t) ≤
        sizeNamed t + s.size :=
      sizeNamed_alter_le (Nat.le_refl _) (fun t => Nat.le_of_lt (size_merge_lt t s)) t
    simp only [mergeNamed, sizeNamed]
    omega

end

/-! ## Normalizing -/

theorem size_empty : empty.size = 1 := by simp [empty, size, sizeProperties, sizeItems, sizeAllOf]

mutual

theorem size_normalize_le (s : Schema) : s.normalize.size ≤ s.size := by
  match s with
  | ⟨facets, properties, items, none⟩ => simp [normalize]
  | ⟨facets, properties, items, some entries⟩ =>
    have h := size_normalizeOnto_le empty entries
    have h' := size_merge_lt (normalizeOnto empty entries) ⟨facets, properties, items, none⟩
    simp only [size_empty] at h
    simp only [normalize, size, sizeAllOf] at h' ⊢
    omega

theorem size_normalizeOnto_le (t : Schema) (ss : List Schema) :
    (normalizeOnto t ss).size ≤ t.size + sizeList ss := by
  match ss with
  | [] => simp [normalizeOnto, sizeList]
  | s :: ss =>
    have h := size_normalizeOnto_le (merge t s.normalize) ss
    have h' := size_merge_lt t s.normalize
    have h'' := size_normalize_le s
    simp only [normalizeOnto, sizeList]
    omega

end

end Conform.Schema
