import Conform.KeyMap

/-!
# Facts about maps with sorted keys

* `mem_alter`: an altered map holds the entries of the map it was, with one of them new or changed.
* `sorted_alter`, `Sorted.filter`: changing a value and leaving names out keep the order.
* `Sorted.lookup_eq_some_iff`: in a sorted map a name is bound to one value only.
* `Sorted.ext`: sorted maps with the same look-ups are the same.
* `lookup_putAll`, `lookup_ofList`: of a list of bindings the last one for a name counts.
* `lookup_overlay`: a map laid over another one is looked up in both.
-/

set_option autoImplicit false

namespace Conform.KeyMap

variable {α β : Type}

@[simp] theorem mem_keys {m : KeyMap α} {key : String} : key ∈ keys m ↔ ∃ v, (key, v) ∈ m := by
  simp [keys]

@[simp] theorem keys_cons (k : String) (v : α) (m : KeyMap α) : keys ((k, v) :: m) = k :: keys m :=
  rfl

instance (m : KeyMap α) : Decidable (Sorted m) :=
  inferInstanceAs (Decidable (m.Pairwise fun a b => a.1 < b.1))

/-- What an altered map holds: the value that `f` made, or an entry of the map it was. -/
theorem mem_alter {key : String} {f : Option α → α} {m : KeyMap α} {e : String × α}
    (h : e ∈ alter key f m) :
    e ∈ m ∨ e = (key, f none) ∨ ∃ v, (key, v) ∈ m ∧ e = (key, f (some v)) := by
  induction m with
  | nil => exact .inr (.inl (by simpa [alter] using h))
  | cons p m ih =>
    obtain ⟨k, v⟩ := p
    simp only [alter] at h
    split at h
    · rcases List.mem_cons.1 h with rfl | h
      · exact .inr (.inl rfl)
      · exact .inl h
    · split at h
      · rename_i hk
        subst hk
        rcases List.mem_cons.1 h with rfl | h
        · exact .inr (.inr ⟨v, List.mem_cons_self, rfl⟩)
        · exact .inl (List.mem_cons_of_mem _ h)
      · rcases List.mem_cons.1 h with rfl | h
        · exact .inl List.mem_cons_self
        · rcases ih h with h | h | ⟨w, hw, h⟩
          · exact .inl (List.mem_cons_of_mem _ h)
          · exact .inr (.inl h)
          · exact .inr (.inr ⟨w, List.mem_cons_of_mem _ hw, h⟩)

/-- The order is one of the names only. -/
theorem sorted_iff_keys {m : KeyMap α} : Sorted m ↔ (keys m).Pairwise (· < ·) :=
  List.pairwise_map.symm

theorem sorted_nil : Sorted ([] : KeyMap α) := List.Pairwise.nil

theorem sorted_alter {key : String} {f : Option α → α} {m : KeyMap α} (h : Sorted m) :
    Sorted (alter key f m) := by
  induction m with
  | nil => exact List.pairwise_singleton _ _
  | cons p m ih =>
    obtain ⟨k, v⟩ := p
    obtain ⟨hk, hm⟩ := List.pairwise_cons.1 h
    simp only [alter]
    split
    · rename_i hlt
      refine List.pairwise_cons.2 ⟨fun e he => ?_, h⟩
      rcases List.mem_cons.1 he with rfl | he
      · exact hlt
      · exact String.lt_trans hlt (hk e he)
    · rename_i hnlt
      split
      · exact List.pairwise_cons.2 ⟨hk, hm⟩
      · rename_i hne
        have hlt : k < key := by
          apply Classical.byContradiction
          intro hn
          exact hne (String.le_antisymm (String.not_lt.1 hn) (String.not_lt.1 hnlt))
        refine List.pairwise_cons.2 ⟨fun e he => ?_, ih hm⟩
        rcases mem_alter he with he | rfl | ⟨w, -, rfl⟩
        · exact hk e he
        · exact hlt
        · exact hlt

theorem Sorted.filter {m : KeyMap α} (h : Sorted m) (q : String × α → Bool) :
    Sorted (m.filter q) := List.Pairwise.filter q h

theorem Sorted.tail {p : String × α} {m : KeyMap α} (h : Sorted (p :: m)) : Sorted m :=
  (List.pairwise_cons.1 h).2

/-- The first name is none of the others. -/
theorem Sorted.head_notMem {k : String} {v : α} {m : KeyMap α} (h : Sorted ((k, v) :: m)) :
    k ∉ keys m := by
  intro hm
  obtain ⟨w, hw⟩ := mem_keys.1 hm
  exact String.lt_irrefl k ((List.pairwise_cons.1 h).1 (k, w) hw)

theorem mem_of_lookup {m : KeyMap α} {key : String} {v : α} (h : m.lookup key = some v) :
    (key, v) ∈ m := by
  obtain ⟨l, r, rfl, -⟩ := List.lookup_eq_some_iff.1 h
  simp

theorem lookup_of_notMem {m : KeyMap α} {key : String} (h : key ∉ keys m) :
    m.lookup key = none := by
  cases hl : m.lookup key with
  | none => rfl
  | some v => exact absurd (mem_keys.2 ⟨v, mem_of_lookup hl⟩) h

theorem mem_keys_iff_isSome {m : KeyMap α} {key : String} :
    key ∈ keys m ↔ (m.lookup key).isSome := by
  constructor
  · intro h
    obtain ⟨v, hv⟩ := mem_keys.1 h
    rw [Option.isSome_iff_ne_none]
    intro hnone
    exact absurd (List.lookup_eq_none_iff.1 hnone _ hv) (by simp)
  · intro h
    obtain ⟨v, hv⟩ := Option.isSome_iff_exists.1 h
    exact mem_keys.2 ⟨v, mem_of_lookup hv⟩

/-- In a sorted map a name is bound to one value. -/
theorem Sorted.lookup_eq_some_iff {m : KeyMap α} (h : Sorted m) {key : String} {v : α} :
    m.lookup key = some v ↔ (key, v) ∈ m := by
  induction m with
  | nil => simp
  | cons p m ih =>
    obtain ⟨k, w⟩ := p
    by_cases hk : key = k
    · subst hk
      have hn : (key, v) ∉ m := fun hm => h.head_notMem (mem_keys.2 ⟨v, hm⟩)
      simp [hn, eq_comm]
    · have hb : (key == k) = false := by simpa using hk
      simp [List.lookup_cons, hb, hk, ih h.tail]

/-! ## Looking up names -/

theorem lookup_cons_eq_ite (k key : String) (v : α) (m : KeyMap α) :
    List.lookup k ((key, v) :: m) = if k = key then some v else m.lookup k := by
  rw [List.lookup_cons]
  by_cases h : k = key
  · simp [h]
  · have hb : (k == key) = false := by simpa using h
    simp [h, hb]

/-- A name before the first one of a sorted map is none of its names. -/
theorem Sorted.notMem_of_lt {key k : String} {v : α} {m : KeyMap α} (h : Sorted ((k, v) :: m))
    (hlt : key < k) : key ∉ keys ((k, v) :: m) := by
  intro hm
  obtain ⟨w, hw⟩ := mem_keys.1 hm
  rcases List.mem_cons.1 hw with hw | hw
  · cases hw
    exact String.lt_irrefl key hlt
  · exact String.lt_irrefl key (String.lt_trans hlt ((List.pairwise_cons.1 h).1 _ hw))

/-- In a sorted map only the value of the altered name changes. -/
theorem Sorted.lookup_alter {m : KeyMap α} (h : Sorted m) (key k : String) (f : Option α → α) :
    (alter key f m).lookup k = if k = key then some (f (m.lookup key)) else m.lookup k := by
  induction m with
  | nil => exact lookup_cons_eq_ite k key _ []
  | cons p m ih =>
    obtain ⟨j, v⟩ := p
    rw [alter]
    split
    · rename_i hlt
      rw [lookup_cons_eq_ite, lookup_of_notMem (h.notMem_of_lt hlt)]
    · split
      · rename_i hj
        subst hj
        rw [lookup_cons_eq_ite, lookup_cons_eq_ite, lookup_cons_eq_ite, if_pos rfl]
        split <;> rfl
      · rename_i hj
        rw [lookup_cons_eq_ite, lookup_cons_eq_ite, lookup_cons_eq_ite, if_neg hj, ih h.tail]
        by_cases hk : k = j
        · rw [if_pos hk, if_neg (fun he => hj (he.symm.trans hk)), if_pos hk]
        · rw [if_neg hk, if_neg hk]

theorem Sorted.nodup {m : KeyMap α} (h : Sorted m) : m.Nodup := by
  refine List.Pairwise.imp ?_ h
  rintro a _ hlt rfl
  exact String.lt_irrefl a.1 hlt

/-- From the last name to the first no two are the same. -/
theorem Sorted.pairwise_reverse_ne {m : KeyMap α} (h : Sorted m) :
    m.reverse.Pairwise fun p q => p.1 ≠ q.1 := by
  refine List.pairwise_reverse.2 (List.Pairwise.imp (fun {p q} hlt he => ?_) h)
  rw [he] at hlt
  exact String.lt_irrefl _ hlt

/-- Sorted maps that bind the same names to the same values are the same. -/
theorem Sorted.ext {m n : KeyMap α} (hm : Sorted m) (hn : Sorted n)
    (h : ∀ k, m.lookup k = n.lookup k) : m = n := by
  have hperm : m.Perm n := (List.perm_ext_iff_of_nodup hm.nodup hn.nodup).2 fun p => by
    rw [← hm.lookup_eq_some_iff, ← hn.lookup_eq_some_iff, h]
  exact hperm.eq_of_pairwise
    (fun _ _ _ _ hlt hgt => absurd (String.lt_trans hlt hgt) (String.lt_irrefl _)) hm hn

theorem lookup_filter (q : String → Bool) (m : KeyMap α) (k : String) :
    (m.filter fun p => q p.1).lookup k = if q k then m.lookup k else none := by
  induction m with
  | nil => simp
  | cons p m ih =>
    obtain ⟨j, v⟩ := p
    rw [List.filter_cons, lookup_cons_eq_ite]
    by_cases hj : q j = true
    · rw [if_pos hj, lookup_cons_eq_ite, ih]
      by_cases hk : k = j
      · simp [hk, hj]
      · simp [hk]
    · rw [if_neg hj, ih]
      by_cases hk : k = j
      · simp [hk, hj]
      · simp [hk]

/-! ## Maps of lists of bindings -/

theorem lookup_put (key : String) (v : α) (m : KeyMap α) (k : String) :
    (put key v m).lookup k = if k = key then some v else m.lookup k := by
  induction m with
  | nil => exact lookup_cons_eq_ite k key v []
  | cons p m ih =>
    obtain ⟨j, w⟩ := p
    rw [put, alter]
    split
    · rw [lookup_cons_eq_ite]
    · split
      · rename_i hj
        rw [lookup_cons_eq_ite, lookup_cons_eq_ite, hj]
        split <;> rfl
      · rename_i hj
        rw [lookup_cons_eq_ite, lookup_cons_eq_ite, ← put, ih]
        by_cases hk : k = j
        · rw [if_pos hk, if_neg (fun he => hj (he.symm.trans hk)), if_pos hk]
        · rw [if_neg hk, if_neg hk]

/-- Puts bindings into a map, one after another. -/
def putAll (bindings : List (String × α)) (m : KeyMap α) : KeyMap α :=
  bindings.foldl (fun m b => put b.1 b.2 m) m

theorem Sorted.putAll {m : KeyMap α} (h : Sorted m) (bindings : List (String × α)) :
    Sorted (putAll bindings m) := by
  rw [KeyMap.putAll, List.foldl_eq_foldr_reverse]
  induction bindings.reverse with
  | nil => exact h
  | cons b bs ih => exact sorted_alter ih

/-- Of the new bindings of a name the last one counts, or else the one that was there. -/
theorem lookup_putAll (bindings : List (String × α)) (m : KeyMap α) (k : String) :
    (putAll bindings m).lookup k = (bindings.reverse.lookup k).or (m.lookup k) := by
  rw [putAll, List.foldl_eq_foldr_reverse]
  induction bindings.reverse with
  | nil => rfl
  | cons b bs ih =>
    rw [List.foldr_cons, lookup_put, ih, lookup_cons_eq_ite]
    split <;> rfl

theorem sorted_ofList (bindings : List (String × α)) : Sorted (ofList bindings) :=
  sorted_nil.putAll bindings

/-- The last binding of a name counts. -/
theorem lookup_ofList (bindings : List (String × α)) (k : String) :
    (ofList bindings).lookup k = bindings.reverse.lookup k :=
  (lookup_putAll bindings [] k).trans Option.or_none

/-- In a sorted map there is one binding of a name, the first and the last one. -/
theorem Sorted.lookup_reverse {m : KeyMap α} (h : Sorted m) (k : String) :
    m.reverse.lookup k = m.lookup k := by
  induction m with
  | nil => rfl
  | cons p m ih =>
    obtain ⟨j, v⟩ := p
    rw [List.reverse_cons, List.lookup_append, ih h.tail, lookup_cons_eq_ite, lookup_cons_eq_ite]
    by_cases hk : k = j
    · rw [if_pos hk, if_pos hk, hk, lookup_of_notMem h.head_notMem, Option.none_or]
    · rw [if_neg hk, if_neg hk, List.lookup_nil, Option.or_none]

/-- In a list of bindings in ascending order of the names nothing is put in another place. -/
theorem ofList_of_sorted {m : KeyMap α} (h : Sorted m) : ofList m = m :=
  (sorted_ofList m).ext h fun k => by rw [lookup_ofList, h.lookup_reverse]

/-! ## Changing values or leaving them out -/

/-- Every name keeps its place when its value is changed. -/
theorem lookup_mapWith (f : String → α → β) (m : KeyMap α) (k : String) :
    (m.map fun p => (p.1, f p.1 p.2)).lookup k = (m.lookup k).map (f k) := by
  induction m with
  | nil => rfl
  | cons p m ih =>
    rw [List.map_cons, lookup_cons_eq_ite, lookup_cons_eq_ite, ih]
    split
    · rename_i hk
      rw [hk]
      rfl
    · rfl

theorem Sorted.mapWith {m : KeyMap α} (h : Sorted m) (f : String → α → β) :
    Sorted (m.map fun p => (p.1, f p.1 p.2)) := List.pairwise_map.2 h

theorem lookup_map (f : α → β) (m : KeyMap α) (k : String) :
    (m.map fun p => (p.1, f p.2)).lookup k = (m.lookup k).map f :=
  lookup_mapWith (fun _ => f) m k

theorem Sorted.map {m : KeyMap α} (h : Sorted m) (f : α → β) :
    Sorted (m.map fun p => (p.1, f p.2)) := h.mapWith fun _ => f

/-- What a changed map holds: values that `f` made, under the names that they had. -/
theorem mem_filterMap {m : KeyMap α} {f : String → α → Option β} {k : String} {w : β} :
    (k, w) ∈ m.filterMap (fun p => (f p.1 p.2).map (p.1, ·)) ↔
      ∃ v, (k, v) ∈ m ∧ f k v = some w := by
  simp only [List.mem_filterMap, Option.map_eq_some_iff, Prod.mk.injEq, Prod.exists]
  constructor
  · rintro ⟨k, v, hm, w, hw, rfl, rfl⟩
    exact ⟨v, hm, hw⟩
  · rintro ⟨v, hm, hw⟩
    exact ⟨k, v, hm, w, hw, rfl, rfl⟩

theorem Sorted.filterMap {m : KeyMap α} (h : Sorted m) (f : String → α → Option β) :
    Sorted (m.filterMap fun p => (f p.1 p.2).map (p.1, ·)) := by
  refine List.Pairwise.filterMap _ (fun p q hlt a ha b hb => ?_) h
  obtain ⟨_, -, rfl⟩ := Option.map_eq_some_iff.1 ha
  obtain ⟨_, -, rfl⟩ := Option.map_eq_some_iff.1 hb
  exact hlt

theorem Sorted.lookup_filterMap {m : KeyMap α} (h : Sorted m) (f : String → α → Option β)
    (k : String) :
    (m.filterMap fun p => (f p.1 p.2).map (p.1, ·)).lookup k = (m.lookup k).bind (f k) := by
  ext w
  rw [(h.filterMap f).lookup_eq_some_iff, mem_filterMap, Option.bind_eq_some_iff]
  exact exists_congr fun v => and_congr_left' h.lookup_eq_some_iff.symm

/-! ## Laying a map over another one -/

/-- Lays the bindings of a map over another one; `f` makes one value of two for the same name. -/
def overlay (f : α → α → α) (t m : KeyMap α) : KeyMap α :=
  m.foldl (fun n p => alter p.1 (fun old => old.elim p.2 fun v => f v p.2) n) t

theorem Sorted.overlay {t : KeyMap α} (h : Sorted t) (f : α → α → α) (m : KeyMap α) :
    Sorted (overlay f t m) := by
  induction m generalizing t with
  | nil => exact h
  | cons p m ih => exact ih (sorted_alter h)

theorem lookup_overlay {t m : KeyMap α} (ht : Sorted t) (hm : Sorted m) (f : α → α → α)
    (k : String) : (overlay f t m).lookup k = (t.lookup k).merge f (m.lookup k) := by
  induction m generalizing t with
  | nil => exact Option.merge_none_right.symm
  | cons p m ih =>
    obtain ⟨j, v⟩ := p
    have hstep : KeyMap.overlay f t ((j, v) :: m) =
        KeyMap.overlay f (alter j (fun old => old.elim v fun w => f w v) t) m := rfl
    rw [hstep, ih (sorted_alter ht) hm.tail, ht.lookup_alter, lookup_cons_eq_ite]
    split
    · rename_i hk
      subst hk
      rw [lookup_of_notMem hm.head_notMem]
      cases t.lookup k <;> rfl
    · rfl

theorem overlay_nil {m : KeyMap α} (h : Sorted m) (f : α → α → α) : overlay f [] m = m :=
  (sorted_nil.overlay f m).ext h fun k => by
    rw [lookup_overlay sorted_nil h]
    exact Option.merge_none_left

end Conform.KeyMap
