/-!
# Parts of lists

A list is cut at its first element, or at its last one, that has some property.

* `append_inj_of_first`: equal lists are cut in the same place.
* `forall_mem_or_first`, `exists_last`: where there is a place to cut.
* `getElem?_split`: where the elements around one are found.
-/

set_option autoImplicit false

namespace Conform

variable {α : Type}

/-- Equal lists have their first element with some property in the same place. -/
theorem append_inj_of_first {P : α → Prop} {xs ys r t : List α}
    (hxs : ∀ a ∈ xs, ¬ P a) (hys : ∀ a ∈ ys, ¬ P a) (hr : ∀ a ∈ r.head?, P a)
    (ht : ∀ a ∈ t.head?, P a) (h : xs ++ r = ys ++ t) : xs = ys ∧ r = t := by
  induction xs generalizing ys with
  | nil =>
    cases ys with
    | nil => exact ⟨rfl, h⟩
    | cons b ys =>
      rw [List.nil_append] at h
      subst h
      exact absurd (hr b rfl) (hys b List.mem_cons_self)
  | cons a xs ih =>
    cases ys with
    | nil =>
      rw [List.nil_append] at h
      subst h
      exact absurd (ht a rfl) (hxs a List.mem_cons_self)
    | cons b ys =>
      obtain ⟨rfl, hrest⟩ := List.cons_eq_cons.1 h
      obtain ⟨rfl, rfl⟩ := ih (fun c hc => hxs c (List.mem_cons_of_mem _ hc))
        (fun c hc => hys c (List.mem_cons_of_mem _ hc)) hrest
      exact ⟨rfl, rfl⟩

/-- All elements have a property, or one of them is the first that has it not. -/
theorem forall_mem_or_first (P : α → Prop) (as : List α) :
    (∀ a ∈ as, P a) ∨
      ∃ before a after, as = before ++ a :: after ∧ (∀ b ∈ before, P b) ∧ ¬ P a := by
  induction as with
  | nil => exact .inl (by simp)
  | cons a as ih =>
    by_cases ha : P a
    · rcases ih with hall | ⟨before, b, after, rfl, hbefore, hb⟩
      · exact .inl (List.forall_mem_cons.2 ⟨ha, hall⟩)
      · exact .inr ⟨a :: before, b, after, rfl, List.forall_mem_cons.2 ⟨ha, hbefore⟩, hb⟩
    · exact .inr ⟨[], a, as, rfl, by simp, ha⟩

/-- Of the elements with a property one is the last. -/
theorem exists_last {P : α → Prop} {as : List α} (h : ∃ a ∈ as, P a) :
    ∃ before a after, as = before ++ a :: after ∧ P a ∧ ∀ b ∈ after, ¬ P b := by
  rcases forall_mem_or_first (fun a => ¬ P a) as.reverse with
    hall | ⟨before, a, after, hrev, hbefore, ha⟩
  · obtain ⟨a, hmem, ha⟩ := h
    exact absurd ha (hall a (List.mem_reverse.2 hmem))
  · refine ⟨after.reverse, a, before.reverse, ?_, Classical.not_not.1 ha, fun b hb => ?_⟩
    · simpa using congrArg List.reverse hrev
    · exact hbefore b (List.mem_reverse.1 hb)

/-- Where the elements around one are found. -/
theorem getElem?_split {before after : List α} {a b : α} {i : Nat}
    (h : (before ++ a :: after)[i]? = some b) :
    i < before.length ∧ b ∈ before ∨ i = before.length ∧ b = a ∨ before.length < i := by
  rcases Nat.lt_trichotomy i before.length with hi | hi | hi
  · rw [List.getElem?_append_left hi] at h
    exact .inl ⟨hi, List.mem_of_getElem? h⟩
  · rw [hi, List.getElem?_append_right (Nat.le_refl _), Nat.sub_self] at h
    exact .inr (.inl ⟨hi, (Option.some.inj h).symm⟩)
  · exact .inr (.inr hi)

theorem getElem?_length_append (before after : List α) (a : α) :
    (before ++ a :: after)[before.length]? = some a := by simp

end Conform
