import Conform.Path

/-!
# Facts about paths

A path is above another one if it begins it. `Path.Apart p q` says that neither of two paths is
above the other one: then no path is below both (`Apart.not_below`). The properties of one object
are apart (`apart_child`).

The order of paths is a strict order in which different paths can be compared (`lt_trans`,
`lt_of_not_lt`), so ascending paths are determined by their members (`Ascending.eq_of_mem_iff`).
-/

set_option autoImplicit false

namespace Conform

namespace Path

@[simp] theorem length_child (p : Path) (name : String) : (p.child name).length = p.length + 1 := by
  simp [child]

@[simp] theorem length_items (p : Path) : p.items.length = p.length + 1 := by
  simp [items]

theorem prefix_child (p : Path) (name : String) : p <+: p.child name := List.prefix_append _ _

theorem prefix_items (p : Path) : p <+: p.items := List.prefix_append _ _

@[simp] theorem child_inj {p q : Path} {a b : String} : p.child a = q.child b ↔ p = q ∧ a = b := by
  simp [child]

/-- Neither of the paths is above the other one. -/
def Apart (p q : Path) : Prop := ¬ p <+: q ∧ ¬ q <+: p

namespace Apart

variable {p q r : Path}

theorem symm (h : Apart p q) : Apart q p := ⟨h.2, h.1⟩

/-- No path is below both. -/
theorem not_below (h : Apart p q) (hq : q <+: r) : ¬ p <+: r := by
  intro hp
  rcases Nat.le_total p.length q.length with hl | hl
  · exact h.1 (List.prefix_of_prefix_length_le hp hq hl)
  · exact h.2 (List.prefix_of_prefix_length_le hq hp hl)

/-- A path is apart from all that is below a path that it is apart from. -/
theorem below (h : Apart p q) (hq : q <+: r) : Apart p r :=
  ⟨h.not_below hq, fun hr => h.2 (hq.trans hr)⟩

end Apart

theorem apart_of_length_eq {p q : Path} (hl : p.length = q.length) (h : p ≠ q) : Apart p q :=
  ⟨fun hp => h (hp.eq_of_length hl), fun hp => h (hp.eq_of_length hl.symm).symm⟩

theorem apart_child {p : Path} {a b : String} (h : a ≠ b) : Apart (p.child a) (p.child b) :=
  apart_of_length_eq (by simp) fun he => h (child_inj.1 he).2

end Path

/-! ## The order of paths -/

theorem Segment.lt_irrefl (s : Segment) : ¬ s.lt s = true := by
  cases s with
  | field name => exact fun h => String.lt_irrefl name (of_decide_eq_true h)
  | index i => simp [lt]
  | items => simp [lt]

theorem Segment.lt_trans {s t u : Segment} (h : s.lt t = true) (h' : t.lt u = true) :
    s.lt u = true := by
  cases s <;> cases t <;> cases u <;> simp only [lt, decide_eq_true_eq, Bool.false_eq_true] at *
  · exact String.lt_trans h h'
  · omega

/-- Of two different steps one comes first. -/
theorem Segment.lt_of_not_lt {s t : Segment} (hne : s ≠ t) (h : ¬ s.lt t = true) :
    t.lt s = true := by
  cases s <;> cases t <;>
    simp only [lt, decide_eq_true_eq, ne_eq, field.injEq, index.injEq, not_true] at *
  · apply Classical.byContradiction
    intro hn
    exact hne (String.le_antisymm (String.not_lt.1 hn) (String.not_lt.1 h))
  · omega

namespace Path

theorem lt_cons_iff {s t : Segment} {p q : Path} :
    lt (s :: p) (t :: q) = true ↔ s.lt t = true ∨ s = t ∧ lt p q = true := by
  rw [lt]
  by_cases h : s = t
  · subst h
    simp [s.lt_irrefl]
  · simp [h]

theorem lt_irrefl (p : Path) : ¬ p.lt p = true := by
  induction p with
  | nil => simp [lt]
  | cons s p ih => simp [lt_cons_iff, s.lt_irrefl, ih]

theorem lt_trans {p q r : Path} (h : p.lt q = true) (h' : q.lt r = true) : p.lt r = true := by
  induction p generalizing q r with
  | nil =>
    cases r with
    | nil => cases q <;> simp [lt] at h'
    | cons u r => rfl
  | cons s p ih =>
    cases q with
    | nil => simp [lt] at h
    | cons t q =>
      cases r with
      | nil => simp [lt] at h'
      | cons u r =>
        rw [lt_cons_iff] at h h' ⊢
        rcases h with h | ⟨rfl, h⟩
        · rcases h' with h' | ⟨rfl, -⟩
          · exact .inl (Segment.lt_trans h h')
          · exact .inl h
        · rcases h' with h' | ⟨rfl, h'⟩
          · exact .inl h'
          · exact .inr ⟨rfl, ih h h'⟩

/-- Of two different paths one comes first. -/
theorem lt_of_not_lt {p q : Path} (hne : p ≠ q) (h : ¬ p.lt q = true) : q.lt p = true := by
  induction p generalizing q with
  | nil =>
    cases q with
    | nil => exact absurd rfl hne
    | cons t q => exact absurd rfl h
  | cons s p ih =>
    cases q with
    | nil => rfl
    | cons t q =>
      rw [lt_cons_iff, not_or] at h
      rw [lt_cons_iff]
      by_cases hs : s = t
      · subst hs
        exact .inr ⟨rfl, ih (fun he => hne (he ▸ rfl)) fun hl => h.2 ⟨rfl, hl⟩⟩
      · exact .inl (Segment.lt_of_not_lt hs h.1)

/-- The paths are in strictly ascending order. -/
def Ascending (ps : List Path) : Prop := ps.Pairwise fun p q => p.lt q = true

namespace Ascending

variable {ps qs : List Path}

theorem nodup (h : Ascending ps) : ps.Nodup := by
  refine List.Pairwise.imp ?_ h
  rintro p _ hlt rfl
  exact lt_irrefl p hlt

/-- Ascending paths are in the only order that they can have. -/
theorem eq_of_mem_iff (hp : Ascending ps) (hq : Ascending qs) (h : ∀ t, t ∈ ps ↔ t ∈ qs) :
    ps = qs := by
  have hperm : ps.Perm qs := (List.perm_ext_iff_of_nodup hp.nodup hq.nodup).2 h
  exact hperm.eq_of_pairwise (fun p _ _ _ hlt hgt => absurd (lt_trans hlt hgt) (lt_irrefl p)) hp hq

theorem filter (h : Ascending ps) (f : Path → Bool) : Ascending (ps.filter f) :=
  List.Pairwise.filter f h

/-- Paths behind the same step. -/
theorem map_cons (h : Ascending ps) (s : Segment) : Ascending (ps.map (s :: ·)) :=
  List.pairwise_map.2 (List.Pairwise.imp (fun hlt => lt_cons_iff.2 (.inr ⟨rfl, hlt⟩)) h)

/-- The root comes before all other paths. -/
theorem root_append (h : Ascending ps) (hne : [] ∉ ps) (b : Bool) :
    Ascending ((if b then [root] else []) ++ ps) := by
  cases b with
  | false => exact h
  | true =>
    refine List.pairwise_cons.2 ⟨fun p hp => ?_, h⟩
    cases p with
    | nil => exact absurd hp hne
    | cons s p => rfl

end Ascending

end Path

end Conform
