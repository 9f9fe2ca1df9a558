import Conform.Compile.Required
import Conform.Proofs.Path

/-!
# Facts about required paths

* `mem_insertAll`: a set holds what it held and the paths that were put into it.
* `ascending_insertAll`: its paths are in ascending order, each once.
* `mem_resolved`: the resolved names of a list are those that are properties.
-/

set_option autoImplicit false

namespace Conform

namespace RequiredSet

theorem mem_place {p q : Path} {ps : List Path} : q ∈ place p ps ↔ q = p ∨ q ∈ ps := by
  induction ps with
  | nil => simp [place]
  | cons r rs ih =>
    simp only [place]
    split
    · simp
    · split
      · rename_i he
        subst he
        simp
      · simp only [List.mem_cons, ih]
        constructor
        · rintro (h | h | h)
          · exact .inr (.inl h)
          · exact .inl h
          · exact .inr (.inr h)
        · rintro (h | h | h)
          · exact .inr (.inl h)
          · exact .inl h
          · exact .inr (.inr h)

theorem mem_insertAll {s : RequiredSet} {ps : List Path} {q : Path} :
    q ∈ (s.insertAll ps).paths ↔ q ∈ s.paths ∨ q ∈ ps := by
  induction ps generalizing s with
  | nil => simp [insertAll]
  | cons p ps ih =>
    have h : s.insertAll (p :: ps) = (s.insert p).1.insertAll ps := rfl
    rw [h, ih]
    simp only [insert, mem_place, List.mem_cons]
    constructor
    · rintro ((h | h) | h)
      · exact .inr (.inl h)
      · exact .inl h
      · exact .inr (.inr h)
    · rintro (h | h | h)
      · exact .inl (.inr h)
      · exact .inl (.inl h)
      · exact .inr h

theorem ascending_place {p : Path} {ps : List Path} (h : Path.Ascending ps) :
    Path.Ascending (place p ps) := by
  induction ps with
  | nil => exact List.pairwise_singleton _ _
  | cons q qs ih =>
    obtain ⟨hq, hqs⟩ := List.pairwise_cons.1 h
    rw [place]
    split
    · rename_i hlt
      refine List.pairwise_cons.2 ⟨fun r hr => ?_, h⟩
      rcases List.mem_cons.1 hr with rfl | hr
      · exact hlt
      · exact Path.lt_trans hlt (hq r hr)
    · rename_i hnlt
      split
      · exact h
      · rename_i hne
        refine List.pairwise_cons.2 ⟨fun r hr => ?_, ih hqs⟩
        rcases mem_place.1 hr with rfl | hr
        · exact Path.lt_of_not_lt hne hnlt
        · exact hq r hr

theorem ascending_insertAll {s : RequiredSet} (h : Path.Ascending s.paths) (ps : List Path) :
    Path.Ascending (s.insertAll ps).paths := by
  induction ps generalizing s with
  | nil => exact h
  | cons p ps ih => exact ih (s := (s.insert p).1) (ascending_place h)

theorem insertAll_append (s : RequiredSet) (ps qs : List Path) :
    s.insertAll (ps ++ qs) = (s.insertAll ps).insertAll qs := List.foldl_append

theorem contains_iff {s : RequiredSet} {p : Path} : s.contains p = true ↔ p ∈ s.paths := by
  simp [contains]

end RequiredSet

theorem mem_resolved {path q : Path} {fields required : List String} :
    q ∈ (resolve path fields required).resolved ↔
      ∃ name, name ∈ required ∧ name ∈ fields ∧ q = path.child name := by
  simp only [resolve, List.mem_map, List.mem_filter, List.contains_iff_mem]
  constructor
  · rintro ⟨name, ⟨hr, hf⟩, rfl⟩
    exact ⟨name, hr, hf, rfl⟩
  · rintro ⟨name, hr, hf, rfl⟩
    exact ⟨name, ⟨hr, hf⟩, rfl⟩

end Conform
