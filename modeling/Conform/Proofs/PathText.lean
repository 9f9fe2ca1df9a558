import Conform.Proofs.Lists
import Conform.Violation

/-!
# The text of a path

In the text of a path a field has a dot before it, if it is not the first step, and the place of an
item stands in brackets. If the names of fields are not empty and have no dots and opening brackets
in them (`Path.Plain`), a step ends where the next one begins, and the character that it begins with
tells what it is (`mark_append_inj`).

* `text_inj`: plain paths of the same text are the same.
* `allAt_text`, `kindAt_text`: to look up violations by the text of a path is to look for its path.
-/

set_option autoImplicit false

namespace Conform

/-! ## Steps -/

namespace Segment

/-- A dot or an opening bracket, the characters that steps begin with. -/
def Begins (c : Char) : Prop := c = '.' ∨ c = '['

/-- If it is a field, its name is not empty and has no character in it that steps begin with. -/
def Plain : Segment → Prop
  | field name => name ≠ "" ∧ ∀ c ∈ name.toList, ¬ Begins c
  | index _ => True
  | items => True

instance (c : Char) : Decidable (Begins c) := inferInstanceAs (Decidable (c = '.' ∨ c = '['))

instance : DecidablePred Plain
  | field name =>
    -- characters of the name only, not all characters
    letI := List.decidableBAll (fun c => ¬ Begins c) name.toList
    inferInstanceAs (Decidable (name ≠ "" ∧ ∀ c ∈ name.toList, ¬ Begins c))
  | index _ => .isTrue trivial
  | items => .isTrue trivial

/-- The text of a step that is not the first one. -/
def mark : Segment → List Char
  | field name => '.' :: name.toList
  | index i => '[' :: (Nat.toDigits 10 i ++ [']'])
  | items => ['[', ']']

theorem begins_of_mem_head?_mark {s : Segment} {c : Char} (h : c ∈ s.mark.head?) : Begins c := by
  cases s with
  | field name => exact .inl (Option.some.inj h).symm
  | index i => exact .inr (Option.some.inj h).symm
  | items => exact .inr (Option.some.inj h).symm

theorem ne_close_of_mem_toDigits {i : Nat} {c : Char} (h : c ∈ Nat.toDigits 10 i) : c ≠ ']' := by
  rintro rfl
  exact absurd (Nat.isDigit_of_mem_toDigits (by decide) (by decide) h) (by decide)

theorem toDigits_inj {i j : Nat} (h : Nat.toDigits 10 i = Nat.toDigits 10 j) : i = j := by
  rw [← Nat.ofDigitChars_toDigits (b := 10) (n := i) (by decide) (by decide), h,
    Nat.ofDigitChars_toDigits (by decide) (by decide)]

/-- What stands in brackets ends at the closing one. -/
theorem bracket_append_inj {ds es r t : List Char} (hds : ∀ c ∈ ds, c ≠ ']')
    (hes : ∀ c ∈ es, c ≠ ']') (h : ds ++ [']'] ++ r = es ++ [']'] ++ t) : ds = es ∧ r = t := by
  rw [List.append_assoc, List.append_assoc] at h
  have hclose : ∀ r : List Char, ∀ c ∈ ([']'] ++ r).head?, c = ']' :=
    fun r c hc => (Option.some.inj hc).symm
  obtain ⟨hd, hr⟩ := append_inj_of_first hds hes (hclose r) (hclose t) h
  exact ⟨hd, List.append_cancel_left hr⟩

/-- A plain step is known from its text, if nothing follows or another step. -/
theorem mark_append_inj {s u : Segment} (hs : s.Plain) (hu : u.Plain) {r t : List Char}
    (hr : ∀ c ∈ r.head?, Begins c) (ht : ∀ c ∈ t.head?, Begins c)
    (h : s.mark ++ r = u.mark ++ t) : s = u ∧ r = t := by
  have hnil : ∀ c ∈ ([] : List Char), c ≠ ']' := by simp
  match s, u with
  | field a, field b =>
    obtain ⟨hname, hrest⟩ := append_inj_of_first hs.2 hu.2 hr ht (List.cons.inj h).2
    exact ⟨congrArg field (String.toList_inj.1 hname), hrest⟩
  | index i, index j =>
    obtain ⟨hdigits, hrest⟩ := bracket_append_inj (fun c => ne_close_of_mem_toDigits)
      (fun c => ne_close_of_mem_toDigits) (List.cons.inj h).2
    exact ⟨congrArg index (toDigits_inj hdigits), hrest⟩
  | index i, items =>
    obtain ⟨hdigits, -⟩ := bracket_append_inj (fun c => ne_close_of_mem_toDigits) hnil
      (List.cons.inj h).2
    exact absurd hdigits Nat.toDigits_ne_nil
  | items, index j =>
    obtain ⟨hdigits, -⟩ := bracket_append_inj hnil (fun c => ne_close_of_mem_toDigits)
      (List.cons.inj h).2
    exact absurd hdigits.symm Nat.toDigits_ne_nil
  | items, items => exact ⟨rfl, List.append_cancel_left h⟩
  | field _, index _ | field _, items | index _, field _ | items, field _ =>
    exact absurd (List.cons.inj h).1 (by decide)

end Segment

namespace Path

/-! ## Paths -/

/-- No field has an empty name or one with a dot or an opening bracket in it. -/
def Plain (p : Path) : Prop := ∀ s ∈ p, s.Plain

instance (p : Path) : Decidable p.Plain := inferInstanceAs (Decidable (∀ s ∈ p, s.Plain))

variable {p q : Path}

theorem toList_tailText_cons (s : Segment) (p : Path) :
    (tailText (s :: p)).toList = s.mark ++ (tailText p).toList := by
  cases s with
  | field name =>
    rw [tailText, String.toList_append, String.toList_append]
    rfl
  | index i =>
    have hdigits : (toString i).toList = Nat.toDigits 10 i := Nat.toList_repr
    simp only [tailText, String.toList_append, hdigits]
    simp [Segment.mark]
  | items =>
    rw [tailText, String.toList_append]
    rfl

theorem begins_of_mem_head?_tailText {c : Char} (h : c ∈ (tailText p).toList.head?) :
    Segment.Begins c := by
  cases p with
  | nil => cases h
  | cons s p =>
    rw [toList_tailText_cons] at h
    refine s.begins_of_mem_head?_mark ?_
    cases s <;> exact h

theorem tailText_cons_ne (s : Segment) (p : Path) : tailText (s :: p) ≠ "" := by
  intro h
  have hlist := congrArg String.toList h
  rw [toList_tailText_cons] at hlist
  cases s <;> cases hlist

theorem tailText_inj (hp : p.Plain) (hq : q.Plain) (h : tailText p = tailText q) : p = q := by
  induction p generalizing q with
  | nil =>
    cases q with
    | nil => rfl
    | cons u q => exact absurd h.symm (tailText_cons_ne u q)
  | cons s p ih =>
    cases q with
    | nil => exact absurd h (tailText_cons_ne s p)
    | cons u q =>
      obtain ⟨hs, hp⟩ := List.forall_mem_cons.1 hp
      obtain ⟨hu, hq⟩ := List.forall_mem_cons.1 hq
      have hlist := congrArg String.toList h
      rw [toList_tailText_cons, toList_tailText_cons] at hlist
      obtain ⟨hstep, hrest⟩ := Segment.mark_append_inj hs hu
        (fun _ => begins_of_mem_head?_tailText) (fun _ => begins_of_mem_head?_tailText) hlist
      rw [hstep, ih hp hq (String.toList_inj.1 hrest)]

/-- A path that begins with a field has the dot of this field left out. -/
theorem tailText_field (name : String) (p : Path) :
    tailText (.field name :: p) = "." ++ text (.field name :: p) := by
  rw [tailText, text, String.append_assoc]

/-- A plain field in the first place does not read as another step, or as nothing. -/
theorem text_field_ne_tailText {name : String} (hname : (Segment.field name).Plain) :
    text (.field name :: p) ≠ tailText q := by
  intro h
  have hne : name.toList ≠ [] := fun he => hname.1 (String.toList_inj.1 he)
  obtain ⟨c, cs, hcs⟩ := List.exists_cons_of_ne_nil hne
  have hhead : c ∈ (tailText q).toList.head? := by
    rw [← h, text, String.toList_append, hcs]
    rfl
  exact hname.2 c (hcs ▸ List.mem_cons_self) (begins_of_mem_head?_tailText hhead)

/-- **Plain paths are known from their texts.** -/
theorem text_inj (hp : p.Plain) (hq : q.Plain) (h : p.text = q.text) : p = q := by
  match p, q with
  | .field a :: p, .field b :: q =>
    refine tailText_inj hp hq ?_
    rw [tailText_field, tailText_field, h]
  | .field a :: p, [] | .field a :: p, .index _ :: q | .field a :: p, .items :: q =>
    exact absurd h (text_field_ne_tailText (hp _ List.mem_cons_self))
  | [], .field b :: q | .index _ :: p, .field b :: q | .items :: p, .field b :: q =>
    exact absurd h.symm (text_field_ne_tailText (hq _ List.mem_cons_self))
  | [], [] | [], .index _ :: q | [], .items :: q | .index _ :: p, [] | .index _ :: p, .index _ :: q
  | .index _ :: p, .items :: q | .items :: p, [] | .items :: p, .index _ :: q
  | .items :: p, .items :: q =>
    exact tailText_inj hp hq h

-- with a dot in a name there are two readings
example : text [.field "a.b"] = text [.field "a", .field "b"] := by decide

end Path

/-! ## Violations under the text of a path -/

namespace Violation

variable {p : Path} {vs : List Violation}

theorem allAt_text (hp : p.Plain) (hvs : ∀ v ∈ vs, v.path.Plain) :
    allAt vs p.text = vs.filter fun v => v.path = p := by
  refine List.filter_congr fun v hv => ?_
  rw [Bool.eq_iff_iff, beq_iff_eq, decide_eq_true_iff]
  exact ⟨Path.text_inj (hvs v hv) hp, congrArg Path.text⟩

theorem kindAt_text (hp : p.Plain) (hvs : ∀ v ∈ vs, v.path.Plain) :
    kindAt vs p.text = (vs.find? fun v => v.path = p).map kind := by
  rw [kindAt, allAt_text hp hvs, List.head?_filter]

/-- **Violations are found by the text of their path.** No other plain path has the text of a plain
one, so what is found under this text, in violations at plain paths, is what was found at the path,
in the order of the report. -/
theorem lookup_text (hp : p.Plain) :
    (∀ q : Path, q.Plain → q.text = p.text → q = p) ∧
    ∀ vs : List Violation, (∀ v ∈ vs, v.path.Plain) →
      allAt vs p.text = (vs.filter fun v => v.path = p) ∧
      kindAt vs p.text = (vs.find? fun v => v.path = p).map kind :=
  ⟨fun _ hq h => Path.text_inj hq hp h, fun _ hvs => ⟨allAt_text hp hvs, kindAt_text hp hvs⟩⟩

/-- The path `stops[12].id`. -/
def stopId : Path := [.field "stops", .index 12, .field "id"]

/-- Violations at this path and at others that look like it. -/
def misplaced : List Violation :=
  [⟨[.field "stops", .index 1, .index 2, .field "id"], .typeError, "cannot be null"⟩,
    ⟨stopId, .required, "is a required field"⟩,
    ⟨[.field "stops", .items, .field "id"], .min, "must be at least 3 characters"⟩,
    ⟨stopId, .pattern, "must match the following: \"^ID\""⟩]

theorem lookup_text_stopId :
    stopId.Plain ∧ (∀ v ∈ misplaced, v.path.Plain) ∧ stopId.text = "stops[12].id" ∧
    (allAt misplaced "stops[12].id").map kind = [.required, .pattern] ∧
    kindAt misplaced "stops[12].id" = some .required := by
  have hp : stopId.Plain := by decide
  have hvs : ∀ v ∈ misplaced, v.path.Plain := by decide
  have htext : stopId.text = "stops[12].id" := by decide
  obtain ⟨hall, hkind⟩ := (lookup_text hp).2 misplaced hvs
  rw [htext] at hall hkind
  refine ⟨hp, hvs, htext, ?_, ?_⟩
  · rw [hall]
    rfl
  · rw [hkind]
    rfl

end Violation

end Conform
