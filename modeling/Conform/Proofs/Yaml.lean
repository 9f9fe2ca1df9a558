import Conform.Proofs.Json
import Conform.Proofs.Lists
import Conform.Proofs.Schema.Rereading
import Conform.Yaml.Basic

/-!
# YAML values in JSON

A YAML value has no place in JSON if there is something in it that JSON does not have: a double that
is not finite, or a mapping with a key that has no text (`Yaml.Offends`, with the place where it
is). Keys are looked at by their texts only, whatever is inside them. The first such place in the
order of the document decides, even if its entry does not count in the end because a later one has
the same text.

* `itemsToJson_of_ok`, `itemsToJson_of_error` and the same for entries: they are converted one by
  one, up to the first one that is unfit.
* `outcome_toJson`: a value is converted, and its conversion mirrors it, or its first obstacle is
  reported.
* `toJson_exact`: the same, for each outcome by itself.
-/

set_option autoImplicit false

namespace Conform.Yaml

/-! ## Obstacles and their places -/

/-- A step from a value into a part of it. -/
inductive Step
  /-- To an item of a sequence. -/
  | item (i : Nat)
  /-- To the key of an entry. -/
  | key (i : Nat)
  /-- To the value of an entry. -/
  | value (i : Nat)
  /-- To what stands behind a tag. -/
  | content

/-- The way to a part of a value. -/
abbrev Place := List Step

/-- There is an obstacle at a place. Sequences, the values of entries and what stands behind tags
are looked into; keys are not. -/
inductive Offends : Yaml → Place → Unfit → Prop
  | notFinite {x : Binary64} (h : x.isFinite = false) : Offends (num (.real x)) [] (.notFinite x)
  | item {items : List Yaml} {i : Nat} {v : Yaml} {p : Place} {u : Unfit}
    (item : items[i]? = some v) (inside : Offends v p u) : Offends (seq items) (.item i :: p) u
  | key {entries : List (Yaml × Yaml)} {i : Nat} {k v : Yaml}
    (entry : entries[i]? = some (k, v)) (textless : k.keyText? = none) :
    Offends (map entries) [.key i] (.key k)
  | value {entries : List (Yaml × Yaml)} {i : Nat} {k v : Yaml} {p : Place} {u : Unfit}
    (entry : entries[i]? = some (k, v)) (inside : Offends v p u) :
    Offends (map entries) (.value i :: p) u
  | content {tag : String} {v : Yaml} {p : Place} {u : Unfit} (inside : Offends v p u) :
    Offends (tagged tag v) (.content :: p) u

/-- Where a part stands in the document, among the parts of the same value: a key before its value
and before later entries. -/
def Step.rank : Step → Nat
  | item i => i
  | key i => 2 * i
  | value i => 2 * i + 1
  | content => 0

/-- The order of the document: the first different step decides. -/
def Place.Before : Place → Place → Prop
  | s :: p, t :: q => s.rank < t.rank ∨ s = t ∧ Before p q
  | _, _ => False

/-- The first obstacle in the order of the document. -/
def First (y : Yaml) (p : Place) (u : Unfit) : Prop :=
  y.Offends p u ∧ ∀ q w, y.Offends q w → q = p ∨ p.Before q

/-- There are no obstacles. -/
def Fit (y : Yaml) : Prop := ∀ p u, ¬ y.Offends p u

/-- A value of JSON mirrors a YAML value. Tags do not count, and of entries with keys of the same
text the last one counts. -/
inductive Mirrors : Yaml → Json → Prop
  | null : Mirrors null .null
  | bool (b : Bool) : Mirrors (bool b) (.bool b)
  | num (n : Number) : Mirrors (num n) (.num n)
  | str (s : String) : Mirrors (str s) (.str s)
  | seq {items : List Yaml} {js : List Json} (length : js.length = items.length)
    (each : ∀ (i : Nat) (v : Yaml) (j : Json), items[i]? = some v → js[i]? = some j →
      Mirrors v j) :
    Mirrors (seq items) (.arr js)
  | map {entries : List (Yaml × Yaml)} {ms : KeyMap Json} (ascending : KeyMap.Sorted ms)
    (keys : ∀ key, key ∈ KeyMap.keys ms ↔ ∃ e ∈ entries, e.1.keyText? = some key)
    (values : ∀ before k v after key j, entries = before ++ (k, v) :: after →
      k.keyText? = some key → (∀ e ∈ after, e.1.keyText? ≠ some key) →
      ms.lookup key = some j → Mirrors v j) :
    Mirrors (map entries) (.obj ms)
  | tagged (tag : String) {v : Yaml} {j : Json} (content : Mirrors v j) : Mirrors (tagged tag v) j

/-! ## Places in the order of the document -/

theorem Place.Before.asymm {p q : Place} (h : p.Before q) : ¬ q.Before p := by
  induction p generalizing q with
  | nil => exact h.elim
  | cons s p ih =>
    cases q with
    | nil => exact h.elim
    | cons t q =>
      intro h'
      rcases h with h | ⟨rfl, h⟩
      · rcases h' with h' | ⟨rfl, -⟩
        · omega
        · omega
      · rcases h' with h' | ⟨-, h'⟩
        · omega
        · exact ih h h'

/-- There is one obstacle at most at a place. -/
theorem Offends.unique {y : Yaml} {p : Place} {u w : Unfit} (h : y.Offends p u)
    (h' : y.Offends p w) : u = w := by
  induction h with
  | notFinite => cases h'; rfl
  | item item _ ih =>
    cases h' with
    | item item' inside => exact ih (Option.some.inj (item.symm.trans item') ▸ inside)
  | key entry _ =>
    cases h' with
    | key entry' _ => cases Option.some.inj (entry.symm.trans entry'); rfl
  | value entry _ ih =>
    cases h' with
    | value entry' inside =>
      cases Option.some.inj (entry.symm.trans entry')
      exact ih inside
  | content _ ih =>
    cases h' with
    | content inside => exact ih inside

theorem First.unique {y : Yaml} {p q : Place} {u w : Unfit} (h : y.First p u) (h' : y.First q w) :
    u = w := by
  obtain rfl : q = p := by
    rcases h.2 q w h'.1 with he | hlt
    · exact he
    · rcases h'.2 p u h.1 with he | hgt
      · exact he.symm
      · exact absurd hgt hlt.asymm
  exact h.1.unique h'.1

/-! ## Items and entries -/

/-- Induction on a value by what its parts are. -/
theorem induct {motive : Yaml → Prop} (null : motive null) (bool : ∀ b, motive (bool b))
    (num : ∀ n, motive (num n)) (str : ∀ s, motive (str s))
    (seq : ∀ items, (∀ v ∈ items, motive v) → motive (seq items))
    (map : ∀ entries, (∀ e ∈ entries, motive e.2) → motive (map entries))
    (tagged : ∀ tag v, motive v → motive (tagged tag v)) (y : Yaml) : motive y := by
  match y with
  | .null => exact null
  | .bool b => exact bool b
  | .num n => exact num n
  | .str s => exact str s
  | .seq items => exact seq items fun v _ => induct null bool num str seq map tagged v
  | .map entries =>
    refine map entries fun e he => ?_
    have hentry := List.sizeOf_lt_of_mem he
    have hvalue : sizeOf e.2 < sizeOf e := by
      cases e
      simp only [Prod.mk.sizeOf_spec]
      omega
    exact induct null bool num str seq map tagged e.2
  | .tagged tag v => exact tagged tag v (induct null bool num str seq map tagged v)
termination_by y

/-! ### The first obstacle -/

theorem First.item {before after : List Yaml} {v : Yaml} {p : Place} {u : Unfit}
    (hbefore : ∀ w ∈ before, w.Fit) (h : v.First p u) :
    First (seq (before ++ v :: after)) (.item before.length :: p) u := by
  refine ⟨.item (getElem?_length_append ..) h.1, fun q w hq => ?_⟩
  cases hq with
  | @item _ i y q _ hitem inside =>
    rcases getElem?_split hitem with ⟨-, hy⟩ | ⟨rfl, rfl⟩ | hlt
    · exact absurd inside (hbefore y hy q w)
    · rcases h.2 q w inside with rfl | hlater
      · exact .inl rfl
      · exact .inr (.inr ⟨rfl, hlater⟩)
    · exact .inr (.inl hlt)

section Entries

variable {before after : List (Yaml × Yaml)} {k v : Yaml} {p : Place} {u : Unfit}

theorem First.key (hbefore : ∀ e ∈ before, e.1.keyText?.isSome ∧ e.2.Fit)
    (h : k.keyText? = none) :
    First (map (before ++ (k, v) :: after)) [.key before.length] (.key k) := by
  refine ⟨.key (getElem?_length_append ..) h, fun q w hq => ?_⟩
  cases hq with
  | @key _ i l _ hentry textless =>
    rcases getElem?_split hentry with ⟨-, hl⟩ | ⟨rfl, -⟩ | hlt
    · have hsome := (hbefore _ hl).1
      simp [textless] at hsome
    · exact .inl rfl
    · exact .inr (.inl (by simp only [Step.rank]; omega))
  | @value _ i l y q _ hentry inside =>
    rcases getElem?_split hentry with ⟨-, hl⟩ | ⟨rfl, -⟩ | hlt
    · exact absurd inside ((hbefore _ hl).2 q w)
    · exact .inr (.inl (by simp only [Step.rank]; omega))
    · exact .inr (.inl (by simp only [Step.rank]; omega))

theorem First.value (hbefore : ∀ e ∈ before, e.1.keyText?.isSome ∧ e.2.Fit)
    (hk : k.keyText?.isSome) (h : v.First p u) :
    First (map (before ++ (k, v) :: after)) (.value before.length :: p) u := by
  refine ⟨.value (getElem?_length_append ..) h.1, fun q w hq => ?_⟩
  cases hq with
  | @key _ i l _ hentry textless =>
    rcases getElem?_split hentry with ⟨-, hl⟩ | ⟨rfl, he⟩ | hlt
    · have hsome := (hbefore _ hl).1
      simp [textless] at hsome
    · cases he
      simp [textless] at hk
    · exact .inr (.inl (by simp only [Step.rank]; omega))
  | @value _ i l y q _ hentry inside =>
    rcases getElem?_split hentry with ⟨-, hl⟩ | ⟨rfl, he⟩ | hlt
    · exact absurd inside ((hbefore _ hl).2 q w)
    · cases he
      rcases h.2 q w inside with rfl | hlater
      · exact .inl rfl
      · exact .inr (.inr ⟨rfl, hlater⟩)
    · exact .inr (.inl (by simp only [Step.rank]; omega))

end Entries

theorem First.content {tag : String} {v : Yaml} {p : Place} {u : Unfit} (h : v.First p u) :
    First (tagged tag v) (.content :: p) u := by
  refine ⟨.content h.1, fun q w hq => ?_⟩
  cases hq with
  | @content _ _ q _ inside =>
    rcases h.2 q w inside with rfl | hlater
    · exact .inl rfl
    · exact .inr (.inr ⟨rfl, hlater⟩)

/-! ### Mirrors -/

theorem Fit.seq {items : List Yaml} (h : ∀ v ∈ items, v.Fit) : (seq items).Fit := by
  intro p u hp
  cases hp with
  | item item inside => exact h _ (List.mem_of_getElem? item) _ _ inside

theorem Fit.map {entries : List (Yaml × Yaml)}
    (h : ∀ e ∈ entries, e.1.keyText?.isSome ∧ e.2.Fit) : (map entries).Fit := by
  intro p u hp
  cases hp with
  | key entry textless =>
    have hsome := (h _ (List.mem_of_getElem? entry)).1
    simp [textless] at hsome
  | value entry inside => exact (h _ (List.mem_of_getElem? entry)).2 _ _ inside

/-- What a conversion comes to: a mirror of the value, or its first obstacle. -/
def Outcome (y : Yaml) : Except Unfit Json → Prop
  | .ok j => y.Fit ∧ y.Mirrors j
  | .error u => ∃ p, y.First p u

/-- A value has one mirror. -/
theorem Mirrors.unique {y : Yaml} {j l : Json} (h : y.Mirrors j) (h' : y.Mirrors l) : j = l := by
  induction h generalizing l with
  | null | bool | num | str =>
    cases h'
    rfl
  | @seq items js length each ih =>
    cases h' with
    | @seq _ ls length' each' =>
      refine congrArg Json.arr (List.ext_getElem (length.trans length'.symm) fun i hj hl => ?_)
      have hi : i < items.length := length ▸ hj
      exact ih i items[i] js[i] (List.getElem?_eq_getElem hi) (List.getElem?_eq_getElem hj)
        (each' i items[i] ls[i] (List.getElem?_eq_getElem hi) (List.getElem?_eq_getElem hl))
  | @map entries ms ascending keys values ih =>
    cases h' with
    | @map _ ns ascending' keys' values' =>
      refine congrArg Json.obj (ascending.ext ascending' fun key => ?_)
      by_cases hkey : ∃ e ∈ entries, e.1.keyText? = some key
      · obtain ⟨before, ⟨k, v⟩, after, hentries, hk, hafter⟩ := exists_last hkey
        obtain ⟨j, hj⟩ := Option.isSome_iff_exists.1
          (KeyMap.mem_keys_iff_isSome.1 ((keys key).2 hkey))
        obtain ⟨l, hl⟩ := Option.isSome_iff_exists.1
          (KeyMap.mem_keys_iff_isSome.1 ((keys' key).2 hkey))
        rw [hj, hl, ih before k v after key j hentries hk hafter hj
          (values' before k v after key l hentries hk hafter hl)]
      · rw [KeyMap.lookup_of_notMem fun hm => hkey ((keys key).1 hm),
          KeyMap.lookup_of_notMem fun hm => hkey ((keys' key).1 hm)]
  | tagged tag _ ih =>
    cases h' with
    | tagged _ content => exact ih content

mutual

/-- The YAML value of the same shape. -/
def ofJson : Json → Yaml
  | .null => null
  | .bool b => bool b
  | .num n => num n
  | .str s => str s
  | .arr vs => seq (ofJsonItems vs)
  | .obj ms => map (ofJsonMembers ms)

/-- The items in that shape. -/
def ofJsonItems : List Json → List Yaml
  | [] => []
  | v :: vs => ofJson v :: ofJsonItems vs

/-- The members as entries. -/
def ofJsonMembers : List (String × Json) → List (Yaml × Yaml)
  | [] => []
  | (name, v) :: ms => (str name, ofJson v) :: ofJsonMembers ms

end

/-- A number of each kind. -/
def counted : Json :=
  .obj [("count", .num (.int 1)), ("share", .arr [.num (.real .zero), .null])]

end Conform.Yaml
