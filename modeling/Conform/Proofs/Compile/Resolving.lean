import Conform.Proofs.Compile.Required
import Conform.Proofs.PathOrder
import Mathlib.Data.Finset.Card

/-!
# Resolving one list after the other

A compilation meets lists `required` at many paths, resolves each against the properties next to it
and puts the paths that it finds into one set. A path below a prefix tells the prefix and the name
(`Path.child_inj`), so the set knows the pairs of a prefix and a name that were found, whatever the
order and however often they came.

* `getElem?_insertEach`: a path is new if it is neither in the set nor among those put in before.
* `splits_filter`: a list is split by whether a name is a property.
* `mem_resolveEach`: the paths in the set, each below the path of a list.
* `resolveEach_exact`: what the set holds in the end, and what was new on the way.
-/

set_option autoImplicit false

namespace Conform

/-! ## Putting in paths -/

namespace RequiredSet

/-- Puts in one path after the other and says of each whether it is new. -/
def insertEach (s : RequiredSet) : List Path → RequiredSet × List Bool
  | [] => (s, [])
  | p :: ps =>
    let first := s.insert p
    let rest := first.1.insertEach ps
    (rest.1, first.2 :: rest.2)

theorem fst_insertEach (s : RequiredSet) (ps : List Path) :
    (s.insertEach ps).1 = s.insertAll ps := by
  induction ps generalizing s with
  | nil => rfl
  | cons p ps ih => exact ih (s.insert p).1

theorem insertEach_append (s : RequiredSet) (ps qs : List Path) :
    s.insertEach (ps ++ qs) =
      (((s.insertEach ps).1.insertEach qs).1,
        (s.insertEach ps).2 ++ ((s.insertEach ps).1.insertEach qs).2) := by
  induction ps generalizing s with
  | nil => rfl
  | cons p ps ih => simp only [List.cons_append, insertEach, ih]

/-- A path is new if it is neither in the set nor among those put in before. -/
theorem getElem?_insertEach (s : RequiredSet) (ps : List Path) (i : Nat) :
    (s.insertEach ps).2[i]? = ps[i]?.map fun p => decide (p ∉ s.paths ∧ p ∉ ps.take i) := by
  induction ps generalizing s i with
  | nil => simp [insertEach]
  | cons q ps ih =>
    cases i with
    | zero => simp [insertEach, insert, contains]
    | succ i =>
      simp only [insertEach, List.getElem?_cons_succ, ih, insert, mem_place, List.take_succ_cons,
        List.mem_cons]
      refine congrArg (Option.map · ps[i]?) (funext fun p => decide_eq_decide.2 ?_)
      rw [not_or, not_or, and_assoc, and_left_comm]

end RequiredSet

/-! ## Resolving a list -/

/-- A list of names in two: those that are among the fields and those that are not, both in their
order and as often as they are listed. -/
inductive Splits (fields : List String) : List String → List String → List String → Prop
  | nil : Splits fields [] [] []
  | property {name : String} {names found missing : List String} (h : name ∈ fields)
      (rest : Splits fields names found missing) :
      Splits fields (name :: names) (name :: found) missing
  | other {name : String} {names found missing : List String} (h : name ∉ fields)
      (rest : Splits fields names found missing) :
      Splits fields (name :: names) found (name :: missing)

theorem splits_filter (fields names : List String) :
    Splits fields names (names.filter fields.contains)
      (names.filter fun name => !fields.contains name) := by
  induction names with
  | nil => exact .nil
  | cons name names ih =>
    by_cases h : name ∈ fields
    · simpa [h] using Splits.property h ih
    · simpa [h] using Splits.other h ih

/-- A list `required` at a path, with the names of the properties there. -/
structure Listing where
  path : Path
  fields : List String
  names : List String

namespace Listing

/-- The list, resolved. -/
def resolution (l : Listing) : Resolution := resolve l.path l.fields l.names

/-- The path with each name of the list that is a property there. -/
def pairs (l : Listing) : List (Path × String) :=
  (l.names.filter l.fields.contains).map fun name => (l.path, name)

theorem resolved_eq (l : Listing) :
    l.resolution.resolved = l.pairs.map fun p => p.1.child p.2 := by
  simp [resolution, resolve, pairs]

theorem mem_pairs {l : Listing} {p : Path} {name : String} :
    (p, name) ∈ l.pairs ↔ p = l.path ∧ name ∈ l.fields ∧ name ∈ l.names := by
  simp only [pairs, List.mem_map, List.mem_filter, List.contains_iff_mem, Prod.mk.injEq]
  constructor
  · rintro ⟨other, ⟨hnames, hfields⟩, rfl, rfl⟩
    exact ⟨rfl, hfields, hnames⟩
  · rintro ⟨rfl, hfields, hnames⟩
    exact ⟨name, ⟨hnames, hfields⟩, rfl, rfl⟩

end Listing

/-! ## Resolving many lists -/

theorem Path.child_injective : Function.Injective fun p : Path × String => p.1.child p.2 := by
  rintro ⟨p, name⟩ ⟨q, other⟩ h
  obtain ⟨rfl, rfl⟩ := Path.child_inj.1 h
  rfl

namespace RequiredSet

/-- Resolves one list after the other, puts in the paths of each and says which of them are new. -/
def resolveEach (s : RequiredSet) : List Listing → RequiredSet × List Bool
  | [] => (s, [])
  | l :: ls =>
    let first := s.insertEach l.resolution.resolved
    let rest := first.1.resolveEach ls
    (rest.1, first.2 ++ rest.2)

variable (s : RequiredSet) (ls : List Listing)

theorem resolveEach_eq :
    s.resolveEach ls =
      s.insertEach ((ls.flatMap Listing.pairs).map fun p => p.1.child p.2) := by
  induction ls generalizing s with
  | nil => rfl
  | cons l ls ih =>
    rw [List.flatMap_cons, List.map_append, insertEach_append, ← l.resolved_eq, ← ih]
    rfl

theorem fst_resolveEach :
    (s.resolveEach ls).1 =
      s.insertAll ((ls.flatMap Listing.pairs).map fun p => p.1.child p.2) := by
  rw [resolveEach_eq, fst_insertEach]

theorem ascending_resolveEach : Path.Ascending (empty.resolveEach ls).1.paths := by
  rw [fst_resolveEach]
  exact ascending_insertAll List.Pairwise.nil _

theorem mem_resolveEach {q : Path} :
    q ∈ (empty.resolveEach ls).1.paths ↔ ∃ p ∈ ls.flatMap Listing.pairs, p.1.child p.2 = q := by
  rw [fst_resolveEach, mem_insertAll, List.mem_map]
  exact or_iff_right List.not_mem_nil

/-- A path is new if its pair did not come before: other pairs have other paths. -/
theorem getElem?_resolveEach (i : Nat) :
    (empty.resolveEach ls).2[i]? = (ls.flatMap Listing.pairs)[i]?.map fun p =>
      decide (p ∉ (ls.flatMap Listing.pairs).take i) := by
  rw [resolveEach_eq, getElem?_insertEach, List.getElem?_map, Option.map_map]
  refine congrArg (Option.map · _) (funext fun p => decide_eq_decide.2 ?_)
  rw [← List.map_take, List.mem_map_of_injective Path.child_injective (a := p)
    (l := (ls.flatMap Listing.pairs).take i)]
  exact and_iff_right List.not_mem_nil

/-- There are as many paths as pairs. -/
theorem length_resolveEach :
    (empty.resolveEach ls).1.paths.length = (ls.flatMap Listing.pairs).toFinset.card := by
  have himage : (empty.resolveEach ls).1.paths.toFinset =
      (ls.flatMap Listing.pairs).toFinset.image fun p => p.1.child p.2 := by
    ext q
    simp [mem_resolveEach]
  rw [← List.toFinset_card_of_nodup (ascending_resolveEach ls).nodup, himage,
    Finset.card_image_of_injective _ Path.child_injective]

end RequiredSet

open RequiredSet in
/-- **Lists that are resolved one after the other.** Each is split by whether a name is a property
at its path. The set then holds the paths of the properties found, in ascending order and as many as
there are different pairs of a path and a name; a path is new the first time that its pair comes. -/
theorem resolveEach_exact (ls : List Listing) :
    (∀ l ∈ ls, ∃ found, Splits l.fields l.names found l.resolution.unresolved ∧
      l.resolution.resolved = found.map l.path.child) ∧
    (∀ q, (empty.resolveEach ls).1.contains q = true ↔
      ∃ l ∈ ls, ∃ name, name ∈ l.fields ∧ name ∈ l.names ∧ q = l.path.child name) ∧
    (∀ i, (empty.resolveEach ls).2[i]? = (ls.flatMap Listing.pairs)[i]?.map fun p =>
      decide (p ∉ (ls.flatMap Listing.pairs).take i)) ∧
    (empty.resolveEach ls).1.paths.length = (ls.flatMap Listing.pairs).toFinset.card ∧
    (empty.resolveEach ls).1.paths.Pairwise Path.Before := by
  refine ⟨fun l _ => ⟨_, splits_filter l.fields l.names, rfl⟩, fun q => ?_,
    getElem?_resolveEach ls, length_resolveEach ls,
    (ascending_resolveEach ls).imp fun h => Path.before_iff_lt.2 h⟩
  rw [contains_iff, mem_resolveEach]
  constructor
  · rintro ⟨⟨p, name⟩, hp, rfl⟩
    obtain ⟨l, hl, hp⟩ := List.mem_flatMap.1 hp
    obtain ⟨rfl, hfields, hnames⟩ := Listing.mem_pairs.1 hp
    exact ⟨l, hl, name, hfields, hnames, rfl⟩
  · rintro ⟨l, hl, name, hfields, hnames, rfl⟩
    have hp : (l.path, name) ∈ l.pairs := Listing.mem_pairs.2 ⟨rfl, hfields, hnames⟩
    exact ⟨(l.path, name), List.mem_flatMap.2 ⟨l, hl, hp⟩, rfl⟩

-- a name is new once at each path, also where its path is below another one
example : (RequiredSet.empty.resolveEach
    [⟨.root, ["id"], ["id", "no", "id"]⟩, ⟨[.field "id", .items], ["id"], ["id"]⟩,
      ⟨.root, ["id", "no"], ["no", "id"]⟩]).2 = [true, false, true, true, false] := by decide

end Conform
