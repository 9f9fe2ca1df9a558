/-!
# Maps with sorted keys

A map from names is a list of pairs in strictly ascending order of the names, which is the order
of their code points. `alter` keeps the order: it changes the value of a name that is there, or
puts a new one in its place.

* `Sorted`: the keys are strictly ascending, as in every map that is built by `alter` from nothing.
-/

set_option autoImplicit false

namespace Conform

/-- A map from names, as pairs in ascending order of the names. -/
abbrev KeyMap (α : Type) := List (String × α)

namespace KeyMap

variable {α : Type}

/-- Binds `key` to what `f` makes of its present value, in its place in the order. -/
def alter (key : String) (f : Option α → α) : KeyMap α → KeyMap α
  | [] => [(key, f none)]
  | (k, v) :: m =>
    if key < k then (key, f none) :: (k, v) :: m
    else if key = k then (k, f (some v)) :: m
    else (k, v) :: alter key f m

/-- Binds `key` to `value`, in its place in the order. -/
def put (key : String) (value : α) (m : KeyMap α) : KeyMap α := alter key (fun _ => value) m

/-- The map of a list of bindings, of which the last for each name counts. -/
def ofList (bindings : List (String × α)) : KeyMap α :=
  bindings.foldl (fun m b => put b.1 b.2 m) []

/-- The names bound, in ascending order. -/
def keys (m : KeyMap α) : List String := m.map Prod.fst

/-- The name is bound. -/
def has (key : String) (m : KeyMap α) : Bool := (m.lookup key).isSome

/-- The keys are strictly ascending. -/
def Sorted (m : KeyMap α) : Prop := m.Pairwise (fun a b => a.1 < b.1)

end KeyMap

end Conform
