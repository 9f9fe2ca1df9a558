import Conform.KeyMap
import Conform.Path

/-!
# Required paths

The names in the list `required` of a schema are properties of that schema. `resolve` turns those
that are into paths, and a `RequiredSet` keeps the paths found so far in ascending order.
-/

set_option autoImplicit false

namespace Conform

/-- Paths of required fields, ascending and each once. -/
structure RequiredSet where
  paths : List Path

namespace RequiredSet

/-- No paths. -/
def empty : RequiredSet := ⟨[]⟩

/-- The path is in the set. -/
def contains (s : RequiredSet) (p : Path) : Bool := s.paths.contains p

/-- A path put in its place in an ascending list, unless it is there. -/
def place (p : Path) : List Path → List Path
  | [] => [p]
  | q :: qs => if p.lt q then p :: q :: qs else if p = q then q :: qs else q :: place p qs

/-- The set with a path, and whether it is new. -/
def insert (s : RequiredSet) (p : Path) : RequiredSet × Bool :=
  (⟨place p s.paths⟩, !s.contains p)

/-- The set with all the paths. -/
def insertAll (s : RequiredSet) (ps : List Path) : RequiredSet :=
  ps.foldl (fun s p => (s.insert p).1) s

end RequiredSet

/-- The required names of a schema, as paths of its properties or as names without a property. -/
structure Resolution where
  resolved : List Path
  unresolved : List String

/-- Splits required names by whether they are among the names of the properties at a path. -/
def resolve (path : Path) (fields required : List String) : Resolution where
  resolved := (required.filter fields.contains).map path.child
  unresolved := required.filter fun name => !fields.contains name

end Conform
