/-!
# Field paths

A path leads from the root of a document, or of a schema, to a value below it. `text` writes it as
in `company.carrier`, `stops[0].id` and, for every item of a list, `stops[].id`; the root is the
empty text. Paths are ordered step by step, a path before the longer ones that it begins.
-/

set_option autoImplicit false

namespace Conform

/-- A step of a path. -/
inductive Segment
  /-- A named property of an object. -/
  | field (name : String)
  /-- An item of a list. -/
  | index (i : Nat)
  /-- Any item of a list, in paths of schemas. -/
  | items
deriving DecidableEq

/-- The steps from the root. -/
abbrev Path := List Segment

/-- Fields come before indices, and indices before items. Fields are ordered by the code points of
their names. -/
def Segment.lt : Segment → Segment → Bool
  | field a, field b => a < b
  | field _, _ => true
  | index _, field _ => false
  | index i, index j => i < j
  | index _, items => true
  | items, _ => false

namespace Path

/-- The path without steps. -/
def root : Path := []

/-- The path of a property below this one. -/
def child (p : Path) (name : String) : Path := p ++ [.field name]

/-- The path of an item below this one. -/
def index (p : Path) (i : Nat) : Path := p ++ [.index i]

/-- The path of every item below this one. -/
def items (p : Path) : Path := p ++ [.items]

/-- The name of the last step if it is a field. -/
def lastField (p : Path) : Option String :=
  match p.getLast? with
  | some (.field name) => some name
  | _ => none

/-- The order of paths: the first different step decides, and the end comes first. -/
def lt : Path → Path → Bool
  | [], [] => false
  | [], _ :: _ => true
  | _ :: _, [] => false
  | s :: p, t :: q => if s = t then lt p q else s.lt t

/-- The text of the steps behind the first one: a field has a dot before it. -/
def tailText : Path → String
  | [] => ""
  | .field name :: p => "." ++ name ++ tailText p
  | .index i :: p => "[" ++ toString i ++ "]" ++ tailText p
  | .items :: p => "[]" ++ tailText p

/-- The text of a path. -/
def text : Path → String
  | .field name :: p => name ++ tailText p
  | p => tailText p

/-- The text of a path at the start of a line, where the root has a name. -/
def label (p : Path) : String := if p.isEmpty then "(root)" else p.text

end Path

end Conform
