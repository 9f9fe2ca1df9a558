import Conform.Path

/-!
# Violations

A violation tells where a document breaks a rule, which kind of rule, and how. `Collector` gathers
violations in the order they are found; when it stops early it keeps the first one only.

* `push_of_isDone`, `push_of_not_isDone`: what a report does to a collector.
-/

set_option autoImplicit false

namespace Conform

/-- The kind of a broken rule. -/
inductive ViolationKind
  /-- The value is absent, null or an empty text where one is required. -/
  | required
  /-- Below the lower bound. -/
  | min
  /-- Above the upper bound. -/
  | max
  /-- None of the permitted values. -/
  | oneOf
  /-- A number with a fractional part. -/
  | integer
  /-- A text that does not match the pattern. -/
  | pattern
  /-- The value cannot be read as the type. -/
  | typeError
deriving DecidableEq

/-- The name of a kind. -/
def ViolationKind.name : ViolationKind → String
  | required => "required"
  | min => "min"
  | max => "max"
  | oneOf => "oneOf"
  | integer => "integer"
  | pattern => "matches"
  | typeError => "typeError"

/-- A broken rule at a place of a document. -/
structure Violation where
  path : Path
  kind : ViolationKind
  message : String
deriving DecidableEq

namespace Violation

/-- The line of a report that tells of a violation. -/
def line (v : Violation) : String := "  " ++ v.path.label ++ ": " ++ v.kind.name ++ " (" ++
  v.message ++ ")"

/-- The lines of violations. -/
def report (vs : List Violation) : String := "\n".intercalate (vs.map line)

/-- The report of a document that is not valid. -/
def failure (vs : List Violation) : String :=
  s!"validation failed with {vs.length} violation(s):\n" ++ report vs

/-- The violations whose path has the given text, in order. -/
def allAt (vs : List Violation) (path : String) : List Violation :=
  vs.filter (·.path.text == path)

/-- The kind of the first violation whose path has the given text. -/
def kindAt (vs : List Violation) (path : String) : Option ViolationKind :=
  (allAt vs path).head?.map kind

end Violation

/-! ## Collecting -/

/-- The violations found so far, and whether the first one is enough. -/
structure Collector where
  abortEarly : Bool
  found : Array Violation

namespace Collector

/-- A collector without violations. -/
def start (abortEarly : Bool) : Collector := ⟨abortEarly, #[]⟩

/-- Nothing more has to be found. -/
def isDone (c : Collector) : Bool := c.abortEarly && !c.found.isEmpty

/-- Reports a violation, unless the collector is done. -/
def push (c : Collector) (path : Path) (kind : ViolationKind) (message : String) : Collector :=
  if c.isDone then c else { c with found := c.found.push ⟨path, kind, message⟩ }

theorem push_of_isDone {c : Collector} (h : c.isDone = true) (p : Path) (k : ViolationKind)
    (m : String) : c.push p k m = c := by simp [push, h]

theorem push_of_not_isDone {c : Collector} (h : c.isDone = false) (p : Path) (k : ViolationKind)
    (m : String) : c.push p k m = ⟨c.abortEarly, c.found.push ⟨p, k, m⟩⟩ := by simp [push, h]

end Collector

end Conform
