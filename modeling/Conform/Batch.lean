import Conform.Compile.Basic
import Conform.Config
import Conform.Document
import Conform.Validator.Check

/-!
# Options and documents in files

Options come from a configuration file, and a list of documents is validated one by one. Both stop
at the first file that cannot be used.
-/

set_option autoImplicit false

namespace Conform

/-! ## Options -/

/-- Why a configuration file is not used. -/
inductive ConfigError
  | load (e : LoadError)
  | invalid (path : String)
  | pattern (e : PatternError String)

/-- The wording of an error. -/
def ConfigError.message : ConfigError → String
  | load e => e.message
  | invalid path => s!"invalid configuration {path}"
  | pattern e => s!"invalid pattern for `{e.name}`: {e.reason}"

/-- The options in a configuration file. -/
def loadConfig [Libraries] (files : Files) (path : String) : Except ConfigError Options := do
  let v ← (loadDocument files path).mapError .load
  match Config.ofJson? v with
  | some c => (c.options Libraries.pattern).mapError .pattern
  | none => .error (.invalid path)

/-! ## Documents -/

/-- How a list of documents fared. The failures are in the order of the list. -/
structure Report where
  total : Nat
  passed : Nat
  failures : List (String × List Violation)

/-- The report on no documents. -/
def Report.empty : Report := ⟨0, 0, []⟩

/-- The report with one more document in front. -/
def Report.add (path : String) (violations : List Violation) (r : Report) : Report :=
  if violations.isEmpty then { r with total := r.total + 1, passed := r.passed + 1 }
  else { r with total := r.total + 1, failures := (path, violations) :: r.failures }

/-- A document that cannot be loaded. -/
structure DocumentFailure where
  path : String
  reason : LoadError

/-- Validates the documents in files. -/
def validateFiles [Libraries] (files : Files) (v : Validator) (abortEarly : Bool) :
    List String → Except DocumentFailure Report
  | [] => .ok .empty
  | path :: paths =>
    match loadDocument files path with
    | .error e => .error ⟨path, e⟩
    | .ok document => do
      let rest ← validateFiles files v abortEarly paths
      return rest.add path (v.validateWith abortEarly document)

/-! ## Failures of a whole run -/

/-- Why a run comes to no answer. -/
inductive RunError
  | configuration (path : String) (e : ConfigError)
  | schema (path : String) (e : LoadError)
  | document (e : DocumentFailure)

/-- The wording of an error: what failed, and why. -/
def RunError.message : RunError → String
  | configuration path e => s!"failed to load configuration {path}: {e.message}"
  | schema path e => s!"failed to load schema {path}: {e.message}"
  | document e => s!"failed to load document {e.path}: {e.reason.message}"

/-- The options of a configuration file, or the default ones if there is none. -/
def optionsOf [Libraries] (files : Files) : Option String → Except RunError Options
  | none => .ok .default
  | some path => (loadConfig files path).mapError (.configuration path)

end Conform
