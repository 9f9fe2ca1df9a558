import Conform.Batch
import Conform.Json.Text

/-!
# Invocations

An `Invocation` compiles a schema and prints the tree, or checks documents against it.
`Invocation.run` gives the exit code and the two outputs for given contents of files: 0 is success,
1 a refused schema or document, 2 a file that cannot be used. It is defined for any `Libraries`.
-/

set_option autoImplicit false

namespace Conform

/-- What to do. -/
inductive Command
  | compile (schema : String) (strict : Bool)
  | validate (schema : String) (documents : List String) (abortEarly : Bool)
deriving DecidableEq

/-- A command and the configuration file that it uses. -/
structure Invocation where
  config : Option String
  command : Command
deriving DecidableEq

/-! ## Outcomes -/

/-- The exit code and what is written to the two outputs. -/
structure Outcome where
  code : Nat
  stdout : String
  stderr : String
deriving DecidableEq

namespace Outcome

/-- A run that comes to no answer. -/
def failed (e : RunError) : Outcome := ⟨2, "", "ERROR: " ++ e.message ++ "\n"⟩

/-- A schema that is refused. -/
def refused (schema : String) (e : CompileError) : Outcome :=
  ⟨1, "", s!"FAIL: {schema}: {e.message}\n"⟩

/-- The lines with a line break behind each. -/
def lines (ls : List String) : String := String.join (ls.map (· ++ "\n"))

/-- The outcome of either kind. -/
def ofExcept : Except Outcome Outcome → Outcome
  | .ok o => o
  | .error o => o

end Outcome

/-! ## Running -/

/-- The lines about a report: the failures and how many documents passed. -/
def Report.lines (r : Report) : List String :=
  r.failures.flatMap (fun f => s!"FAIL: {f.1}" :: f.2.map Violation.line) ++
    [s!"Documents: {r.passed}/{r.total} passed"]

namespace Invocation

/-- The options and the schema of a run, compiled. `strict` adds to the options. -/
def compiled [Libraries] (files : Files) (config : Option String) (schema : String) (strict : Bool) :
    Except Outcome Compilation := do
  let o ← (optionsOf files config).mapError Outcome.failed
  let v ← (loadDocument files schema).mapError fun e => Outcome.failed (.schema schema e)
  (compileValue Libraries.isSchema { o with strict := o.strict || strict } v).mapError
    (Outcome.refused schema)

/-- The outcome of a run. -/
def run [Libraries] (files : Files) (i : Invocation) : Outcome :=
  match i.command with
  | .compile schema strict => .ofExcept do
    let c ← compiled files i.config schema strict
    return ⟨0, c.validator.toJson.pretty ++ "\n",
      Outcome.lines (c.warnings.map fun w => "WARN: " ++ w.line)⟩
  | .validate schema documents abortEarly => .ofExcept do
    let c ← compiled files i.config schema false
    let r ← (validateFiles files c.validator abortEarly documents).mapError
      fun e => Outcome.failed (.document e)
    return ⟨if r.failures.isEmpty then 0 else 1, Outcome.lines r.lines, ""⟩

/-- The files that a run may look at. -/
def paths (i : Invocation) : List String :=
  i.config.toList ++ match i.command with
    | .compile schema _ => [schema]
    | .validate schema documents _ => schema :: documents

end Invocation

end Conform
