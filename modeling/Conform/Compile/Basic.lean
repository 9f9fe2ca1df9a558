import Conform.Compile.Worklist
import Conform.Schema.Repair

/-!
# Compilations

`compile` turns a schema into a validator and the warnings about it. `compileStrict` takes a warning
for an error. `compileValue` starts from a raw JSON value: it is repaired and read first, and when
the options are strict a check of the value itself comes before all else.
-/

set_option autoImplicit false

namespace Conform

/-! ## From slots to a tree -/

/-- The validators of slots that are built, until they are taken. -/
abbrev Built := Array (Option Validator)

namespace Built

/-- Takes the validator of a slot. -/
def take (built : Built) (slot : Nat) : Validator × Built :=
  match built[slot]? with
  | some (some v) => (v, built.setIfInBounds slot none)
  | _ => (.scalar .permissive, built)

/-- Takes the validators of fields. -/
def takeFields : List (String × Nat) → Built → List (String × Validator) × Built
  | [], built => ([], built)
  | (name, slot) :: fs, built =>
    let v := built.take slot
    let rest := takeFields fs v.2
    ((name, v.1) :: rest.1, rest.2)

/-- The validator of a slot, for which those of its children are taken. -/
def ofSlot : Slot → Built → Validator × Built
  | .leaf v, built => (v, built)
  | .object fields required, built =>
    let vs := takeFields fields built
    (.object vs.1 required false, vs.2)
  | .array element required least most, built =>
    let v := built.take element
    (.array v.1 required false least most, v.2)

/-- Builds slots from the last one to the first, so that children come before their parents. -/
def ofSlots (slots : List (Slot × Nat)) (built : Built) : Built :=
  slots.foldr (fun s built =>
    let v := ofSlot s.1 built
    v.2.setIfInBounds s.2 (some v.1)) built

end Built

/-- The tree whose root is the first slot. -/
def assemble (nodes : Array Slot) : Validator :=
  ((Built.ofSlots nodes.toList.zipIdx (Array.replicate nodes.size none)).take 0).1

/-! ## Compiling -/

/-- A validator and the permissive readings it took to build it. -/
structure Compilation where
  validator : Validator
  warnings : List Warning

/-- Why a schema is refused. -/
inductive CompileError
  /-- The value is no schema. -/
  | invalidSchema
  /-- Warnings count as errors, and there are some. -/
  | degraded (warnings : List Warning)

/-- The wording of an error. -/
def CompileError.message : CompileError → String
  | invalidSchema => "invalid schema"
  | degraded ws =>
    s!"schema compiled with {ws.length} degradation(s) in strict mode:\n" ++
      "\n".intercalate (ws.map fun w => "  " ++ w.line)

/-- Compiles a schema, with a warning for each permissive reading. -/
def compile (o : Options) (s : Schema) : Compilation :=
  let b := Build.root o s
  ⟨assemble b.nodes, b.warnings.toList⟩

/-- Compiles a schema that needs no permissive reading. -/
def compileStrict (o : Options) (s : Schema) : Except CompileError Validator :=
  let c := compile o s
  if c.warnings.isEmpty then .ok c.validator else .error (.degraded c.warnings)

/-- Compiles a raw value; `isSchema` is the check that strict options demand of it. -/
def compileValue (isSchema : Json → Bool) (o : Options) (value : Json) :
    Except CompileError Compilation :=
  if o.strict && !isSchema value then .error .invalidSchema
  else
    let repaired := Schema.repair .root value
    match Schema.ofJson? repaired.1 with
    | none => .error .invalidSchema
    | some s =>
      let c := compile o s
      let warnings := repaired.2 ++ c.warnings
      if o.strict && !warnings.isEmpty then .error (.degraded warnings)
      else .ok ⟨c.validator, warnings⟩

end Conform
