import Conform.Scalar.Check
import Conform.Validator.Basic

/-!
# Validating documents

`Validator.check` walks a validator and a document together and reports to a collector. An object
that is absent is walked as an empty one, so the required fields below it are reported as well;
nothing below a null or a value of another type is looked at, and keys that no field names are
ignored.

* `validate`: all violations of a document; `validateFirst`: the first one at most.
-/

set_option autoImplicit false

namespace Conform

/-- What is wrong with a value, or with an absent one, where an object or a list should be. -/
def containerProblems (name : String) (required nullable : Bool) (fits : Json → Bool) :
    Option Json → List Problem
  | none => if required then [.missing] else []
  | some .null => if required then [.missing] else if nullable then [] else [.notNull]
  | some v => if fits v then [] else [.wrongType name v]

/-- The value is an object. -/
def Json.isObject : Json → Bool
  | .obj _ => true
  | _ => false

/-- The value is a list. -/
def Json.isArray : Json → Bool
  | .arr _ => true
  | _ => false

/-- What is wrong with the number of items. -/
def countProblems (least most : Option Nat) (count : Nat) : List Problem :=
  (match least with
    | some n => if count < n then [⟨.min, s!"must have at least {n} items"⟩] else []
    | none => []) ++
  (match most with
    | some n => if n < count then [⟨.max, s!"must have at most {n} items"⟩] else []
    | none => [])

namespace Validator

/-- What is wrong with a value itself, apart from what is below it. -/
def ownProblems : Validator → Option Json → List Problem
  | scalar s, x => s.problems x
  | object _ required nullable, x => containerProblems "object" required nullable Json.isObject x
  | array _ required nullable least most, x =>
    containerProblems "array" required nullable Json.isArray x ++
      match x with
      | some (.arr items) => countProblems least most items.length
      | _ => []

/-- The members that the fields of an object are checked against. -/
def membersBelow : Option Json → Option (List (String × Json))
  | none => some []
  | some (.obj ms) => some ms
  | _ => none

/-- The items that the element of a list is checked against. -/
def itemsBelow : Option Json → List Json
  | some (.arr items) => items
  | _ => []

/-- Checks items from an index on, one after the other. -/
def checkItems (check : Json → Path → Collector → Collector) (path : Path) :
    Nat → List Json → Collector → Collector
  | _, [], c => c
  | i, v :: vs, c => checkItems check path (i + 1) vs (check v (path.index i) c)

mutual

/-- Checks a value, or an absent one, at a path. -/
def check (v : Validator) (x : Option Json) (path : Path) (c : Collector) : Collector :=
  if c.isDone then c
  else match v with
    | scalar s => c.pushAll path (ownProblems (scalar s) x)
    | object fields required nullable =>
      let c := c.pushAll path (ownProblems (object fields required nullable) x)
      match membersBelow x with
      | some ms => checkFields fields ms path c
      | none => c
    | array element required nullable least most =>
      let c := c.pushAll path (ownProblems (array element required nullable least most) x)
      checkItems (fun v => check element (some v)) path 0 (itemsBelow x) c

/-- Checks fields against the members of an object, one after the other. -/
def checkFields (fields : List (String × Validator)) (ms : List (String × Json)) (path : Path)
    (c : Collector) : Collector :=
  match fields with
  | [] => c
  | (name, v) :: rest => checkFields rest ms path (check v (ms.lookup name) (path.child name) c)

end

/-- The violations of a document, of which the first one is enough if `abortEarly` says so. -/
def validateWith (v : Validator) (abortEarly : Bool) (document : Json) : List Violation :=
  (v.check (some document) .root (.start abortEarly)).found.toList

/-- All violations of a document. -/
def validate (v : Validator) (document : Json) : List Violation := v.validateWith false document

/-- The first violation of a document. -/
def validateFirst (v : Validator) (document : Json) : List Violation :=
  v.validateWith true document

/-- The document has no violations. -/
def isValid (v : Validator) (document : Json) : Bool := (v.validateFirst document).isEmpty

end Validator

end Conform
