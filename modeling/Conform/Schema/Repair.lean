import Conform.Json.Text
import Conform.Warning

/-!
# Repairing raw schemas

Before a JSON value is read as a schema, `repair` brings two things that are common in the wild into
the form that schemas have here, with a warning for each:

* what is no object in the place of a schema becomes the empty schema;
* a length or item bound that is no count is rounded inwards, a lower one up and an upper one down;
  a negative lower bound becomes zero, and what cannot be used is dropped.

The places of schemas are the root and, below an object in such a place, the values of
`properties`, the value of `items` and the entries of `allOf`. Warnings come place by place, the
bounds of a place before what is below it; below it, the last member comes first, and so do the
last property and the last entry.
-/

set_option autoImplicit false

namespace Conform.Schema

/-- The keywords whose values are counts. -/
def boundKeywords : List String := ["minLength", "maxLength", "minItems", "maxItems"]

/-- The largest count. -/
def maxCount : Nat := Nat.pow 2 64 - 1

/-- The keyword is a lower bound. -/
def isLowerBound (keyword : String) : Bool := keyword == "minLength" || keyword == "minItems"

/-- The count in place of a bound that is none, if there is one. -/
def coerceBound (lower : Bool) : Json → Option Nat
  | .num n =>
    let x := n.toBinary64
    if !x.isFinite then none
    else
      let i := if lower then x.ceil else x.floor
      if 0 ≤ i then some (min i.toNat maxCount) else if lower then some 0 else none
  | _ => none

/-- The value is a count already. -/
def isCount : Json → Bool
  | .num n => n.isCount
  | _ => false

/-- The warnings about the bounds of a schema, in the order of the keywords. -/
def boundWarnings (path : Path) (ms : List (String × Json)) : List Warning :=
  boundKeywords.filterMap fun keyword =>
    match ms.lookup keyword with
    | some v =>
      if isCount v then none
      else some ⟨path, .coercedBound keyword v.compact (coerceBound (isLowerBound keyword) v)⟩
    | none => none

/-- The member with a bound, repaired or dropped. -/
def repairBound (keyword : String) (v : Json) : List (String × Json) :=
  if isCount v then [(keyword, v)]
  else match coerceBound (isLowerBound keyword) v with
    | some n => [(keyword, .nat n)]
    | none => []

mutual

/-- The value in the place of a schema, repaired, and the warnings. -/
def repair (path : Path) : Json → Json × List Warning
  | .obj ms =>
    let (ms', ws) := repairMembers path ms
    (.obj ms', boundWarnings path ms ++ ws)
  | v => (.obj [], [⟨path, .nonObjectSchema v.compact⟩])

/-- The members of a schema, repaired. -/
def repairMembers (path : Path) : List (String × Json) → List (String × Json) × List Warning
  | [] => ([], [])
  | (key, v) :: ms =>
    let (ms', ws) := repairMembers path ms
    if boundKeywords.contains key then (repairBound key v ++ ms', ws)
    else if key = "items" then
      let (v', us) := repair path.items v
      ((key, v') :: ms', ws ++ us)
    else if key = "properties" then
      match v with
      | .obj ps =>
        let (ps', us) := repairNamed path ps
        ((key, .obj ps') :: ms', ws ++ us)
      | v => ((key, v) :: ms', ws)
    else if key = "allOf" then
      match v with
      | .arr vs =>
        let (vs', us) := repairList path vs
        ((key, .arr vs') :: ms', ws ++ us)
      | v => ((key, v) :: ms', ws)
    else ((key, v) :: ms', ws)

/-- The schemas of properties, repaired. -/
def repairNamed (path : Path) : List (String × Json) → List (String × Json) × List Warning
  | [] => ([], [])
  | (name, v) :: ps =>
    let (ps', ws) := repairNamed path ps
    let (v', us) := repair (path.child name) v
    ((name, v') :: ps', ws ++ us)

/-- The schemas of `allOf`, repaired. -/
def repairList (path : Path) : List Json → List Json × List Warning
  | [] => ([], [])
  | v :: vs =>
    let (vs', ws) := repairList path vs
    let (v', us) := repair path v
    (v' :: vs', ws ++ us)

end

end Conform.Schema
