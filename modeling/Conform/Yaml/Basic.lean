import Conform.Json.Basic
import Conform.Number.Decimal
import Conform.Text.Shown

/-!
# YAML values

A YAML value has what JSON has and three things more: doubles that are not finite, keys of any kind,
and tags. `toJson` drops the tags, turns keys into texts and refuses what has no place in JSON.

* `keyText?`: the text of a key, for texts, numbers and truth values only.
* `toJson`: the first offence in the order of the document is the one reported.
-/

set_option autoImplicit false

namespace Conform

/-- A YAML value. The entries of a mapping are listed in the order of the document. -/
inductive Yaml
  | null
  | bool (b : Bool)
  | num (n : Number)
  | str (s : String)
  | seq (items : List Yaml)
  | map (entries : List (Yaml × Yaml))
  | tagged (tag : String) (value : Yaml)

namespace Yaml

instance : Inhabited Yaml := ⟨.null⟩

/-! ## Equality -/

/-- Equal numbers, where NaN is equal to itself. -/
def sameNumber : Number → Number → Bool
  | .real x, .real y => x.eq y || (x.isNaN && y.isNaN)
  | m, n => m.same n

mutual

/-- Equal values; the order of the entries of a mapping does not matter. -/
def same : Yaml → Yaml → Bool
  | null, null => true
  | bool a, bool b => a == b
  | num m, num n => sameNumber m n
  | str a, str b => a == b
  | seq as, seq bs => sameItems as bs
  | map as, map bs => as.length == bs.length && includes as bs
  | tagged s a, tagged t b => s == t && same a b
  | _, _ => false

/-- Equal items in the same order. -/
def sameItems : List Yaml → List Yaml → Bool
  | [], [] => true
  | a :: as, b :: bs => same a b && sameItems as bs
  | _, _ => false

/-- Every entry of the first list is in the second one. -/
def includes : List (Yaml × Yaml) → List (Yaml × Yaml) → Bool
  | [], _ => true
  | (k, v) :: as, bs => bs.any (fun b => same k b.1 && same v b.2) && includes as bs

end

/-! ## Texts -/

/-- The text of a double: as in JSON, but a positive exponent has no sign, and the values that are
not finite have names. -/
def doubleText (x : Binary64) : String :=
  if x.isNaN then ".nan"
  else if !x.isFinite then if x.isNegative then "-.inf" else ".inf"
  else Decimal.Layout.render ⟨fun e => -5 ≤ e && e ≤ 15, true, ""⟩ x

/-- The text of a number. -/
def numberText : Number → String
  | .int i => toString i
  | .real x => doubleText x

/-- The text of a truth value. -/
def boolText (b : Bool) : String := if b then "true" else "false"

/-- The text of a key, if it is a text, a number or a truth value. -/
def keyText? : Yaml → Option String
  | str s => some s
  | num n => some (numberText n)
  | bool b => some (boolText b)
  | _ => none

/-- Parts between two marks, with commas between them. -/
def listed (opening closing : String) (parts : List String) : String :=
  opening ++ ", ".intercalate parts ++ closing

/-- A key of a mapping, as shown in a message: without the word for its kind where it has a text. -/
def shownKey (shown : String) : Yaml → String
  | str s => shownText s
  | num n => numberText n
  | bool b => boolText b
  | _ => shown

mutual

/-- A value as shown in a message, each part with the word for its kind. -/
def shown : Yaml → String
  | null => "Null"
  | bool b => "Bool(" ++ boolText b ++ ")"
  | num n => "Number(" ++ numberText n ++ ")"
  | str s => "String(" ++ shownText s ++ ")"
  | seq items => "Sequence " ++ listed "[" "]" (shownItems items)
  | map entries => "Mapping " ++ listed "\x7b" "\x7d" (shownEntries entries)
  | tagged tag value => "TaggedValue \x7b tag: !" ++ tag ++ ", value: " ++ shown value ++ " \x7d"

/-- The items as shown in a message. -/
def shownItems : List Yaml → List String
  | [] => []
  | v :: vs => shown v :: shownItems vs

/-- The entries as shown in a message. -/
def shownEntries : List (Yaml × Yaml) → List String
  | [] => []
  | (k, v) :: es => (shownKey (shown k) k ++ ": " ++ shown v) :: shownEntries es

end

/-! ## As JSON -/

/-- What keeps a value out of JSON. -/
inductive Unfit
  /-- A double that is not finite. -/
  | notFinite (x : Binary64)
  /-- A key that has no text. -/
  | key (k : Yaml)

/-- The wording of an obstacle. -/
def Unfit.message : Unfit → String
  | notFinite x => "cannot represent " ++ x.plainText ++ " in JSON"
  | key k => "unsupported YAML key: " ++ k.shown

/-- A number of JSON. -/
def numberToJson : Number → Except Unfit Json
  | .int i => .ok (.num (.int i))
  | .real x => if x.isFinite then .ok (.num (.real x)) else .error (.notFinite x)

mutual

/-- The value in JSON, without tags. -/
def toJson : Yaml → Except Unfit Json
  | null => .ok .null
  | bool b => .ok (.bool b)
  | num n => numberToJson n
  | str s => .ok (.str s)
  | seq items => (itemsToJson items).map .arr
  | map entries => (entriesToJson [] entries).map .obj
  | tagged _ value => toJson value

/-- The items in JSON. -/
def itemsToJson : List Yaml → Except Unfit (List Json)
  | [] => .ok []
  | v :: vs => do
    let j ← toJson v
    let js ← itemsToJson vs
    return j :: js

/-- The members so far and those of the entries; of entries with one text the last counts. A key is
looked at before its value. -/
def entriesToJson (members : KeyMap Json) : List (Yaml × Yaml) → Except Unfit (KeyMap Json)
  | [] => .ok members
  | (k, v) :: es =>
    match k.keyText? with
    | none => .error (.key k)
    | some text => do
      let j ← toJson v
      entriesToJson (KeyMap.put text j members) es

end

end Yaml

end Conform
