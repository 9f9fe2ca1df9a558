import Conform.Yaml.Basic

/-!
# Literals

What the text of a plain scalar stands for: null, a truth value, an integer, a double, or else the
text itself. An integer may be decimal, hexadecimal, octal or binary; digits after a leading zero
are a text. Integers that 64 bits cannot hold are refused, up to 128 bits; what is wider still is a
double.
-/

set_option autoImplicit false

namespace Conform.Yaml

/-- The spellings of null, apart from nothing at all. -/
def nullWords : List String := ["null", "Null", "NULL", "~"]

/-- The spellings of the truth values. -/
def bool? (s : String) : Option Bool :=
  if ["true", "True", "TRUE"].contains s then some true
  else if ["false", "False", "FALSE"].contains s then some false
  else none

/-! ## Integers -/

/-- The value of a digit, in any radix up to 16. -/
def digit? (c : Char) : Option Nat :=
  if '0' ≤ c ∧ c ≤ '9' then some (c.toNat - 48)
  else if 'a' ≤ c ∧ c ≤ 'f' then some (c.toNat - 87)
  else if 'A' ≤ c ∧ c ≤ 'F' then some (c.toNat - 55)
  else none

/-- The value of at least one digit of the radix. -/
def digits? (radix : Nat) (cs : List Char) : Option Nat :=
  if cs.isEmpty then none
  else cs.foldlM (fun n c => do
    let d ← digit? c
    if d < radix then some (radix * n + d) else none) 0

/-- More than one digit, the first of them a zero. -/
def zeroLed : List Char → Bool
  | '0' :: c :: cs => (c :: cs).all Char.isDigit
  | _ => false

/-- The value of an integer literal without a sign. -/
def magnitude? : List Char → Option Nat
  | '0' :: 'x' :: cs => digits? 16 cs
  | '0' :: 'o' :: cs => digits? 8 cs
  | '0' :: 'b' :: cs => digits? 2 cs
  | cs => if zeroLed cs then none else digits? 10 cs

/-- The sign of a literal and what follows it. -/
def signed : List Char → Bool × List Char
  | '-' :: cs => (true, cs)
  | '+' :: cs => (false, cs)
  | cs => (false, cs)

/-- The integer is in the range of words with so many bits, those with a minus sign of signed words
and all others of unsigned ones. -/
def fits (bits : Nat) (negative : Bool) (n : Nat) : Bool :=
  if negative then n ≤ Nat.pow 2 (bits - 1) else n < Nat.pow 2 bits

/-- The integer with the given sign. -/
def withSign (negative : Bool) (n : Nat) : Int := if negative then -(n : Int) else n

/-! ## Doubles -/

/-- The double of a literal. Infinities and NaN have names with a dot; a decimal literal has to be
in range. -/
def double? (s : String) : Option Binary64 :=
  let (negative, cs) := signed s.toList
  if [".inf", ".Inf", ".INF"].contains (String.ofList cs) then
    some (Binary64.withSign negative Binary64.infinity)
  else if [".nan", ".NaN", ".NAN"].contains s then some Binary64.nan
  else match Decimal.unsignedOfText? cs with
    | none => none
    | some (c, e) =>
      let x := Binary64.ofDecimal negative c e
      if x.isFinite then some x else none

/-! ## All literals -/

/-- A double or a text. -/
def doubleOrText (s : String) : Yaml :=
  if zeroLed (signed s.toList).2 then str s
  else match double? s with
    | some x => num (.real x)
    | none => str s

/-- What a plain scalar stands for. -/
def ofPlain? (s : String) : Option Yaml :=
  if s.isEmpty || nullWords.contains s then some null
  else match bool? s with
    | some b => some (bool b)
    | none =>
      let (negative, cs) := signed s.toList
      match magnitude? cs with
      | none => some (doubleOrText s)
      | some n =>
        if fits 64 negative n then some (num (.int (withSign negative n)))
        else if fits 128 negative n then none
        else some (doubleOrText s)

/-- What a text stands for under a tag of the core schema, however it is quoted. A tag that is not
known makes it a text. -/
def ofTagged? (tag : String) (s : String) : Option Yaml :=
  if tag = "tag:yaml.org,2002:bool" then (bool? s).map bool
  else if tag = "tag:yaml.org,2002:int" then
    let (negative, cs) := signed s.toList
    match magnitude? cs with
    | none => none
    | some n => if fits 64 negative n then some (num (.int (withSign negative n))) else none
  else if tag = "tag:yaml.org,2002:float" then (double? s).map fun x => num (.real x)
  else if tag = "tag:yaml.org,2002:null" then if nullWords.contains s then some null else none
  else some (str s)

end Conform.Yaml
