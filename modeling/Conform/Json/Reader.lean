import Conform.Json.Basic
import Conform.Number.Decimal

/-!
# Reading JSON text

`Json.read?` reads one value that fills the whole text. Of members with one name the last counts.
At most 127 lists and objects may be open at a time. A literal beyond the range of doubles, a lone
surrogate and a raw control character are refused, as is whatever the grammar does not know.
-/

set_option autoImplicit false

namespace Conform.Json

/-- The white space between tokens. -/
def isSpace (c : Char) : Bool := c == ' ' || c == '\n' || c == '\t' || c == '\r'

/-- The rest of the text after white space. -/
def skip (cs : List Char) : List Char := cs.dropWhile isSpace

/-! ## Numbers -/

/-- The number of a literal, given its sign, its digits and, if it is no integer literal, what
follows the digits. A negative zero is a double. -/
def numberOf? (negative : Bool) (whole : List Char) (tail : List Char) : Option Number :=
  let n := Decimal.digitsValue whole
  let small := if negative then 0 < n && n ≤ Nat.pow 2 63 else n < Nat.pow 2 64
  if tail.isEmpty && small then some (.int (if negative then -n else n))
  else do
    let (c, e) ← Decimal.unsignedOfText? (whole ++ tail)
    let x := Binary64.ofDecimal negative c e
    if x.isFinite then some (.real x) else none

/-- A run of at least one digit, and the rest. -/
def digits? (cs : List Char) : Option (List Char × List Char) :=
  let ds := cs.takeWhile Char.isDigit
  if ds.isEmpty then none else some (ds, cs.dropWhile Char.isDigit)

/-- The fraction of a literal with its point, and the rest. -/
def fraction? : List Char → Option (List Char × List Char)
  | '.' :: cs => (digits? cs).map fun (ds, rest) => ('.' :: ds, rest)
  | cs => some ([], cs)

/-- The exponent of a literal with its letter and sign, and the rest. -/
def exponent? : List Char → Option (List Char × List Char)
  | [] => some ([], [])
  | e :: cs =>
    if e != 'e' && e != 'E' then some ([], e :: cs)
    else match cs with
      | '-' :: cs => (digits? cs).map fun (ds, rest) => ('e' :: '-' :: ds, rest)
      | '+' :: cs => (digits? cs).map fun (ds, rest) => ('e' :: ds, rest)
      | cs => (digits? cs).map fun (ds, rest) => ('e' :: ds, rest)

/-- A number and the rest. A leading zero stands alone before the point. -/
def number? (cs : List Char) : Option (Number × List Char) := do
  let (negative, cs) := match cs with
    | '-' :: cs => (true, cs)
    | cs => (false, cs)
  let (whole, rest) ← digits? cs
  if whole.head? = some '0' ∧ 1 < whole.length then none
  let (frac, rest) ← fraction? rest
  let (expo, rest) ← exponent? rest
  let n ← numberOf? negative whole (frac ++ expo)
  some (n, rest)

/-! ## Texts -/

/-- The value of a hexadecimal digit. -/
def hexDigit? (c : Char) : Option Nat :=
  if '0' ≤ c ∧ c ≤ '9' then some (c.toNat - 48)
  else if 'a' ≤ c ∧ c ≤ 'f' then some (c.toNat - 87)
  else if 'A' ≤ c ∧ c ≤ 'F' then some (c.toNat - 55)
  else none

/-- Four hexadecimal digits. -/
def unit? : List Char → Option (Nat × List Char)
  | a :: b :: c :: d :: cs => do
    let a ← hexDigit? a
    let b ← hexDigit? b
    let c ← hexDigit? c
    let d ← hexDigit? d
    some (((a * 16 + b) * 16 + c) * 16 + d, cs)
  | _ => none

/-- What follows a backslash and `u`: one unit, or a high surrogate, an escape and a low one. -/
def codePoint? (cs : List Char) : Option (Char × List Char) := do
  let (u, rest) ← unit? cs
  if 0xD800 ≤ u ∧ u < 0xDC00 then
    match rest with
    | '\\' :: 'u' :: rest =>
      let (v, rest) ← unit? rest
      if 0xDC00 ≤ v ∧ v < 0xE000 then
        some (Char.ofNat (0x10000 + (u - 0xD800) * 0x400 + (v - 0xDC00)), rest)
      else none
    | _ => none
  else if 0xDC00 ≤ u ∧ u < 0xE000 then none
  else some (Char.ofNat u, rest)

/-- The text up to the closing quote, and the rest. -/
def text? : Nat → List Char → List Char → Option (String × List Char)
  | 0, _, _ => none
  | fuel + 1, acc, cs =>
    match cs with
    | [] => none
    | '"' :: rest => some (String.ofList acc.reverse, rest)
    | '\\' :: e :: rest =>
      match e with
      | '"' => text? fuel ('"' :: acc) rest
      | '\\' => text? fuel ('\\' :: acc) rest
      | '/' => text? fuel ('/' :: acc) rest
      | 'b' => text? fuel (Char.ofNat 8 :: acc) rest
      | 'f' => text? fuel (Char.ofNat 12 :: acc) rest
      | 'n' => text? fuel ('\n' :: acc) rest
      | 'r' => text? fuel ('\r' :: acc) rest
      | 't' => text? fuel ('\t' :: acc) rest
      | 'u' => do
        let (c, rest) ← codePoint? rest
        text? fuel (c :: acc) rest
      | _ => none
    | c :: rest => if c.toNat < 0x20 ∨ c = '\\' then none else text? fuel (c :: acc) rest

/-! ## Values -/

/-- The most lists and objects that may be open at a time. -/
def maxDepth : Nat := 127

mutual

/-- A value and the rest; `room` more containers may be opened. -/
def value? : Nat → Nat → List Char → Option (Json × List Char)
  | 0, _, _ => none
  | fuel + 1, room, cs =>
    match skip cs with
    | 'n' :: 'u' :: 'l' :: 'l' :: rest => some (null, rest)
    | 't' :: 'r' :: 'u' :: 'e' :: rest => some (bool true, rest)
    | 'f' :: 'a' :: 'l' :: 's' :: 'e' :: rest => some (bool false, rest)
    | '"' :: rest => (text? (rest.length + 1) [] rest).map fun (s, rest) => (str s, rest)
    | '[' :: rest =>
      if room = 0 then none
      else match skip rest with
        | ']' :: rest => some (arr [], rest)
        | rest => items? fuel (room - 1) [] rest
    | '{' :: rest =>
      if room = 0 then none
      else match skip rest with
        | '}' :: rest => some (obj [], rest)
        | rest => members? fuel (room - 1) [] rest
    | cs => (number? cs).map fun (n, rest) => (num n, rest)

/-- The items up to the closing bracket. -/
def items? : Nat → Nat → List Json → List Char → Option (Json × List Char)
  | 0, _, _, _ => none
  | fuel + 1, room, acc, cs => do
    let (v, rest) ← value? fuel room cs
    match skip rest with
    | ',' :: rest => items? fuel room (v :: acc) rest
    | ']' :: rest => some (arr (v :: acc).reverse, rest)
    | _ => none

/-- The members up to the closing brace. -/
def members? : Nat → Nat → KeyMap Json → List Char → Option (Json × List Char)
  | 0, _, _, _ => none
  | fuel + 1, room, acc, cs =>
    match skip cs with
    | '"' :: rest => do
      let (key, rest) ← text? (rest.length + 1) [] rest
      match skip rest with
      | ':' :: rest =>
        let (v, rest) ← value? fuel room rest
        let acc := KeyMap.put key v acc
        match skip rest with
        | ',' :: rest => members? fuel room acc rest
        | '}' :: rest => some (obj acc, rest)
        | _ => none
      | _ => none
    | _ => none

end

/-- The value that a text holds, alone but for white space. -/
def read? (s : String) : Option Json := do
  let cs := s.toList
  let (v, rest) ← value? (2 * cs.length + 2) maxDepth cs
  if (skip rest).isEmpty then some v else none

end Conform.Json
