import Conform.Number.Binary64

/-!
# Decimal text of doubles

`shortest` gives the fewest decimal digits that read back as the same double, and of those the
digits nearest to it. A `Layout` says how digits are written; `Layout.json` and `Layout.plain` are
the two in use. `ofText?` reads a double from a decimal literal.
-/

set_option autoImplicit false

namespace Conform

/-- A positive number `d₁.d₂d₃… * 10 ^ exponent`, the first digit not being zero. -/
structure Decimal where
  digits : List Char
  exponent : Int

namespace Decimal

/-- The decimal digits of `coefficient * 10 ^ exponent` without trailing zeros. -/
def ofCoefficient (coefficient : Nat) (exponent : Int) : Decimal :=
  let ds := Nat.toDigits 10 coefficient
  ⟨(ds.reverse.dropWhile (· == '0')).reverse, exponent + ds.length - 1⟩

/-! ## The shortest decimal of a double -/

/-- The reals that round to a positive double, in units of `2 ^ (-1076)`: `low` to `high` around
`mid`, the two ends included when `closed`. -/
structure Cell where
  low : Nat
  mid : Nat
  high : Nat
  closed : Bool

/-- Half a gap to each neighbour; below a power of two the gap is half as wide. Ties go to the even
significand, so the ends belong to the cell of an even one. -/
def cell (x : Binary64) : Cell :=
  let gap := Nat.pow 2 x.shift
  let mid := 4 * x.magnitude
  let below := if x.significand = Nat.pow 2 52 ∧ 1 < x.biased then gap else 2 * gap
  ⟨mid - below, mid, mid + 2 * gap, x.significand % 2 == 0⟩

/-- `num / den` is a real of the cell. -/
def Cell.contains (c : Cell) (num den : Nat) : Bool :=
  if c.closed then c.low * den ≤ num && num ≤ c.high * den
  else c.low * den < num && num < c.high * den

/-- The multiple of `10 ^ exponent` in the cell that is nearest to its middle, as a coefficient.
Only the two neighbours of the middle need a look. -/
def Cell.onGrid? (c : Cell) (exponent : Int) : Option Nat :=
  let step := Nat.pow 2 1076 * Nat.pow 10 exponent.toNat
  let den := Nat.pow 10 (-exponent).toNat
  let down := c.mid * den / step
  let up := down + 1
  match c.contains (down * step) den, c.contains (up * step) den with
  | true, true => some (if c.mid * den - down * step ≤ up * step - c.mid * den then down else up)
  | true, false => some down
  | false, true => some up
  | false, false => none

/-- The decimal exponent of the leading digit of a cell's middle. -/
def Cell.exponent (c : Cell) : Int :=
  (Nat.toDigits 10 (c.mid * Nat.pow 10 400 / Nat.pow 2 1076)).length - 401

/-- The fewest digits that read back as a positive finite `x`: the coarsest decimal grid with a
point in the cell. Seventeen digits always do. -/
def shortest (x : Binary64) : Decimal :=
  let c := cell x
  let found := (List.range 17).findSome? fun (k : Nat) =>
    let e := c.exponent - (k : Int)
    (c.onGrid? e).map fun n => ofCoefficient n e
  found.getD (ofCoefficient (x.magnitude / Binary64.unit) 0)

/-! ## Layouts -/

/-- How the digits of a double are written. -/
structure Layout where
  /-- Exponents of the first digit for which no exponent is written. -/
  positional : Int → Bool
  /-- A whole number gets the ending `.0`. -/
  fraction : Bool
  /-- What stands before an exponent that is not negative. -/
  plus : String

/-- JSON text: positional for exponents from -5 to 15, a whole number with `.0`, otherwise an
exponent with its sign. -/
def Layout.json : Layout := ⟨fun e => -5 ≤ e && e ≤ 15, true, "+"⟩

/-- Text in messages: always positional, a whole number without a point. -/
def Layout.plain : Layout := ⟨fun _ => true, false, ""⟩

/-- Digits without an exponent. -/
def positionalText (d : Decimal) (fraction : Bool) : String :=
  let ds := d.digits
  if d.exponent < 0 then
    "0." ++ String.ofList (List.replicate (-d.exponent - 1).toNat '0' ++ ds)
  else
    let n := d.exponent.toNat + 1
    let whole := String.ofList (ds.take n ++ List.replicate (n - ds.length) '0')
    match ds.drop n with
    | [] => if fraction then whole ++ ".0" else whole
    | rest => whole ++ "." ++ String.ofList rest

/-- Digits with a point behind the first one, and an exponent. -/
def scientificText (d : Decimal) (plus : String) : String :=
  let head := match d.digits with
    | c :: d :: ds => String.ofList (c :: '.' :: d :: ds)
    | ds => String.ofList ds
  head ++ "e" ++ (if d.exponent < 0 then "-" else plus) ++ toString d.exponent.natAbs

/-- The text of a double. -/
def Layout.render (l : Layout) (x : Binary64) : String :=
  if x.isNaN then "NaN"
  else
    (if x.isNegative then "-" else "") ++
      if !x.isFinite then "inf"
      else if x.magnitude = 0 then if l.fraction then "0.0" else "0"
      else
        let d := shortest x
        if l.positional d.exponent then positionalText d l.fraction else scientificText d l.plus

/-! ## Reading -/

/-- The value of a run of digits. -/
def digitsValue (ds : List Char) : Nat := ds.foldl (fun n c => 10 * n + (c.toNat - 48)) 0

/-- The optional exponent of a literal, up to the end of the text. -/
def exponentOfText? : List Char → Option Int
  | [] => some 0
  | e :: cs =>
    if e != 'e' && e != 'E' then none
    else
      let (negative, ds) := match cs with
        | '-' :: ds => (true, ds)
        | '+' :: ds => (false, ds)
        | ds => (false, ds)
      if ds.isEmpty || !ds.all Char.isDigit then none
      else some (if negative then -(digitsValue ds : Int) else digitsValue ds)

/-- A literal without a sign, `digits [. digits] [exponent]` with at least one digit before the
exponent, as a coefficient and a power of ten. -/
def unsignedOfText? (cs : List Char) : Option (Nat × Int) :=
  let whole := cs.takeWhile Char.isDigit
  let rest := cs.dropWhile Char.isDigit
  let (frac, tail) := match rest with
    | '.' :: rest => (rest.takeWhile Char.isDigit, rest.dropWhile Char.isDigit)
    | rest => ([], rest)
  if whole.isEmpty && frac.isEmpty then none
  else (exponentOfText? tail).map fun e => (digitsValue (whole ++ frac), e - frac.length)

end Decimal

namespace Binary64

/-- Reads a decimal literal with an optional sign, or `inf`, `infinity` or `nan` in any case. -/
def ofText? (s : String) : Option Binary64 :=
  let (negative, cs) := match s.toList with
    | '-' :: cs => (true, cs)
    | '+' :: cs => (false, cs)
    | cs => (false, cs)
  let lower := String.ofList (cs.map Char.toLower)
  if lower = "inf" ∨ lower = "infinity" then some (withSign negative infinity)
  else if lower = "nan" then some (withSign negative nan)
  else (Decimal.unsignedOfText? cs).map fun (c, e) => ofDecimal negative c e

/-- The shortest text without an exponent, a whole number without a point. -/
def plainText (x : Binary64) : String := Decimal.Layout.plain.render x

/-- The text in JSON of a finite double. -/
def jsonText (x : Binary64) : String := Decimal.Layout.json.render x

end Binary64

end Conform
