import Conform.Yaml.Cursor
import Conform.Yaml.Literal

/-!
# Quoted scalars

Single quotes know one escape, the quote written twice. Double quotes have escapes with a backslash,
also of a line break. Line breaks are folded in both, and no line may begin with the mark of a
document.
-/

set_option autoImplicit false

namespace Conform.Yaml.Scan

/-- The character of an escape with one letter. -/
def escaped? (c : Char) : Option Char :=
  match c with
  | '0' => some (Char.ofNat 0)
  | 'a' => some (Char.ofNat 7)
  | 'b' => some (Char.ofNat 8)
  | 't' => some '\t'
  | '\t' => some '\t'
  | 'n' => some '\n'
  | 'v' => some (Char.ofNat 0xB)
  | 'f' => some (Char.ofNat 0xC)
  | 'r' => some '\r'
  | 'e' => some (Char.ofNat 0x1B)
  | ' ' => some ' '
  | '"' => some '"'
  | '/' => some '/'
  | '\\' => some '\\'
  | 'N' => some (Char.ofNat 0x85)
  | '_' => some (Char.ofNat 0xA0)
  | 'L' => some (Char.ofNat 0x2028)
  | 'P' => some (Char.ofNat 0x2029)
  | _ => none

/-- The number of hexadecimal digits that follow the letter of an escape. -/
def hexWidth? (c : Char) : Option Nat :=
  match c with
  | 'x' => some 2
  | 'u' => some 4
  | 'U' => some 8
  | _ => none

/-- The character with a code point. -/
def codePoint? (n : Nat) : Option Char :=
  if h : n.isValidChar then some (Char.ofNatAux n h) else none

/-- Takes an escape, of which the backslash is taken. -/
def escape : Scan Char := do
  let c ← char
  match hexWidth? c with
  | none => escaped? c
  | some width =>
    let ds := (← get).rest.take width
    if ds.length < width then failure
    skip width
    let n ← digits? 16 ds
    codePoint? n

/-- Takes a quoted scalar with its quotes. -/
def quoted (double : Bool) : Scan String := do
  skip 1
  go (← room) []
where
  /-- Goes on behind the characters so far, reversed. -/
  go : Nat → List Char → Scan String
  | 0, _ => failure
  | fuel + 1, taken => do
    if ← atDocumentMark then failure
    match ← peek, ← ahead 1 with
    | none, _ => failure
    | some c, next =>
      if isGap (some c) then
        go fuel ((← gap 0 false).folded.reverse ++ taken)
      else if double then
        if c = '"' then
          skip 1
          return String.ofList taken.reverse
        else if c = '\\' then
          skip 1
          if next.any isBreak then
            let _ ← lineBreak
            go fuel ((← gap 0 true).joined.reverse ++ taken)
          else go fuel ((← escape) :: taken)
        else skip 1; go fuel (c :: taken)
      else if c = '\'' then
        if next = some '\'' then skip 2; go fuel (c :: taken)
        else
          skip 1
          return String.ofList taken.reverse
      else skip 1; go fuel (c :: taken)

end Conform.Yaml.Scan
