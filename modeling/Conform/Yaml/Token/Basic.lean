import Conform.Yaml.Literal
import Conform.Yaml.Cursor

/-!
# Tokens

The tokens of a YAML text, and the reading of those that are names: anchors, aliases, tags and
directives.
-/

set_option autoImplicit false

namespace Conform.Yaml

/-- A token. Blocks begin and end where the indentation says so; everything else is written. -/
inductive Token
  | version (major minor : Nat)
  | handle (handle stem : String)
  | documentStart
  | documentEnd
  | blockSeq
  | blockMap
  | blockEnd
  | flowSeq
  | flowSeqEnd
  | flowMap
  | flowMapEnd
  /-- A dash before an item. -/
  | item
  /-- A comma in a flow collection. -/
  | comma
  | key
  | value
  | alias (name : String)
  | anchor (name : String)
  | tag (handle suffix : String)
  | scalar (text : String) (plain : Bool)
deriving DecidableEq

namespace Scan

/-- Takes the name of an anchor or an alias, and the sign before it. -/
def anchorName : Scan String := do
  skip 1
  let name ← takeWhile isNameChar
  let next ← peek
  if name.isEmpty then failure
  if isGap next || next.any ['?', ':', ',', ']', '}', '%', '@', '\x60'].contains then
    return String.ofList name
  else failure

/-! ## Tags -/

/-- The signs in tags. -/
def tagSigns : List Char :=
  [';', '/', '?', ':', '@', '&', '=', '+', '$', '.', '%', '!', '~', '*', '\'', '(', ')']

/-- The characters of tags. The whole tag in angle brackets and the stem of a directive may have
flow characters too. -/
def isTagChar (whole : Bool) (c : Char) : Bool :=
  isNameChar c || tagSigns.contains c || (whole && [',', '[', ']'].contains c)

/-- The byte that a percent sign and two digits stand for, and the rest. -/
def percentByte? : List Char → Option (Nat × List Char)
  | '%' :: a :: b :: cs => (digits? 16 [a, b]).map fun n => (n, cs)
  | _ => none

/-- The next `n` bytes of a character, added to the bits of those before, and the rest. -/
def moreBytes? : Nat → Nat → List Char → Option (Nat × List Char)
  | 0, bits, cs => some (bits, cs)
  | n + 1, bits, cs => do
    let (b, cs) ← percentByte? cs
    if b / 64 = 2 then moreBytes? n (64 * bits + b % 64) cs else none

/-- The character that bytes with percent signs stand for, and the rest. -/
def percentChar? (cs : List Char) : Option (Char × List Char) := do
  let (b, cs) ← percentByte? cs
  let (n, cs) ←
    if b < 0x80 then some (b, cs)
    else if b / 32 = 6 then moreBytes? 1 (b % 32) cs
    else if b / 16 = 14 then moreBytes? 2 (b % 16) cs
    else if b / 8 = 30 then moreBytes? 3 (b % 8) cs
    else none
  let c ← if h : n.isValidChar then some (Char.ofNatAux n h) else none
  return (c, cs)

/-- A tag with its percent signs resolved. -/
def resolved? : Nat → List Char → Option (List Char)
  | 0, _ => none
  | _, [] => some []
  | fuel + 1, c :: cs =>
    if c = '%' then do
      let (c, cs) ← percentChar? (c :: cs)
      (resolved? fuel cs).map (c :: ·)
    else (resolved? fuel cs).map (c :: ·)

/-- Takes the characters of a tag, which may be none. -/
def tagText (whole : Bool) : Scan String := do
  let cs ← takeWhile (isTagChar whole)
  let cs ← resolved? (cs.length + 1) cs
  return String.ofList cs

/-- Takes a handle: an exclamation mark, and perhaps a name and one more. -/
def tagHandle : Scan String := do
  if (← peek) != some '!' then failure
  skip 1
  let name ← takeWhile isNameChar
  if (← peek) = some '!' then
    skip 1
    return String.ofList ('!' :: name ++ ['!'])
  else return String.ofList ('!' :: name)

/-- Takes a tag: whole in angle brackets, or a handle and a suffix. A name behind the first mark
without a second one belongs to the suffix. A mark alone is the whole tag. -/
def tag (inFlow : Bool) : Scan Token := do
  let token ←
    if (← ahead 1) = some '<' then do
      skip 2
      let text ← tagText true
      if text.isEmpty || (← peek) != some '>' then failure
      skip 1
      pure (Token.tag "" text)
    else do
      let handle ← tagHandle
      if handle.length > 1 && handle.endsWith "!" then do
        let suffix ← tagText false
        if suffix.isEmpty then failure
        pure (Token.tag handle suffix)
      else do
        let suffix := String.ofList (handle.toList.drop 1) ++ (← tagText false)
        pure (if suffix.isEmpty then Token.tag "" "!" else Token.tag "!" suffix)
  let next ← peek
  if isGap next || (inFlow && next == some ',') then return token else failure

/-! ## Directives -/

/-- Takes a number of at most nine digits. -/
def versionNumber : Scan Nat := do
  let ds ← takeWhile Char.isDigit
  if ds.isEmpty || 9 < ds.length then failure
  digits? 10 ds

/-- Takes a directive with its line. -/
def directive : Scan Token := do
  skip 1
  let name ← takeWhile isNameChar
  if !isGap (← peek) then failure
  skipBlanks
  let token ←
    if name = ['Y', 'A', 'M', 'L'] then do
      let major ← versionNumber
      if (← char) != '.' then failure
      pure (Token.version major (← versionNumber))
    else if name = ['T', 'A', 'G'] then do
      let handle ← tagHandle
      if handle.length > 1 && !handle.endsWith "!" then failure
      if !(← peek).any isTabOrSpace then failure
      skipBlanks
      let stem ← tagText true
      if stem.isEmpty || !isGap (← peek) then failure
      pure (Token.handle handle stem)
    else failure
  lineTail
  return token

end Scan

end Conform.Yaml
