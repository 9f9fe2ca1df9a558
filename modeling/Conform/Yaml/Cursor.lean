/-!
# Reading a text with lines and columns

A `Cursor` is a place in a text: what is left of it, and where that begins. `Scan` is a reader that
moves a cursor or fails. Line breaks count as one whatever their spelling, and `lineBreak` gives
every spelling of a plain one as a newline.
-/

set_option autoImplicit false

namespace Conform.Yaml

/-! ## Characters -/

/-- A character that a YAML text may contain. -/
def permitted (c : Char) : Bool :=
  let n := c.toNat
  n == 0x9 || n == 0xA || n == 0xD || (0x20 ≤ n && n ≤ 0x7E) || n == 0x85 ||
    (0xA0 ≤ n && n != 0xFFFE && n != 0xFFFF)

/-- The mark that may stand at the start of a line. -/
def isByteOrderMark (c : Char) : Bool := c.toNat == 0xFEFF

/-- The blanks within a line. -/
def isTabOrSpace (c : Char) : Bool := c == ' ' || c == '\t'

/-- The characters that break lines. -/
def isBreak (c : Char) : Bool :=
  c == '\r' || c == '\n' || c.toNat == 0x85 || c.toNat == 0x2028 || c.toNat == 0x2029

/-- A blank, a line break, or the end of the text. -/
def isGap : Option Char → Bool
  | none => true
  | some c => isTabOrSpace c || isBreak c

/-- A line break, or the end of the text. -/
def isLineEnd : Option Char → Bool
  | none => true
  | some c => isBreak c

/-- The characters of names. -/
def isNameChar (c : Char) : Bool := c.isAlphanum || c == '_' || c == '-'

/-! ## Cursors -/

/-- A place in a text. -/
structure Cursor where
  /-- What is left of the text. -/
  rest : List Char
  /-- How many characters are left behind. -/
  index : Nat
  line : Nat
  column : Nat

/-- The start of a text. -/
def Cursor.start (cs : List Char) : Cursor := ⟨cs, 0, 0, 0⟩

/-- A reader that moves a cursor or fails. -/
abbrev Scan (α : Type) := StateT Cursor Option α

namespace Scan

/-- The character `n` places ahead. -/
def ahead (n : Nat) : Scan (Option Char) := do return (← get).rest[n]?

/-- The next character. -/
def peek : Scan (Option Char) := ahead 0

/-- Moves over `n` characters of a line. -/
def skip (n : Nat) : Scan Unit :=
  modify fun c => ⟨c.rest.drop n, c.index + n, c.line, c.column + n⟩

/-- Takes a character of a line. -/
def char : Scan Char := do
  match ← peek with
  | none => failure
  | some c => skip 1; return c

/-- Takes the characters of a line up to one that fails the test. -/
def takeWhile (p : Char → Bool) : Scan (List Char) := do
  let taken := (← get).rest.takeWhile p
  skip taken.length
  return taken

/-- Moves over blanks. -/
def skipBlanks : Scan Unit := do let _ ← takeWhile isTabOrSpace

/-- Moves to the end of the line. -/
def skipLine : Scan Unit := do let _ ← takeWhile fun c => !isBreak c

/-- Takes a line break, if there is one. A return, a newline, the two together and a next-line are
all given as a newline; the line and paragraph separators are kept. -/
def lineBreak : Scan (List Char) := do
  let c ← get
  match c.rest with
  | '\r' :: '\n' :: rest => set (Cursor.mk rest (c.index + 2) (c.line + 1) 0); return ['\n']
  | b :: rest =>
    if isBreak b then
      set (Cursor.mk rest (c.index + 1) (c.line + 1) 0)
      return [if b.toNat == 0x2028 || b.toNat == 0x2029 then b else '\n']
    else return []
  | [] => return []

/-- The mark of a document's start or end: three characters at the start of a line, and a gap. -/
def atDocumentMark : Scan Bool := do
  let c ← get
  let marked := ['-', '-', '-'].isPrefixOf c.rest || ['.', '.', '.'].isPrefixOf c.rest
  return c.column == 0 && marked && isGap c.rest[3]?

/-- What may follow a name or a directive on its line: blanks and a comment. -/
def lineTail : Scan Unit := do
  skipBlanks
  if (← peek) = some '#' then skipLine
  if isLineEnd (← peek) then let _ ← lineBreak
  else failure

/-- More steps than any reader needs that moves forward in every step. -/
def room : Scan Nat := do return (← get).rest.length + 1

end Scan

/-! ## Gaps between words -/

/-- The blanks and line breaks between two words of a scalar. -/
structure Gap where
  /-- The blanks before the first line break. -/
  blanks : List Char
  breaks : List Char

/-- What a gap stands for: its blanks within a line, a space for a single line break, and otherwise
the breaks after the first one. -/
def Gap.folded (g : Gap) : List Char :=
  match g.breaks with
  | [] => g.blanks
  | '\n' :: [] => [' ']
  | '\n' :: breaks => breaks
  | breaks => breaks

/-- What stands for a gap after an escaped line break: its other breaks. -/
def Gap.joined (g : Gap) : List Char := g.breaks

/-- Takes blanks and line breaks. A tab in a column before `margin` is refused on all lines but the
first; `fresh` says that the first line is one of these. -/
def Scan.gap (margin : Nat) (fresh : Bool) : Scan Gap := do
  go (← Scan.room) [] (if fresh then some [] else none)
where
  /-- Goes on with the blanks of the first line, reversed, or with the breaks so far, reversed. -/
  go : Nat → List Char → Option (List Char) → Scan Gap
  | 0, _, _ => failure
  | fuel + 1, blanks, breaks => do
    match ← Scan.peek with
    | none => return ⟨blanks.reverse, (breaks.getD []).reverse⟩
    | some c =>
      if isTabOrSpace c then
        if breaks.isSome && c == '\t' && (← get).column < margin then failure
        Scan.skip 1
        go fuel (c :: blanks) breaks
      else if isBreak c then
        let b ← Scan.lineBreak
        go fuel blanks (some (b ++ breaks.getD []))
      else return ⟨blanks.reverse, (breaks.getD []).reverse⟩

end Conform.Yaml
