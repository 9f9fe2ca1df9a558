import Conform.Yaml.Cursor

/-!
# Block scalars

A block scalar is the text of the lines that are indented below its header. The header says whether
its lines are folded, which line breaks at the end are kept, and how far it is indented, if that is
not to be found from its lines.
-/

set_option autoImplicit false

namespace Conform.Yaml

/-- What becomes of the line breaks at the end of a block scalar. -/
inductive Chomping
  /-- None is kept. -/
  | strip
  /-- That of the last line is kept. -/
  | clip
  /-- All are kept. -/
  | keep
deriving DecidableEq

/-- A line of a block scalar that is not empty. -/
structure BlockLine where
  text : List Char
  /-- Its line break, which only the last line of a text lacks. -/
  ending : List Char
  /-- The line breaks of the empty lines behind it. -/
  empty : List Char

/-- The line begins with a blank. -/
def BlockLine.isIndented (l : BlockLine) : Bool := l.text.head?.any isTabOrSpace

/-- What stands for the line breaks between two lines. Folding makes a single one a space and drops
the first one of several, unless one of the lines begins with a blank. -/
def BlockLine.separator (folded : Bool) (l next : BlockLine) : List Char :=
  if folded && l.ending.head? == some '\n' && !l.isIndented && !next.isIndented then
    if l.empty.isEmpty then [' '] else l.empty
  else l.ending ++ l.empty

/-- The text of the lines. -/
def BlockLine.joined (folded : Bool) (chomping : Chomping) : List BlockLine → List Char
  | [] => []
  | [l] =>
    match chomping with
    | .strip => l.text
    | .clip => l.text ++ l.ending
    | .keep => l.text ++ l.ending ++ l.empty
  | l :: next :: ls => l.text ++ l.separator folded next ++ joined folded chomping (next :: ls)

namespace Scan

/-- Takes the sign for chomping, if there is one. -/
def chomping? : Scan (Option Chomping) := do
  match ← peek with
  | some '+' => skip 1; return some .keep
  | some '-' => skip 1; return some .strip
  | _ => return none

/-- Takes the digit for the indentation, if there is one; zero is refused. -/
def increment? : Scan (Option Nat) := do
  match ← peek with
  | some c =>
    if c == '0' then failure
    else if c.isDigit then skip 1; return some (c.toNat - 48)
    else return none
  | none => return none

/-- Takes what follows the indicator of a block scalar on its line: the sign and the digit in either
order, and a comment. -/
def blockHeader : Scan (Chomping × Option Nat) := do
  let header ← match ← chomping? with
    | some c => pure (c, ← increment?)
    | none => do
      let i ← increment?
      pure ((← chomping?).getD .clip, i)
  lineTail
  return header

/-- Moves over empty lines and the indentation of the next line. The indentation is `indent` wide,
or as wide as the text has it. Gives the line breaks and the widest indentation that was seen. -/
def emptyLines (indent : Option Nat) : Scan (List Char × Nat) := do
  go (← room) [] 0
where
  /-- Goes on behind the line breaks so far, reversed. -/
  go : Nat → List Char → Nat → Scan (List Char × Nat)
  | 0, _, _ => failure
  | fuel + 1, breaks, widest => do
    let c ← get
    let spaces := (c.rest.takeWhile (· == ' ')).length
    skip (match indent with | none => spaces | some n => min spaces (n - c.column))
    let column := (← get).column
    let widest := max widest column
    match ← peek with
    | some c =>
      if c == '\t' && indent.all (column < ·) then failure
      else if isBreak c then go fuel ((← lineBreak) ++ breaks) widest
      else return (breaks.reverse, widest)
    | none => return (breaks.reverse, widest)

/-- Takes the lines that are indented by `indent`. -/
def blockLines (indent : Nat) : Nat → Scan (List BlockLine)
  | 0 => failure
  | fuel + 1 => do
    if (← get).column = indent && (← peek).isSome then
      let text ← takeWhile fun c => !isBreak c
      let ending ← lineBreak
      let (empty, _) ← emptyLines (some indent)
      return ⟨text, ending, empty⟩ :: (← blockLines indent fuel)
    else return []

/-- Takes a block scalar. It is indented further than the block around it, whose own content begins
at `margin - 1`, by the digit of its header, or at least at `margin`. -/
def block (folded : Bool) (margin : Nat) : Scan String := do
  skip 1
  let (chomping, increment) ← blockHeader
  let indent? := increment.map (margin - 1 + ·)
  let (first, widest) ← emptyLines indent?
  let indent := indent?.getD (max widest (max margin 1))
  let lines ← blockLines indent (← room)
  let kept := if lines.isEmpty && chomping != .keep then [] else first
  return String.ofList (kept ++ BlockLine.joined folded chomping lines)

end Scan

end Conform.Yaml
