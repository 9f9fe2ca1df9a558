import Conform.Yaml.Cursor

/-!
# Plain scalars

A plain scalar is a row of words. It ends before a colon with a gap behind it, a comment, the mark
of a document, and in a flow collection before the characters of the collection; in a block it ends
also with the last line that is indented enough.
-/

set_option autoImplicit false

namespace Conform.Yaml.Scan

/-- The characters that make up flow collections. -/
def isFlowChar (c : Char) : Bool := [',', '[', ']', '{', '}'].contains c

/-- The word at the head of a text, which may be empty. In a flow collection a colon may not stand
before a character of the collection or a question mark. -/
def word? (inFlow : Bool) : List Char → Option (List Char)
  | [] => some []
  | c :: cs =>
    if isGap (some c) || (c == ':' && isGap cs.head?) then some []
    else if inFlow && isFlowChar c then some []
    else if inFlow && c == ':' && cs.head?.any (fun d => isFlowChar d || d == '?') then none
    else (word? inFlow cs).map (c :: ·)

/-- Takes a plain scalar. Its lines after the first begin at `margin` or further right. The answer
says also if it ended behind a line break. -/
def plain (inFlow : Bool) (margin : Nat) : Scan (String × Bool) := do
  go (← room) [] ⟨[], []⟩
where
  /-- Goes on behind the characters so far, reversed, and a gap. -/
  go : Nat → List Char → Gap → Scan (String × Bool)
  | 0, _, _ => failure
  | fuel + 1, taken, before => do
    let stop : String × Bool := (String.ofList taken.reverse, !before.breaks.isEmpty)
    if (← atDocumentMark) || (← peek) == some '#' then return stop
    let word ← word? inFlow (← get).rest
    if word.isEmpty then return stop
    skip word.length
    let taken := word.reverse ++ (before.folded.reverse ++ taken)
    if (← peek).any fun c => isGap (some c) then
      let between ← gap margin false
      if !inFlow && (← get).column < margin then
        return (String.ofList taken.reverse, !between.breaks.isEmpty)
      go fuel taken between
    else return (String.ofList taken.reverse, false)

end Conform.Yaml.Scan
