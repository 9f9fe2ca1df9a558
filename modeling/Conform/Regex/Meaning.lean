import Conform.Regex.Basic
import Conform.Regex.Property
import Conform.Regex.Reader
import Conform.Text.CaseFold

/-!
# From syntax to regular expressions

`Regex.read` reads an expression. Flags hold from where they are set to the end of the group, and
classes are worked out to sets of characters: folding by case comes before negation. Without the
flag for Unicode the classes are those of ASCII, and what could match half of a character is
refused.
-/

set_option autoImplicit false

namespace Conform.Regex

/-- The flags in force. -/
structure Flags where
  ignoreCase : Bool
  multiLine : Bool
  dotNewline : Bool
  unicode : Bool
  crlf : Bool

/-- The flags at the start of an expression. -/
def Flags.default : Flags := ⟨false, false, false, true, false⟩

/-- The flags after one is set or cleared. -/
def Flags.set (f : Flags) : Flag × Bool → Flags
  | (.ignoreCase, b) => { f with ignoreCase := b }
  | (.multiLine, b) => { f with multiLine := b }
  | (.dotNewline, b) => { f with dotNewline := b }
  | (.unicode, b) => { f with unicode := b }
  | (.crlf, b) => { f with crlf := b }
  | (.swapGreed, _) => f
  | (.verbose, _) => f

/-! ## Classes -/

/-- The ranges of an ASCII class. -/
def AsciiClass.ranges : AsciiClass → CharSet
  | alnum => [(0x30, 0x39), (0x41, 0x5A), (0x61, 0x7A)]
  | alpha => [(0x41, 0x5A), (0x61, 0x7A)]
  | ascii => [(0, 0x7F)]
  | blank => [(9, 9), (0x20, 0x20)]
  | cntrl => [(0, 0x1F), (0x7F, 0x7F)]
  | digit => [(0x30, 0x39)]
  | graph => [(0x21, 0x7E)]
  | lower => [(0x61, 0x7A)]
  | print => [(0x20, 0x7E)]
  | punct => [(0x21, 0x2F), (0x3A, 0x40), (0x5B, 0x60), (0x7B, 0x7E)]
  | space => [(9, 13), (0x20, 0x20)]
  | upper => [(0x41, 0x5A)]
  | word => [(0x30, 0x39), (0x41, 0x5A), (0x5F, 0x5F), (0x61, 0x7A)]
  | xdigit => [(0x30, 0x39), (0x41, 0x46), (0x61, 0x66)]

/-- The ranges of a shorthand. -/
def Shorthand.ranges (unicode : Bool) : Shorthand → CharSet
  | digit => if unicode then CharTables.decimalDigits else AsciiClass.digit.ranges
  | space => if unicode then blankRanges else AsciiClass.space.ranges
  | word => if unicode then CharTables.wordChars else AsciiClass.word.ranges

/-- The set with the characters that differ in case only. Without Unicode only ASCII letters have
such. -/
def foldSet (unicode : Bool) (s : CharSet) : CharSet :=
  let hit (n : Nat) : List (Nat × Nat) :=
    let vs := CaseFold.variants n
    if vs.any fun v => CharSet.mem v s then vs.map fun v => (v, v) else []
  if unicode then
    let images := CaseFold.runs.flatMap fun r =>
      (List.range (r.last - r.first + 1)).filterMap fun i =>
        if i % r.step == 0 then some (r.image + i) else none
    CharSet.ofRanges (s ++ images.flatMap hit)
  else
    CharSet.ofRanges (s ++ (List.range 26).flatMap fun i =>
      if CharSet.mem (0x41 + i) s || CharSet.mem (0x61 + i) s then
        [(0x41 + i, 0x41 + i), (0x61 + i, 0x61 + i)]
      else [])

/-- The set itself, or all other characters. -/
def negateIf (negated : Bool) (s : CharSet) : CharSet := if negated then s.compl else s

/-- The code point of a literal. Without Unicode a byte from 0x80 on is no character. -/
def literalCode (f : Flags) (l : Literal) : Except Error Nat :=
  if !f.unicode && l.byte && 0x7F < l.char.toNat then throw ⟨.invalidUtf8, l.span, none⟩
  else return l.char.toNat

/-- The code point of a literal inside a class, which without Unicode holds bytes only. -/
def classCode (f : Flags) (l : Literal) : Except Error Nat :=
  if !f.unicode && !l.byte && 0x7F < l.char.toNat then throw ⟨.unicodeNotAllowed, l.span, none⟩
  else return l.char.toNat

mutual

/-- The set of a class. -/
def ClassTree.set (f : Flags) : ClassTree → Except Error CharSet
  | .char l => do
    let n ← classCode f l
    return [(n, n)]
  | .range a b => do
    let m ← classCode f a
    let n ← classCode f b
    return [(m, n)]
  | .ascii kind negated => return negateIf negated kind.ranges
  | .shorthand kind negated _ => return negateIf negated (kind.ranges f.unicode)
  | .property name negated span =>
    if !f.unicode then throw ⟨.unicodeNotAllowed, span, none⟩
    else match propertySet name with
      | .error cause => throw ⟨cause, span, none⟩
      | .ok (s, otherwise) =>
        return negateIf (negated != otherwise) (if f.ignoreCase then foldSet f.unicode s else s)
  | .bracket t negated _ => do
    let s ← ClassTree.set f t
    return negateIf negated (if f.ignoreCase then foldSet f.unicode s else s)
  | .union ts => ClassTree.sets f ts
  | .op kind l r => do
    let a ← ClassTree.set f l
    let b ← ClassTree.set f r
    let a := if f.ignoreCase then foldSet f.unicode a else a
    let b := if f.ignoreCase then foldSet f.unicode b else b
    return match kind with
      | .intersection => a.inter b
      | .difference => a.diff b
      | .symmetricDifference => a.symmDiff b

/-- The union of the sets of classes. -/
def ClassTree.sets (f : Flags) : List ClassTree → Except Error CharSet
  | [] => return []
  | t :: ts => do
    let a ← ClassTree.set f t
    let b ← ClassTree.sets f ts
    return a.union b

end

/-- The stretch of a class. -/
def ClassTree.span : ClassTree → Span
  | .shorthand _ _ s => s
  | .property _ _ s => s
  | .bracket _ _ s => s
  | _ => ⟨0, 0⟩

/-! ## Expressions -/

/-- The condition an assertion stands for under the flags. -/
def Assertion.look (f : Flags) : Assertion → Look
  | lineStart => if f.multiLine then .lineStart f.crlf else .textStart
  | lineEnd => if f.multiLine then .lineEnd f.crlf else .textEnd
  | textStart => .textStart
  | textEnd => .textEnd
  | boundary => .boundary f.unicode
  | notBoundary => .notBoundary f.unicode
  | wordStart => .wordStart f.unicode
  | wordEnd => .wordEnd f.unicode
  | wordStartHalf => .wordStartHalf f.unicode
  | wordEndHalf => .wordEndHalf f.unicode

/-- The characters of a dot. -/
def dotSet (f : Flags) : CharSet :=
  if f.dotNewline then [(0, CharSet.maxCode)]
  else if f.crlf then CharSet.compl [(10, 10), (13, 13)]
  else CharSet.compl [(10, 10)]

mutual

/-- The expression of a piece of syntax, and the flags behind it. -/
def Ast.meaning (f : Flags) : Ast → Except Error (Regex × Flags)
  | .empty => return (.empty, f)
  | .flags change => return (.empty, change.foldl Flags.set f)
  | .char l => do
    let n ← literalCode f l
    let s : CharSet := [(n, n)]
    return (.chars (if f.ignoreCase then foldSet f.unicode s else s), f)
  | .dot span =>
    if f.unicode then return (.chars (dotSet f), f) else throw ⟨.invalidUtf8, span, none⟩
  | .assertion kind => return (.look (kind.look f), f)
  | .cls t => do
    let s ← t.set f
    if !f.unicode && s.any (fun r => 0x7F < r.2) then throw ⟨.invalidUtf8, t.span, none⟩
    return (.chars s, f)
  | .rep body least most => do
    let (r, f) ← Ast.meaning f body
    return (.times r least most, f)
  | .group change body => do
    let (r, _) ← Ast.meaning (change.foldl Flags.set f) body
    return (r, f)
  | .alt branches => Ast.choice f branches
  | .cat parts => Ast.row f parts

/-- The parts one behind the other. -/
def Ast.row (f : Flags) : List Ast → Except Error (Regex × Flags)
  | [] => return (.empty, f)
  | a :: as => do
    let (r, f) ← Ast.meaning f a
    let (s, f) ← Ast.row f as
    return (.seq r s, f)

/-- One of the branches. Flags set in a branch hold in the later ones. -/
def Ast.choice (f : Flags) : List Ast → Except Error (Regex × Flags)
  | [] => return (.chars [], f)
  | a :: as => do
    let (r, f) ← Ast.meaning f a
    let (s, f) ← Ast.choice f as
    return (.alt r s, f)

end

/-- The regular expression that a text writes, or what is wrong with it. -/
def read (source : String) : Except Error Regex := do
  let a ← Ast.read source
  let (r, _) ← a.meaning .default
  if maxBulk < r.bulk then throw ⟨.tooLarge, ⟨0, source.length⟩, none⟩
  return r

end Conform.Regex
