/-!
# Errors in regular expressions

An error names its cause and the stretch of the expression it is found in. `Regex.Error.render`
shows the expression with the stretches underlined.
-/

set_option autoImplicit false

namespace Conform.Regex

/-- A stretch of an expression: the positions from `start` up to `stop`, counted in characters. -/
structure Span where
  start : Nat
  stop : Nat
deriving DecidableEq

/-- What is wrong with an expression. -/
inductive Cause
  | classEscape
  | classRange
  | classRangeBoundary
  | classUnclosed
  | decimalInvalid
  | hexEmpty
  | hexNoScalar
  | hexDigit
  | escapeEnd
  | escapeUnknown
  | flagDangling
  | flagDuplicate
  | flagNegatedTwice
  | flagEnd
  | flagUnknown
  | groupNameDuplicate
  | groupNameEmpty
  | groupNameInvalid
  | groupNameEnd
  | groupUnclosed
  | groupUnopened
  | nesting
  | countRange
  | countDecimal
  | countUnclosed
  | nothingToRepeat
  | boundaryUnclosed
  | boundaryUnknown
  | boundaryEnd
  | unicodeClassInvalid
  | backreference
  | lookAround
  | unicodeNotAllowed
  | invalidUtf8
  | propertyUnknown
  | propertyValueUnknown
  /-- The expression is too large once its repetitions are written out. -/
  | tooLarge
deriving DecidableEq

/-- The deepest nesting of groups, classes and repetitions. -/
def maxNesting : Nat := 250

/-- The wording of a cause. -/
def Cause.message : Cause → String
  | classEscape => "invalid escape sequence found in character class"
  | classRange => "invalid character class range, the start must be <= the end"
  | classRangeBoundary => "invalid range boundary, must be a literal"
  | classUnclosed => "unclosed character class"
  | decimalInvalid => "decimal literal invalid"
  | hexEmpty => "hexadecimal literal empty"
  | hexNoScalar => "hexadecimal literal is not a Unicode scalar value"
  | hexDigit => "invalid hexadecimal digit"
  | escapeEnd => "incomplete escape sequence, reached end of pattern prematurely"
  | escapeUnknown => "unrecognized escape sequence"
  | flagDangling => "dangling flag negation operator"
  | flagDuplicate => "duplicate flag"
  | flagNegatedTwice => "flag negation operator repeated"
  | flagEnd => "expected flag but got end of regex"
  | flagUnknown => "unrecognized flag"
  | groupNameDuplicate => "duplicate capture group name"
  | groupNameEmpty => "empty capture group name"
  | groupNameInvalid => "invalid capture group character"
  | groupNameEnd => "unclosed capture group name"
  | groupUnclosed => "unclosed group"
  | groupUnopened => "unopened group"
  | nesting => s!"exceed the maximum number of nested parentheses/brackets ({maxNesting})"
  | countRange => "invalid repetition count range, the start must be <= the end"
  | countDecimal => "repetition quantifier expects a valid decimal"
  | countUnclosed => "unclosed counted repetition"
  | nothingToRepeat => "repetition operator missing expression"
  | boundaryUnclosed =>
    "special word boundary assertion is either unclosed or contains an invalid character"
  | boundaryUnknown =>
    "unrecognized special word boundary assertion, valid choices are: start, end, start-half " ++
      "or end-half"
  | boundaryEnd =>
    "found either the beginning of a special word boundary or a bounded repetition on a \\b " ++
      "with an opening brace, but no closing brace"
  | unicodeClassInvalid => "invalid Unicode character class"
  | backreference => "backreferences are not supported"
  | lookAround => "look-around, including look-ahead and look-behind, is not supported"
  | unicodeNotAllowed => "Unicode not allowed here"
  | invalidUtf8 => "pattern can match invalid UTF-8"
  | propertyUnknown => "Unicode property not found"
  | propertyValueUnknown => "Unicode property value not found"
  | tooLarge => "Compiled regex exceeds size limit of 10485760 bytes."

/-- An error in an expression; `earlier` is the first of two stretches that are in conflict. -/
structure Error where
  cause : Cause
  span : Span
  earlier : Option Span
deriving DecidableEq

/-! ## Rendering -/

/-- The lines of an expression, without their line breaks. A break at the end opens no line. -/
def linesOf (text : List Char) : List (List Char) :=
  let rec go : List Char → List Char → List (List Char)
    | acc, [] => if acc.isEmpty then [] else [acc.reverse]
    | acc, '\n' :: cs =>
      (match acc with | '\r' :: acc => acc.reverse | acc => acc.reverse) :: go [] cs
    | acc, c :: cs => go (c :: acc) cs
  go [] text

/-- The line of a position and its column, both counted from zero. -/
def place (text : List Char) (pos : Nat) : Nat × Nat :=
  (text.take pos).foldl (fun (l, k) c => if c = '\n' then (l + 1, 0) else (l, k + 1)) (0, 0)

/-- Blanks and carets under the columns of the stretches, which are in order. -/
def underline (columns : List (Nat × Nat)) : String :=
  (columns.foldl (fun (out, pos) (a, b) =>
    let n := max 1 (b - a)
    (out ++ String.ofList (List.replicate (a - pos) ' ' ++ List.replicate n '^'),
      max pos a + n)) ("", 0)).1

/-- The first line, the expression with the stretches underlined, and the wording of the cause. The
lines of an expression of several lines are numbered. -/
def Error.marked (e : Error) (source : String) : String :=
  let text := source.toList
  let lines := linesOf text
  let count := lines.length + if source.endsWith "\n" then 1 else 0
  let width := if count ≤ 1 then 0 else (toString count).length
  let spans := (e.span :: e.earlier.toList).map fun s => (place text s.start, place text s.stop)
  let spans := spans.mergeSort fun a b => a.1.1 < b.1.1 || (a.1.1 == b.1.1 && a.1.2 ≤ b.1.2)
  let padding := String.ofList (List.replicate (if width = 0 then 4 else 2 + width) ' ')
  let shown := lines.zipIdx.map fun (line, i) =>
    let number := toString (i + 1)
    let margin := if width = 0 then "    "
      else String.ofList (List.replicate (width - number.length) ' ') ++ number ++ ": "
    let notes := (spans.filter fun (a, b) => a.1 == i && b.1 == i).map fun (a, b) => (a.2, b.2)
    margin ++ String.ofList line ++ "\n" ++
      if notes.isEmpty then "" else padding ++ underline notes ++ "\n"
  let several := (spans.filter fun (a, b) => a.1 != b.1).map fun (a, b) =>
    s!"on line {a.1 + 1} (column {a.2 + 1}) through line {b.1 + 1} (column {b.2})"
  let body := String.join shown
  let rule := String.ofList (List.replicate 79 '~') ++ "\n"
  "regex parse error:\n" ++
    (if text.contains '\n' then
      rule ++ body ++ rule ++ if several.isEmpty then "" else "\n".intercalate several ++ "\n"
    else body) ++
    "error: " ++ e.cause.message

/-- The error with the expression, where a stretch of it is at fault. -/
def Error.render (e : Error) (source : String) : String :=
  if e.cause = .tooLarge then e.cause.message else e.marked source

end Conform.Regex
