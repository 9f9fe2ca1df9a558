import Conform.Json.Basic
import Conform.Number.Decimal

/-!
# Text of JSON values

`compact` writes a value without spaces, `pretty` with one item to a line, indented by two spaces.
Members are written in the order in which the value lists them.
-/

set_option autoImplicit false

namespace Conform

/-- The text of a number. -/
def Number.text : Number → String
  | .int i => toString i
  | .real x => x.jsonText

namespace Json

/-- The four lower-case hexadecimal digits of an escape. -/
def hex4 (n : Nat) : String :=
  String.ofList ((Nat.toDigits 16 (n + 0x10000)).drop 1)

/-- A character inside a quoted text. Only the quote, the backslash and the characters below U+0020
are escaped. -/
def escape (c : Char) : String :=
  if c = '"' then "\\\""
  else if c = '\\' then "\\\\"
  else if c = '\n' then "\\n"
  else if c = '\r' then "\\r"
  else if c = '\t' then "\\t"
  else if c.toNat = 8 then "\\b"
  else if c.toNat = 12 then "\\f"
  else if c.toNat < 0x20 then "\\u" ++ hex4 c.toNat
  else c.toString

/-- A text in quotes. -/
def quote (s : String) : String :=
  s.foldl (fun acc c => acc ++ escape c) "\"" ++ "\""

/-! ## Compact text -/

mutual

/-- The text of a value without spaces. -/
def compact : Json → String
  | null => "null"
  | bool b => if b then "true" else "false"
  | num n => n.text
  | str s => quote s
  | arr [] => "[]"
  | arr (v :: vs) => "[" ++ compact v ++ compactItems vs ++ "]"
  | obj [] => "\x7b\x7d"
  | obj ((k, v) :: ms) => "\x7b" ++ quote k ++ ":" ++ compact v ++ compactMembers ms ++ "\x7d"

/-- Items with a comma before each. -/
def compactItems : List Json → String
  | [] => ""
  | v :: vs => "," ++ compact v ++ compactItems vs

/-- Members with a comma before each. -/
def compactMembers : List (String × Json) → String
  | [] => ""
  | (k, v) :: ms => "," ++ quote k ++ ":" ++ compact v ++ compactMembers ms

end

/-! ## Pretty text -/

/-- A line break and the indentation of a depth. -/
def newline (depth : Nat) : String := "\n" ++ String.ofList (List.replicate (2 * depth) ' ')

mutual

/-- The text of a value that starts at an indentation. -/
def prettyAt (depth : Nat) : Json → String
  | arr (v :: vs) =>
    "[" ++ newline (depth + 1) ++ prettyAt (depth + 1) v ++ prettyItems (depth + 1) vs ++
      newline depth ++ "]"
  | obj ((k, v) :: ms) =>
    "\x7b" ++ newline (depth + 1) ++ quote k ++ ": " ++ prettyAt (depth + 1) v ++
      prettyMembers (depth + 1) ms ++ newline depth ++ "\x7d"
  | v => compact v

/-- Items after the first. -/
def prettyItems (depth : Nat) : List Json → String
  | [] => ""
  | v :: vs => "," ++ newline depth ++ prettyAt depth v ++ prettyItems depth vs

/-- Members after the first. -/
def prettyMembers (depth : Nat) : List (String × Json) → String
  | [] => ""
  | (k, v) :: ms =>
    "," ++ newline depth ++ quote k ++ ": " ++ prettyAt depth v ++ prettyMembers depth ms

end

/-- The text of a value with one item to a line. -/
def pretty (v : Json) : String := prettyAt 0 v

end Json

end Conform
