import Conform.Text.CharSet
import Conform.Text.CharTables

/-!
# Texts shown in double quotes

A text in double quotes on one line: quotes, backslashes, the common controls and the characters
that are not seen are written as escapes.
-/

set_option autoImplicit false

namespace Conform

/-- A character between double quotes. -/
def shownChar (c : Char) : String :=
  if c = '"' then "\\\""
  else if c = '\\' then "\\\\"
  else if c = '\n' then "\\n"
  else if c = '\r' then "\\r"
  else if c = '\t' then "\\t"
  else if c.toNat = 0 then "\\0"
  else if CharSet.mem c.toNat CharTables.unseen then
    "\\u\x7b" ++ String.ofList (Nat.toDigits 16 c.toNat) ++ "\x7d"
  else c.toString

/-- A text in double quotes. -/
def shownText (s : String) : String := "\"" ++ String.join (s.toList.map shownChar) ++ "\""

end Conform
