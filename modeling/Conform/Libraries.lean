import Conform.Pattern
import Conform.Yaml.Basic

/-!
# Libraries

What a run leaves to others: reading a text as JSON or as YAML, reading a regular expression, and
checking that a value is a well-formed schema. A run is defined for any `Libraries`, of which
nothing is assumed, so what is said of runs holds whatever these decide.
-/

set_option autoImplicit false

namespace Conform

/-- Readers and a check that the program does not bring along. What is wrong with a text is told of
regular expressions only. -/
class Libraries where
  /-- The value of JSON that a text holds. -/
  json? : String → Option Json
  /-- The value of YAML that a text holds. -/
  yaml? : String → Option Yaml
  /-- The pattern of a source, or what is wrong with it. -/
  pattern : String → Except String Pattern
  /-- The value is a well-formed schema, as strict options demand. -/
  isSchema : Json → Bool

end Conform
