import Conform.Text.CharSet
import Conform.Text.CharTables

/-!
# Regular expressions

What a regular expression accepts is told by `Regex.ends`: from a set of places in a text, where
the expression may begin, to the set of places where it may end. A set of places is a natural
number whose bit `i` tells whether the place before character `i` belongs to it. A text has a match
when some place is the end of one that begins anywhere.
-/

set_option autoImplicit false

namespace Conform

namespace Regex

/-- A condition on a place. -/
inductive Look
  | textStart
  | textEnd
  | lineStart (crlf : Bool)
  | lineEnd (crlf : Bool)
  | boundary (unicode : Bool)
  | notBoundary (unicode : Bool)
  | wordStart (unicode : Bool)
  | wordEnd (unicode : Bool)
  | wordStartHalf (unicode : Bool)
  | wordEndHalf (unicode : Bool)
deriving DecidableEq

end Regex

/-- A regular expression. -/
inductive Regex
  | empty
  | chars (set : CharSet)
  | look (condition : Regex.Look)
  | seq (first second : Regex)
  | alt (left right : Regex)
  | times (body : Regex) (least : Nat) (most : Option Nat)

namespace Regex

/-! ## Size -/

/-- The bytes that an automaton needs for a set of characters: one state for characters of one byte,
and about a dozen for longer ones, besides the ranges. -/
def setBulk (set : CharSet) : Nat :=
  if set.all (fun r => r.2 < 128) then 32 + if set.length ≤ 1 then 0 else 8 * set.length
  else if set.all (fun r => r.1 = r.2) && set.length ≤ 1 then 96
  else 320 + 26 * set.length

/-- The bytes that an automaton for the expression needs, where a repetition is written out. -/
def bulk : Regex → Nat
  | empty => 0
  | chars set => setBulk set
  | look _ => 32
  | seq a b => bulk a + bulk b
  | alt a b => bulk a + bulk b + 64
  | times body least none => max least 1 * bulk body + 64
  | times body least (some most) => most * bulk body + 36 * (most - least)

/-- The most bytes that the automaton of an expression may need. -/
def maxBulk : Nat := 10 * Nat.pow 2 20

/-! ## Places -/

/-- A word character, of Unicode or of ASCII. -/
def isWord (unicode : Bool) (c : Char) : Bool :=
  if c.toNat < 128 then c.isAlphanum || c == '_'
  else unicode && CharSet.mem c.toNat CharTables.wordChars

/-- Whether the condition holds between the characters before and behind a place. -/
def Look.holds (before behind : Option Char) : Look → Bool
  | textStart => before.isNone
  | textEnd => behind.isNone
  | lineStart false => before.isNone || before == some '\n'
  | lineEnd false => behind.isNone || behind == some '\n'
  | lineStart true =>
    before.isNone || before == some '\n' || (before == some '\r' && behind != some '\n')
  | lineEnd true =>
    behind.isNone || behind == some '\r' || (behind == some '\n' && before != some '\r')
  | boundary u => before.any (isWord u) != behind.any (isWord u)
  | notBoundary u => before.any (isWord u) == behind.any (isWord u)
  | wordStart u => !before.any (isWord u) && behind.any (isWord u)
  | wordEnd u => before.any (isWord u) && !behind.any (isWord u)
  | wordStartHalf u => !before.any (isWord u)
  | wordEndHalf u => !behind.any (isWord u)

/-- The places that satisfy a test. -/
def placesWhere (text : Array Char) (places : Nat) (test : Nat → Bool) : Nat :=
  (List.range (text.size + 1)).foldl
    (fun acc i => if places.testBit i && test i then acc ||| 1 <<< i else acc) 0

/-! ## Ends -/

/-- Applies `f` to a set of places a number of times. -/
def iterate (f : Nat → Nat) : Nat → Nat → Nat
  | 0, places => places
  | n + 1, places => if places = 0 then 0 else iterate f n (f places)

/-- The places reached from `latest` by at most `n` applications of `f`, with those reached so far.
A place that was reached before is not followed again. -/
def saturate (f : Nat → Nat) : Nat → Nat → Nat → Nat
  | 0, reached, _ => reached
  | n + 1, reached, latest =>
    let fresh := f latest ^^^ (f latest &&& reached)
    if fresh = 0 then reached else saturate f n (reached ||| fresh) fresh

/-- The places where an expression may end that begins at one of the given places. -/
def ends (text : Array Char) : Regex → Nat → Nat
  | empty, places => places
  | chars set, places =>
    placesWhere text places (fun i => text[i]?.any fun c => CharSet.mem c.toNat set) <<< 1
  | look condition, places =>
    placesWhere text places fun i =>
      condition.holds (if i = 0 then none else text[i - 1]?) text[i]?
  | seq a b, places => ends text b (ends text a places)
  | alt a b, places => ends text a places ||| ends text b places
  | times body least most, places =>
    let start := iterate (ends text body) least places
    let rounds := match most with
      | some n => n - least
      | none => text.size + 1
    saturate (ends text body) rounds start start

/-- Some part of the text matches. -/
def matchesIn (r : Regex) (text : String) : Bool :=
  let cs := text.toList.toArray
  r.ends cs (Nat.pow 2 (cs.size + 1) - 1) != 0

end Regex

end Conform
