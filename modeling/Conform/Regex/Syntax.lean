import Conform.Regex.Error

/-!
# Syntax of regular expressions

`Ast` is an expression as it is written: the flags `(?i)` stand where they are set, and the
members of a class are still names and ranges. Nodes that may turn out not to be allowed carry
the stretch they are written in.
-/

set_option autoImplicit false

namespace Conform.Regex

/-- A flag that a group can set or clear. -/
inductive Flag
  | ignoreCase
  | multiLine
  | dotNewline
  | swapGreed
  | unicode
  | crlf
  | verbose
deriving DecidableEq

/-- Flags with the values they are given. -/
abbrev FlagChange := List (Flag × Bool)

/-- A character, and whether it is written as the two digits of a byte. -/
structure Literal where
  char : Char
  byte : Bool
  span : Span

/-- A condition on a place in the text. -/
inductive Assertion
  | lineStart
  | lineEnd
  | textStart
  | textEnd
  | boundary
  | notBoundary
  | wordStart
  | wordEnd
  | wordStartHalf
  | wordEndHalf
deriving DecidableEq

/-- The classes with a one-letter escape. -/
inductive Shorthand
  | digit
  | space
  | word
deriving DecidableEq

/-- The classes `[:name:]`, all within ASCII. -/
inductive AsciiClass
  | alnum
  | alpha
  | ascii
  | blank
  | cntrl
  | digit
  | graph
  | lower
  | print
  | punct
  | space
  | upper
  | word
  | xdigit
deriving DecidableEq

/-- How two classes are combined. -/
inductive ClassOp
  | intersection
  | difference
  | symmetricDifference
deriving DecidableEq

/-- A character class as it is written. -/
inductive ClassTree
  | char (l : Literal)
  | range (first last : Literal)
  | ascii (kind : AsciiClass) (negated : Bool)
  | shorthand (kind : Shorthand) (negated : Bool) (span : Span)
  | property (name : String) (negated : Bool) (span : Span)
  | bracket (tree : ClassTree) (negated : Bool) (span : Span)
  | union (items : List ClassTree)
  | op (kind : ClassOp) (left right : ClassTree)

/-- An expression as it is written. -/
inductive Ast
  | empty
  | flags (change : FlagChange)
  | char (l : Literal)
  | dot (span : Span)
  | assertion (kind : Assertion)
  | cls (tree : ClassTree)
  | rep (body : Ast) (least : Nat) (most : Option Nat)
  | group (change : FlagChange) (body : Ast)
  | alt (branches : List Ast)
  | cat (parts : List Ast)

/-- The parts in a row; one part stands for itself. -/
def Ast.ofParts : List Ast → Ast
  | [] => .empty
  | [a] => a
  | as => .cat as

/-- The branches as alternatives; one branch stands for itself. -/
def Ast.ofBranches : List Ast → Ast
  | [a] => a
  | as => .alt as

mutual

/-- The nesting of brackets. -/
def ClassTree.depth : ClassTree → Nat
  | .bracket t _ _ => t.depth + 1
  | .union ts => ClassTree.depths ts + 1
  | .op _ l r => max l.depth r.depth + 1
  | _ => 0

/-- The greatest nesting in a list. -/
def ClassTree.depths : List ClassTree → Nat
  | [] => 0
  | t :: ts => max t.depth (ClassTree.depths ts)

end

mutual

/-- The nesting of groups, repetitions, alternatives, rows and classes. -/
def Ast.depth : Ast → Nat
  | .rep a _ _ => a.depth + 1
  | .group _ a => a.depth + 1
  | .alt as => Ast.depths as + 1
  | .cat as => Ast.depths as + 1
  | .cls t => t.depth
  | _ => 0

/-- The greatest nesting in a list. -/
def Ast.depths : List Ast → Nat
  | [] => 0
  | a :: as => max a.depth (Ast.depths as)

end

end Conform.Regex
