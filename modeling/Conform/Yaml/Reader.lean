import Conform.Yaml.Node

/-!
# Reading YAML

`Yaml.read?` reads the value of a text. At most 128 collections may be open at a time, and aliases
may be followed at most a hundred times as often as the document is long, so that a small text does
not stand for an enormous value. No mapping may have two equal keys.
-/

set_option autoImplicit false

namespace Conform.Yaml

/-- A reader that counts down how often aliases may still be followed. -/
abbrev Unfold (α : Type) := StateT Nat Option α

/-- The name in a tag that is a document's own: what follows its exclamation mark. -/
def ownTag? (tag : Option String) : Option String :=
  match tag.map String.toList with
  | some ('!' :: name) => some (String.ofList name)
  | _ => none

/-- A second exclamation mark is no part of the name. -/
def tagName (name : String) : String :=
  match name.toList with
  | '!' :: c :: cs => String.ofList (c :: cs)
  | _ => name

/-- The value of a scalar. Where `bare` is set, its tag does not count. -/
def scalarValue (bare : Bool) (tag : Option String) (text : String) (plain : Bool) : Option Yaml :=
  match bare, tag with
  | false, some t => ofTagged? t text
  | _, _ => if plain then ofPlain? text else some (str text)

/-- No two of the keys are equal. -/
def keysDiffer : List (Yaml × Yaml) → Bool
  | [] => true
  | (k, _) :: es => !es.any (fun e => same k e.1) && keysDiffer es

/-- The node that an alias stands for, and every other node itself. A node that is reached through
an alias has its own tag again. -/
def dereferenced (g : Graph) (bare : Bool) (n : Node) : Unfold (Bool × Node) := do
  match n with
  | .alias number =>
    match ← get with
    | 0 => failure
    | left + 1 =>
      set left
      return (false, ← g.target? number)
  | n => return (bare, n)

/-- Puts a value under a tag of the document's own, which must have a name. -/
def underTag (name : Option String) (v : Yaml) : Option Yaml :=
  match name with
  | none => some v
  | some name => if name.isEmpty then none else some (tagged (tagName name) v)

/-- The value of a node, in which so many collections may be open. Where `bare` is set, the tag of
the node does not count: the keys of a mapping under a tag of the document's own are read so. -/
def ofNode (g : Graph) : Nat → Bool → Node → Unfold Yaml
  | depth, bare, n => do
    let (bare, n) ← dereferenced g bare n
    let own (tag : Option String) := if bare then none else ownTag? tag
    match n, depth with
    | .scalar tag text plain, _ =>
      let v ← scalarValue (bare || (own tag).isSome) tag text plain
      underTag (own tag) v
    | .seq tag items, depth + 1 =>
      let vs ← items.mapM (ofNode g depth false)
      underTag (own tag) (seq vs)
    | .map tag entries, depth + 1 =>
      let es ← entries.mapM fun (k, v) => do
        let key ← ofNode g depth (bare || (own tag).isSome) k
        return (key, ← ofNode g depth false v)
      if keysDiffer es then underTag (own tag) (map es) else failure
    | _, _ => failure

/-- The most collections that may be open at a time. -/
def maxDepth : Nat := 128

/-- The value of a text. A text without a document is null. -/
def read? (s : String) : Option Yaml := do
  let tokens ← Token.ofText? s
  let g ← Graph.ofTokens? tokens
  match g.root with
  | none => some null
  | some n =>
    let (v, _) ← (ofNode g maxDepth false n).run (100 * g.size)
    return v

end Conform.Yaml
