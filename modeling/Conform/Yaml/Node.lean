import Conform.Yaml.Token.Lexer

/-!
# Nodes

The structure of a YAML text: scalars with their tags, collections, and aliases, which refer to
nodes elsewhere in the text. `Graph.ofTokens?` reads the one document of a text from its tokens.

Anchors are numbered by how many names of anchors are known. A name that is used again gets a new
number without adding a name, so that the next new name gets the same one; of nodes with one number
the last one counts.
-/

set_option autoImplicit false

namespace Conform.Yaml

/-- A node of a document. -/
inductive Node
  | scalar (tag : Option String) (text : String) (plain : Bool)
  | seq (tag : Option String) (items : List Node)
  | map (tag : Option String) (entries : List (Node × Node))
  /-- The node with this number. -/
  | alias (number : Nat)

/-- The nodes of a document. -/
structure Graph where
  /-- The outermost node; a text without a document has none. -/
  root : Option Node
  /-- The nodes with numbers. -/
  target? : Nat → Option Node
  /-- The number of scalars and aliases, and of beginnings and ends of collections. -/
  size : Nat

/-- What is known in the middle of the tokens. -/
structure Composition where
  tokens : List Token
  /-- What handles stand for. -/
  handles : List (String × String)
  /-- The numbers of the names of anchors. -/
  names : List (String × Nat)
  /-- Where the nodes with numbers begin, the last one first. -/
  places : List (Nat × Nat)
  /-- The nodes with anchors, by where they begin. -/
  anchored : List (Nat × Node)
  size : Nat

/-- A reader of tokens that may fail. -/
abbrev Compose (α : Type) := StateT Composition Option α

namespace Compose

/-- The next token. -/
def peek : Compose (Option Token) := do return (← get).tokens.head?

/-- Moves over a token. -/
def advance : Compose Unit := modify fun c => { c with tokens := c.tokens.tail }

/-- Moves over a token that has to be `t`. -/
def expect (t : Token) : Compose Unit := do
  if (← peek) = some t then advance else failure

/-! ## Anchors and tags -/

/-- Numbers the node that begins here, if it has an anchor, and counts its beginning. -/
def begin (anchor : Option String) : Compose Unit :=
  modify fun c =>
    match anchor with
    | none => { c with size := c.size + 1 }
    | some name =>
      let number := c.names.length
      { c with
        names := (name, number) :: c.names.filter (·.1 != name)
        places := (number, c.size) :: c.places
        size := c.size + 1 }

/-- Keeps a node that began at `place`, if it has an anchor. -/
def keep (anchor : Option String) (place : Nat) (n : Node) : Compose Node := do
  if anchor.isSome then modify fun c => { c with anchored := (place, n) :: c.anchored }
  return n

/-- A scalar. -/
def leaf (anchor : Option String) (n : Node) : Compose Node := do
  let place := (← get).size
  begin anchor
  keep anchor place n

/-- A collection, of which `body` reads the content. -/
def branch (anchor : Option String) (body : Compose Node) : Compose Node := do
  let place := (← get).size
  begin anchor
  let n ← body
  modify fun c => { c with size := c.size + 1 }
  keep anchor place n

/-- The scalar that is not written. -/
def nothing : Compose Node := leaf none (.scalar none "" true)

/-- An alias for the node with a name. -/
def reference (name : String) : Compose Node := do
  let number ← (← get).names.lookup name
  begin none
  return .alias number

/-- The tag in full. -/
def fullTag (handle suffix : String) : Compose String := do
  if handle.isEmpty then return suffix
  let stem ← (← get).handles.lookup handle
  return stem ++ suffix

/-- Takes a tag, if there is one. -/
def tag? : Compose (Option String) := do
  match ← peek with
  | some (.tag handle suffix) => advance; return some (← fullTag handle suffix)
  | _ => return none

/-- Takes an anchor, if there is one. -/
def anchor? : Compose (Option String) := do
  match ← peek with
  | some (.anchor name) => advance; return some name
  | _ => return none

/-- Takes an anchor and a tag in either order. -/
def properties : Compose (Option String × Option String) := do
  match ← anchor? with
  | some name => return (some name, ← tag?)
  | none =>
    let tag ← tag?
    return (← anchor?, tag)

/-! ## Nodes -/

/-- Where a node stands. -/
inductive Position
  | block
  /-- In a mapping, where a sequence need not be indented. -/
  | member
  | flow
deriving DecidableEq

/-- The next token is one of these. -/
def at? (ts : List Token) : Compose Bool := do return (← peek).any ts.contains

mutual

/-- A node. -/
def node : Nat → Position → Compose Node
  | 0, _ => failure
  | fuel + 1, position => do
    if let some (.alias name) ← peek then
      advance
      reference name
    else
      let (anchor, tag) ← properties
      match ← peek with
      | some (.scalar text plain) =>
        advance
        if tag = some "!" then leaf anchor (.scalar none text true)
        else leaf anchor (.scalar tag text plain)
      | some .flowSeq => advance; branch anchor do return .seq tag (← flowItems fuel true)
      | some .flowMap => advance; branch anchor do return .map tag (← flowEntries fuel true)
      | some t =>
        if t = .item ∧ position = .member then branch anchor do return .seq tag (← bareItems fuel)
        else if t = .blockSeq ∧ position ≠ .flow then
          advance
          branch anchor do return .seq tag (← blockItems fuel)
        else if t = .blockMap ∧ position ≠ .flow then
          advance
          branch anchor do return .map tag (← blockEntries fuel)
        else if anchor.isSome || tag.isSome then leaf anchor (.scalar tag "" true)
        else failure
      | none => if anchor.isSome || tag.isSome then leaf anchor (.scalar tag "" true) else failure

/-- The items of a sequence in a block of its own. -/
def blockItems : Nat → Compose (List Node)
  | 0 => failure
  | fuel + 1 => do
    if ← at? [.blockEnd] then
      advance
      return []
    expect .item
    let n ← if ← at? [.item, .blockEnd] then nothing else node fuel .block
    return n :: (← blockItems fuel)

/-- The items of a sequence that is not indented. -/
def bareItems : Nat → Compose (List Node)
  | 0 => failure
  | fuel + 1 => do
    if !(← at? [.item]) then return []
    advance
    let n ← if ← at? [.item, .key, .value, .blockEnd] then nothing else node fuel .block
    return n :: (← bareItems fuel)

/-- The entries of a mapping in a block. -/
def blockEntries : Nat → Compose (List (Node × Node))
  | 0 => failure
  | fuel + 1 => do
    if ← at? [.blockEnd] then
      advance
      return []
    expect .key
    let k ← if ← at? [.key, .value, .blockEnd] then nothing else node fuel .member
    let v ←
      if ← at? [.value] then do
        advance
        if ← at? [.key, .value, .blockEnd] then nothing else node fuel .member
      else nothing
    return (k, v) :: (← blockEntries fuel)

/-- The items of a sequence in brackets. A key there makes a mapping with one entry; the token
behind a key that is not written is passed over. -/
def flowItems : Nat → Bool → Compose (List Node)
  | 0, _ => failure
  | fuel + 1, first => do
    if !first && !(← at? [.flowSeqEnd]) then expect .comma
    if ← at? [.flowSeqEnd] then
      advance
      return []
    let n ←
      if ← at? [.key] then branch none do
        advance
        let k ← if ← at? [.value, .comma, .flowSeqEnd] then do advance; nothing else node fuel .flow
        return .map none [(k, ← flowValue fuel .flowSeqEnd)]
      else node fuel .flow
    return n :: (← flowItems fuel false)

/-- The value of an entry, if it is written, in a collection that ends with `close`. -/
def flowValue : Nat → Token → Compose Node
  | 0, _ => failure
  | fuel + 1, close => do
    if !(← at? [.value]) then nothing
    else
      advance
      if ← at? [.comma, close] then nothing else node fuel .flow

/-- The entries of a mapping in braces. What stands without a colon is a key without a value. -/
def flowEntries : Nat → Bool → Compose (List (Node × Node))
  | 0, _ => failure
  | fuel + 1, first => do
    if !first && !(← at? [.flowMapEnd]) then expect .comma
    if ← at? [.flowMapEnd] then
      advance
      return []
    let entry ←
      if ← at? [.key] then do
        advance
        let k ← if ← at? [.value, .comma, .flowMapEnd] then nothing else node fuel .flow
        pure (k, ← flowValue fuel .flowMapEnd)
      else do
        let k ← node fuel .flow
        pure (k, ← nothing)
    return entry :: (← flowEntries fuel false)

end

/-! ## The document -/

/-- The handles that every document knows. -/
def knownHandles : List (String × String) := [("!", "!"), ("!!", "tag:yaml.org,2002:")]

/-- Takes directives. There may be one version, 1.1 or 1.2, and one stem for each handle. -/
def directives : Nat → Bool → Compose Unit
  | 0, _ => failure
  | fuel + 1, versioned => do
    match ← peek with
    | some (.version major minor) =>
      if versioned || major != 1 || (minor != 1 && minor != 2) then failure
      advance
      directives fuel true
    | some (.handle handle stem) =>
      if ((← get).handles.lookup handle).isSome then failure
      modify fun c => { c with handles := c.handles ++ [(handle, stem)] }
      advance
      directives fuel versioned
    | _ => modify fun c => { c with handles := c.handles ++ knownHandles }

/-- A document that begins with directives or a mark. -/
def markedDocument (fuel : Nat) : Compose Node := do
  directives fuel false
  expect .documentStart
  match ← peek with
  | none | some (.version _ _) | some (.handle _ _) => nothing
  | some .documentStart | some .documentEnd => nothing
  | _ => node fuel .block

/-- The one document of a text, if there is one, and its end. -/
def document (fuel : Nat) : Compose (Option Node) := do
  match ← peek with
  | none => return none
  | some t =>
    let root ← match t with
      | .version _ _ | .handle _ _ | .documentStart => markedDocument fuel
      | _ => do
        directives 1 false
        node fuel .block
    if (← get).tokens.all (· = .documentEnd) then return some root else failure

end Compose

/-- The nodes of the one document in a text. -/
def Graph.ofTokens? (ts : List Token) : Option Graph := do
  let (root, c) ← (Compose.document (2 * ts.length + 4)).run ⟨ts, [], [], [], [], 0⟩
  return ⟨root, fun number => do c.anchored.lookup (← c.places.lookup number), c.size⟩

end Conform.Yaml
