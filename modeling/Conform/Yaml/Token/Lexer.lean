import Conform.Yaml.Token.Basic
import Conform.Yaml.Scalar.Block
import Conform.Yaml.Scalar.Plain
import Conform.Yaml.Scalar.Quoted

/-!
# The tokens of a text

`Token.ofText?` gives the tokens of a whole text. Blocks are opened and closed by the columns of
their keys and items. That something is a key shows only at the colon behind it: each open
collection therefore remembers where a key may have begun, and the tokens for a key, and perhaps for
a mapping, are put there when the colon comes.
-/

set_option autoImplicit false

namespace Conform.Yaml

/-- A place at which a key may have begun. -/
structure KeyPlace where
  /-- How many tokens stand before it. -/
  tokens : Nat
  index : Nat
  line : Nat
  column : Nat
  /-- It stands where the block has its keys, and nothing else may stand there. -/
  required : Bool

/-- What is known in the middle of a text. -/
structure Lexer where
  cursor : Cursor
  tokens : Array Token
  /-- The columns of the open blocks, innermost first. -/
  blocks : List Nat
  /-- The last possible key outside flow collections. -/
  blockKey : Option KeyPlace
  /-- The last possible key in each open flow collection, innermost first. -/
  flowKeys : List (Option KeyPlace)
  /-- A key may begin here. -/
  keyAllowed : Bool

/-- A reader that also writes tokens. -/
abbrev Lex (α : Type) := StateT Lexer Option α

namespace Lex

/-- Reads without writing. -/
def scan {α : Type} (s : Scan α) : Lex α := do
  let l ← get
  let (a, cursor) ← s.run l.cursor
  set { l with cursor }
  return a

/-- Writes a token. -/
def write (t : Token) : Lex Unit := modify fun l => { l with tokens := l.tokens.push t }

/-- Allows or forbids a key. -/
def allowKey (allowed : Bool) : Lex Unit := modify fun l => { l with keyAllowed := allowed }

/-- In a flow collection. -/
def inFlow : Lex Bool := do return !(← get).flowKeys.isEmpty

/-- The column at which the content of the innermost block begins, at the least. -/
def margin : Lex Nat := do return match (← get).blocks with | [] => 0 | column :: _ => column + 1

/-! ## Possible keys -/

/-- The possible key of the innermost collection. -/
def keyPlace? : Lex (Option KeyPlace) := do
  let l ← get
  return match l.flowKeys with | [] => l.blockKey | key :: _ => key

/-- Replaces the possible key of the innermost collection. -/
def setKeyPlace (key : Option KeyPlace) : Lex Unit :=
  modify fun l => match l.flowKeys with
    | [] => { l with blockKey := key }
    | _ :: keys => { l with flowKeys := key :: keys }

/-- Gives up the possible key, which must not be required. -/
def dropKey : Lex Unit := do
  if (← keyPlace?).any (·.required) then failure
  setKeyPlace none

/-- Remembers the present place for a key, if one is allowed. -/
def saveKey : Lex Unit := do
  let l ← get
  if l.keyAllowed then
    let c := l.cursor
    let required := l.flowKeys.isEmpty && l.blocks.head? == some c.column
    dropKey
    setKeyPlace (some ⟨l.tokens.size, c.index, c.line, c.column, required⟩)

/-- A key is on one line, and its colon within 1024 characters. -/
def KeyPlace.isStale (key : KeyPlace) (c : Cursor) : Bool :=
  key.line < c.line || key.index + 1024 < c.index

/-- Gives up the possible keys that are too far back. -/
def dropStaleKeys : Lex Unit := do
  let l ← get
  let stale := fun (key : Option KeyPlace) => key.any (KeyPlace.isStale · l.cursor)
  if (l.blockKey :: l.flowKeys).any fun key => stale key && key.any (·.required) then failure
  let fresh := fun key => if stale key then none else key
  set { l with blockKey := fresh l.blockKey, flowKeys := l.flowKeys.map fresh }

/-! ## Blocks -/

/-- Opens a block at a column right of the innermost one; its token goes to the place `position`
among the tokens. -/
def openBlock (column : Nat) (position : Nat) (t : Token) : Lex Unit := do
  if !(← inFlow) && (← margin) ≤ column then
    modify fun l => { l with
      blocks := column :: l.blocks
      tokens := l.tokens.insertIdxIfInBounds position t }

/-- Closes the blocks whose columns are `limit` or further right. -/
def closeBlocks (limit : Nat) : Lex Unit := do
  if !(← inFlow) then
    modify fun l => { l with
      blocks := l.blocks.dropWhile (limit ≤ ·)
      tokens := l.tokens ++ Array.replicate (l.blocks.takeWhile (limit ≤ ·)).length .blockEnd }

/-! ## One token -/

/-- Moves to the next token, over blanks, comments and line breaks. Where a key is allowed, blanks
must not be tabs. -/
def toNextToken : Lex Unit := do
  go (← scan Scan.room)
where
  /-- Moves over one line. -/
  go : Nat → Lex Unit
  | 0 => failure
  | fuel + 1 => do
    let l ← get
    if l.cursor.column = 0 && l.cursor.rest.head?.any isByteOrderMark then scan (Scan.skip 1)
    let tabs := !l.flowKeys.isEmpty || !l.keyAllowed
    let _ ← scan (Scan.takeWhile fun c => c == ' ' || (tabs && c == '\t'))
    if (← scan Scan.peek) = some '#' then scan Scan.skipLine
    if (← scan Scan.peek).any isBreak then
      let _ ← scan Scan.lineBreak
      if l.flowKeys.isEmpty then allowKey true
      go fuel

/-- Writes a token that ends all blocks: a directive or the mark of a document. -/
def topLevel (read : Scan Token) : Lex Unit := do
  closeBlocks 0
  dropKey
  allowKey false
  write (← scan read)

/-- Takes `width` characters for a token. -/
def sign (width : Nat) (t : Token) : Scan Token := do
  Scan.skip width
  return t

/-- Opens a flow collection. -/
def flowStart (t : Token) : Lex Unit := do
  saveKey
  modify fun l => { l with flowKeys := none :: l.flowKeys }
  allowKey true
  write (← scan (sign 1 t))

/-- Closes a flow collection. -/
def flowEnd (t : Token) : Lex Unit := do
  dropKey
  modify fun l => { l with flowKeys := l.flowKeys.tail }
  allowKey false
  write (← scan (sign 1 t))

/-- Writes the dash of an item or the question mark of a key, which in a block opens a sequence or a
mapping. -/
def blockSign (opened t : Token) (keyInFlow : Bool) : Lex Unit := do
  let l ← get
  if l.flowKeys.isEmpty then
    if !l.keyAllowed then failure
    openBlock l.cursor.column l.tokens.size opened
  dropKey
  allowKey (l.flowKeys.isEmpty || keyInFlow)
  write (← scan (sign 1 t))

/-- Writes the colon of a value, and the tokens of a key if one was possible. -/
def valueSign : Lex Unit := do
  match ← keyPlace? with
  | some key =>
    modify fun l => { l with tokens := l.tokens.insertIdxIfInBounds key.tokens .key }
    openBlock key.column key.tokens .blockMap
    setKeyPlace none
    allowKey false
  | none =>
    let l ← get
    if l.flowKeys.isEmpty then
      if !l.keyAllowed then failure
      openBlock l.cursor.column l.tokens.size .blockMap
    allowKey l.flowKeys.isEmpty
  write (← scan (sign 1 .value))

/-- Writes a token that may begin a key. -/
def keyStart (read : Scan Token) : Lex Unit := do
  saveKey
  allowKey false
  write (← scan read)

/-- Writes a block scalar. -/
def blockScalar (folded : Bool) : Lex Unit := do
  dropKey
  allowKey true
  let text ← scan (Scan.block folded (← margin))
  write (.scalar text false)

/-- Writes a plain scalar. Behind a line break a key may begin. -/
def plainScalar : Lex Unit := do
  saveKey
  allowKey false
  let (text, broken) ← scan (Scan.plain (← inFlow) (← margin))
  if broken then allowKey true
  write (.scalar text true)

/-- A plain scalar may begin with this character, given the one behind it. -/
def startsPlain (inFlow : Bool) (c : Char) (next : Option Char) : Bool :=
  if c == '-' then !next.any isTabOrSpace
  else if c == '?' || c == ':' then !inFlow && !isGap next
  else !isGap (some c) && !Scan.isFlowChar c &&
    !(['#', '&', '*', '!', '|', '>', '\'', '"', '%', '@', '\x60'].contains c)

/-- Writes the token that begins with `c`. -/
def token (c : Char) : Lex Unit := do
  let next ← scan (Scan.ahead 1)
  let flow ← inFlow
  let column := (← get).cursor.column
  if column = 0 && c = '%' then topLevel Scan.directive
  else if ← scan Scan.atDocumentMark then
    topLevel (sign 3 (if c = '-' then .documentStart else .documentEnd))
  else if c = '[' then flowStart .flowSeq
  else if c = '{' then flowStart .flowMap
  else if c = ']' then flowEnd .flowSeqEnd
  else if c = '}' then flowEnd .flowMapEnd
  else if c = ',' then
    dropKey
    allowKey true
    write (← scan (sign 1 .comma))
  else if c = '-' && isGap next then blockSign .blockSeq .item true
  else if c = '?' && (flow || isGap next) then blockSign .blockMap .key false
  else if c = ':' && (flow || isGap next) then valueSign
  else if c = '*' then keyStart do return .alias (← Scan.anchorName)
  else if c = '&' then keyStart do return .anchor (← Scan.anchorName)
  else if c = '!' then keyStart (Scan.tag flow)
  else if (c = '|' || c = '>') && !flow then blockScalar (c = '>')
  else if c = '\'' || c = '"' then keyStart do return .scalar (← Scan.quoted (c = '"')) false
  else if startsPlain flow c next then plainScalar
  else failure

/-- Writes all tokens up to the end of the text. -/
def all : Nat → Lex Unit
  | 0 => failure
  | fuel + 1 => do
    toNextToken
    dropStaleKeys
    closeBlocks ((← get).cursor.column + 1)
    match ← scan Scan.peek with
    | some c => token c; all fuel
    | none =>
      closeBlocks 0
      dropKey

end Lex

/-- The tokens of a text. -/
def Token.ofText? (s : String) : Option (List Token) := do
  let cs := s.toList
  if !cs.all permitted then none
  let start : Lexer := ⟨.start cs, #[], [], none, [], true⟩
  let (_, l) ← (Lex.all (cs.length + 1)).run start
  return l.tokens.toList

end Conform.Yaml
