import Conform.Regex.Syntax
import Conform.Text.Blank

/-!
# Reading regular expressions

`Ast.read` turns the text of an expression into its syntax, or gives the first error from the left.
Loops are bounded by the length of the text, of which every turn but the last takes a character.
-/

set_option autoImplicit false

namespace Conform.Regex

/-- The state of reading: what is left of the text and where it starts, whether blanks and comments
are skipped, and the group names so far. -/
structure Cursor where
  rest : List Char
  pos : Nat
  verbose : Bool
  names : List (String × Span)

/-- A step of reading. -/
abbrev Read (α : Type) := StateT Cursor (Except Error) α

namespace Read

/-! ## Moving -/

/-- Fails with an error. -/
def fail {α : Type} (cause : Cause) (start stop : Nat) : Read α :=
  throw ⟨cause, ⟨start, stop⟩, none⟩

/-- The position. -/
def pos : Read Nat := return (← get).pos

/-- The next character. -/
def peek : Read (Option Char) := return (← get).rest.head?

/-- The end of the text is reached. -/
def atEnd : Read Bool := return (← get).rest.isEmpty

/-- Goes past one character. -/
def bump : Read Unit := modify fun s => { s with rest := s.rest.drop 1, pos := s.pos + 1 }

/-- Goes past a text if it comes next. -/
def bumpIf (text : String) : Read Bool := do
  let s ← get
  let cs := text.toList
  if cs.isPrefixOf s.rest then
    set { s with rest := s.rest.drop cs.length, pos := s.pos + cs.length }
    return true
  else return false

/-- How many characters of a text are blanks and comments, a comment going from `#` to the end of
its line. -/
def blankLength : Bool → Nat → List Char → Nat
  | _, n, [] => n
  | true, n, c :: cs => blankLength (c != '\n') (n + 1) cs
  | false, n, c :: cs =>
    if isBlank c then blankLength false (n + 1) cs
    else if c == '#' then blankLength true (n + 1) cs
    else n

/-- Goes past blanks and comments when they are skipped. -/
def skip : Read Unit := modify fun s =>
  if s.verbose then
    let n := blankLength false 0 s.rest
    { s with rest := s.rest.drop n, pos := s.pos + n }
  else s

/-- Goes past one character and the blanks behind it. -/
def next : Read Unit := do bump; skip

/-- The character behind the next one and the blanks that follow it. -/
def peekBehind : Read (Option Char) := do
  let s ← get
  let rest := s.rest.drop 1
  return (if s.verbose then rest.drop (blankLength false 0 rest) else rest).head?

/-! ## Escapes -/

/-- The characters with a meaning of their own. -/
def isMeta (c : Char) : Bool := "\\.+*?()|[]\x7b\x7d^$#&-~".toList.contains c

/-- The characters that a backslash leaves as they are. -/
def isEscapable (c : Char) : Bool :=
  isMeta c || (c.toNat < 128 && !c.isAlphanum && c != '<' && c != '>')

/-- A hexadecimal digit. -/
def isHex (c : Char) : Bool := c.isDigit || ('a' ≤ c && c ≤ 'f') || ('A' ≤ c && c ≤ 'F')

/-- The value of a run of hexadecimal digits. -/
def hexValue (ds : List Char) : Nat :=
  ds.foldl (fun n c =>
    16 * n + if c.isDigit then c.toNat - 48 else if 'a' ≤ c then c.toNat - 87 else c.toNat - 55) 0

/-- The character with a number, if there is one. -/
def scalar? (n : Nat) : Option Char :=
  if n < 0xD800 ∨ (0xE000 ≤ n ∧ n < 0x110000) then some (Char.ofNat n) else none

/-- A given number of hexadecimal digits. -/
def hexDigits (count : Nat) : Read (List Char) :=
  let rec go : Nat → List Char → Read (List Char)
    | 0, acc => return acc.reverse
    | n + 1, acc => do
      let p ← pos
      match ← peek with
      | none => fail .escapeEnd p p
      | some c =>
        if isHex c then do next; go n (c :: acc) else fail .hexDigit p (p + 1)
  go count []

/-- The hexadecimal digits up to the closing brace, at which reading stops; `brace` is the place of
the opening one. -/
def hexBraced (brace : Nat) : Nat → List Char → Read (List Char)
  | 0, acc => return acc.reverse
  | fuel + 1, acc => do
    let p ← pos
    match ← peek with
    | none => fail .escapeEnd brace p
    | some '}' => return acc.reverse
    | some c =>
      if isHex c then do next; hexBraced brace fuel (c :: acc) else fail .hexDigit p (p + 1)

/-- The character of `x`, `u` or `U` and its digits, which are in braces or of a fixed number. -/
def hex (fuel start : Nat) (kind : Char) : Read Literal := do
  next
  let brace ← pos
  match ← peek with
  | none => fail .escapeEnd brace brace
  | some '{' =>
    next
    let digits ← hexBraced brace fuel []
    let stop ← pos
    next
    if digits.isEmpty then fail .hexEmpty brace (← pos)
    match scalar? (hexValue digits) with
    | some c => return ⟨c, false, ⟨start, ← pos⟩⟩
    | none => fail .hexNoScalar (brace + 1) stop
  | some _ =>
    let count := if kind == 'x' then 2 else if kind == 'u' then 4 else 8
    let digits ← hexDigits count
    match scalar? (hexValue digits) with
    | some c => return ⟨c, kind == 'x', ⟨start, ← pos⟩⟩
    | none => fail .hexNoScalar brace (← pos)

/-- The name of a class `\p`, up to the closing brace. -/
def propertyName : Nat → List Char → Read String
  | 0, acc => return String.ofList acc.reverse
  | fuel + 1, acc => do
    let p ← pos
    match ← peek with
    | none => fail .escapeEnd p p
    | some '}' => return String.ofList acc.reverse
    | some c => next; propertyName fuel (c :: acc)

/-- The name of a class `\p`, one letter or in braces. -/
def property (fuel : Nat) : Read String := do
  next
  let p ← pos
  match ← peek with
  | none => fail .escapeEnd p p
  | some '{' =>
    next
    let name ← propertyName fuel []
    bump
    return name
  | some '\\' => fail .unicodeClassInvalid p (p + 1)
  | some c => next; return c.toString

/-- What an escape or a single character stands for. -/
inductive Primitive
  | literal (l : Literal)
  | assertion (kind : Assertion) (span : Span)
  | shorthand (kind : Shorthand) (negated : Bool) (span : Span)
  | property (name : String) (negated : Bool) (span : Span)

/-- The letters and dashes of a special word boundary. -/
def boundaryName : Nat → List Char → Read String
  | 0, acc => return String.ofList acc.reverse
  | fuel + 1, acc => do
    match ← peek with
    | some c =>
      if c.isAlpha || c == '-' then do next; boundaryName fuel (c :: acc)
      else return String.ofList acc.reverse
    | none => return String.ofList acc.reverse

/-- The name in braces behind `\b`, which a brace without a letter or dash does not open. -/
def specialBoundary (fuel start : Nat) : Read (Option Assertion) := do
  let saved ← get
  next
  match ← peek with
  | none => fail .boundaryEnd start (← pos)
  | some c =>
    if !(c.isAlpha || c == '-') then
      set saved
      return none
    let first ← pos
    let name ← boundaryName fuel []
    let stop ← pos
    if (← peek) != some '}' then fail .boundaryUnclosed saved.pos stop
    bump
    match name with
    | "start" => return some .wordStart
    | "end" => return some .wordEnd
    | "start-half" => return some .wordStartHalf
    | "end-half" => return some .wordEndHalf
    | _ => fail .boundaryUnknown first stop

/-- A backslash and what follows it. -/
def escape (fuel : Nat) : Read Primitive := do
  let start ← pos
  bump
  match ← peek with
  | none => fail .escapeEnd start (← pos)
  | some c =>
    if c.isDigit then fail .backreference start (start + 2)
    if c == 'x' || c == 'u' || c == 'U' then return .literal (← hex fuel start c)
    if c == 'p' || c == 'P' then
      let name ← property fuel
      return .property name (c == 'P') ⟨start, ← pos⟩
    bump
    let span : Span := ⟨start, start + 2⟩
    let control (n : Nat) : Primitive := .literal ⟨Char.ofNat n, false, span⟩
    if isEscapable c then return .literal ⟨c, false, span⟩
    match c with
    | 'd' => return .shorthand .digit false span
    | 'D' => return .shorthand .digit true span
    | 's' => return .shorthand .space false span
    | 'S' => return .shorthand .space true span
    | 'w' => return .shorthand .word false span
    | 'W' => return .shorthand .word true span
    | 'a' => return control 7
    | 'f' => return control 12
    | 't' => return control 9
    | 'n' => return control 10
    | 'r' => return control 13
    | 'v' => return control 11
    | 'A' => return .assertion .textStart span
    | 'z' => return .assertion .textEnd span
    | 'b' =>
      if (← peek) == some '{' then
        match ← specialBoundary fuel start with
        | some kind => return .assertion kind ⟨start, ← pos⟩
        | none => return .assertion .boundary span
      else return .assertion .boundary span
    | 'B' => return .assertion .notBoundary span
    | '<' => return .assertion .wordStart span
    | '>' => return .assertion .wordEnd span
    | _ => fail .escapeUnknown start (start + 2)

/-! ## Character classes -/

/-- The class with a name between `[:` and `:]`. -/
def asciiClass? : String → Option AsciiClass
  | "alnum" => some .alnum
  | "alpha" => some .alpha
  | "ascii" => some .ascii
  | "blank" => some .blank
  | "cntrl" => some .cntrl
  | "digit" => some .digit
  | "graph" => some .graph
  | "lower" => some .lower
  | "print" => some .print
  | "punct" => some .punct
  | "space" => some .space
  | "upper" => some .upper
  | "word" => some .word
  | "xdigit" => some .xdigit
  | _ => none

/-- A class `[:name:]` or `[:^name:]`; anything else leaves the text as it is. -/
def asciiClass : Read (Option ClassTree) := do
  let s ← get
  match s.rest with
  | '[' :: ':' :: rest =>
    let (negated, name) := match rest with
      | '^' :: rest => (true, rest)
      | rest => (false, rest)
    let letters := name.takeWhile (· != ':')
    match name.dropWhile (· != ':') with
    | ':' :: ']' :: rest =>
      match asciiClass? (String.ofList letters) with
      | some kind =>
        set { s with rest := rest, pos := s.pos + (s.rest.length - rest.length) }
        return some (.ascii kind negated)
      | none => return none
    | _ => return none
  | _ => return none

/-- A literal, an escape or a bare character, inside a class. -/
def classPrimitive (fuel : Nat) : Read Primitive := do
  let p ← pos
  match ← peek with
  | some '\\' => escape fuel
  | some c => bump; return .literal ⟨c, false, ⟨p, p + 1⟩⟩
  | none => fail .classUnclosed p p

/-- A primitive as a member of a class; conditions on a place are not. -/
def Primitive.member : Primitive → Read ClassTree
  | .literal l => return .char l
  | .shorthand k n s => return .shorthand k n s
  | .property name n s => return .property name n s
  | .assertion _ s => fail .classEscape s.start s.stop

/-- The stretch of a primitive. -/
def Primitive.span : Primitive → Span
  | .literal l => l.span
  | .shorthand _ _ s => s
  | .property _ _ s => s
  | .assertion _ s => s

/-- A primitive as an end of a range. -/
def Primitive.boundary (p : Primitive) : Read Literal :=
  match p with
  | .literal l => return l
  | p => fail .classRangeBoundary p.span.start p.span.stop

/-- One member of a class or a range; `opened` is the opening of the class. -/
def classItem (fuel : Nat) (opened : Span) : Read ClassTree := do
  let first ← classPrimitive fuel
  skip
  match ← peek with
  | none => fail .classUnclosed opened.start opened.stop
  | some c =>
    let behind ← peekBehind
    if c != '-' || behind == some ']' || behind == some '-' then first.member
    else
      next
      if ← atEnd then fail .classUnclosed opened.start opened.stop
      let last ← classPrimitive fuel
      let l ← first.boundary
      let h ← last.boundary
      if l.char ≤ h.char then return .range l h
      else fail .classRange l.span.start h.span.stop

/-- The members read so far as one class; a single member stands for itself. -/
def unionOf (items : List ClassTree) : ClassTree :=
  match items with
  | [t] => t
  | ts => .union ts.reverse

/-- The operand on the left, if there is one, joined with the members behind the operator. -/
def joined (left : Option (ClassOp × ClassTree)) (items : List ClassTree) : ClassTree :=
  match left with
  | some (op, l) => .op op l (unionOf items)
  | none => unionOf items

/-- Dashes at the start of a class stand for themselves. -/
def leadingDashes (start : Nat) : Nat → List ClassTree → Read (List ClassTree)
  | 0, acc => return acc
  | fuel + 1, acc => do
    let p ← pos
    if (← peek) == some '-' then
      next
      if ← atEnd then fail .classUnclosed start start
      leadingDashes start fuel (.char ⟨'-', false, ⟨p, p + 1⟩⟩ :: acc)
    else return acc

mutual

/-- A class from its opening bracket to the closing one. -/
def classOf : Nat → Read ClassTree
  | 0 => do fail .classUnclosed (← pos) (← pos)
  | fuel + 1 => do
    let start ← pos
    next
    if ← atEnd then fail .classUnclosed start (← pos)
    let negated := (← peek) == some '^'
    if negated then
      next
      if ← atEnd then fail .classUnclosed start (← pos)
    let mut items ← leadingDashes start fuel []
    let p ← pos
    if items.isEmpty && (← peek) == some ']' then
      items := [.char ⟨']', false, ⟨p, p + 1⟩⟩]
      next
      if ← atEnd then fail .classUnclosed start (← pos)
    let opened : Span := ⟨start, ← pos⟩
    let tree ← classBody fuel opened none items
    return .bracket tree negated ⟨start, ← pos⟩

/-- The members and operators up to the closing bracket. Operators group from the left. -/
def classBody : Nat → Span → Option (ClassOp × ClassTree) → List ClassTree → Read ClassTree
  | 0, opened, _, _ => fail .classUnclosed opened.start opened.stop
  | fuel + 1, opened, left, items => do
    skip
    match ← peek with
    | none => fail .classUnclosed opened.start opened.stop
    | some '[' =>
      match ← asciiClass with
      | some t => classBody fuel opened left (t :: items)
      | none => do
        let t ← classOf fuel
        classBody fuel opened left (t :: items)
    | some ']' => do
      bump
      return joined left items
    | some _ =>
      if ← bumpIf "&&" then classBody fuel opened (some (.intersection, joined left items)) []
      else if ← bumpIf "--" then classBody fuel opened (some (.difference, joined left items)) []
      else if ← bumpIf "~~" then
        classBody fuel opened (some (.symmetricDifference, joined left items)) []
      else do
        let t ← classItem fuel opened
        classBody fuel opened left (t :: items)

end

/-! ## Repetitions -/

/-- What a repetition applies to: the part before it. -/
def repeated (parts : List Ast) : Read (Ast × List Ast) := do
  match parts with
  | .flags _ :: _ => fail .nothingToRepeat (← pos) (← pos)
  | .empty :: _ => fail .nothingToRepeat (← pos) (← pos)
  | a :: as => return (a, as)
  | [] => fail .nothingToRepeat (← pos) (← pos)

/-- Blanks. -/
def blanks : Nat → Read Unit
  | 0 => return ()
  | fuel + 1 => do
    match ← peek with
    | some c => if isBlank c then do bump; blanks fuel
    | none => return ()

/-- A run of digits. -/
def digits : Nat → List Char → Read (List Char)
  | 0, acc => return acc.reverse
  | fuel + 1, acc => do
    match ← peek with
    | some c => if c.isDigit then do next; digits fuel (c :: acc) else return acc.reverse
    | none => return acc.reverse

/-- A number of at most 32 bits with blanks around it, or the error that it is none. -/
def decimal (fuel : Nat) : Read (Except Error Nat) := do
  blanks fuel
  let start ← pos
  let ds ← digits fuel []
  let stop ← pos
  blanks fuel
  let n := ds.foldl (fun n c => 10 * n + (c.toNat - 48)) 0
  if ds.isEmpty then return .error ⟨.countDecimal, ⟨start, stop⟩, none⟩
  else if n < Nat.pow 2 32 then return .ok n
  else return .error ⟨.decimalInvalid, ⟨start, stop⟩, none⟩

/-- A mark for taking as little as possible, which does not change what is accepted. -/
def lazyMark : Read Unit := do
  if (← peek) == some '?' then bump

/-- A count in braces behind the parts so far. -/
def counted (fuel : Nat) (parts : List Ast) : Read (List Ast) := do
  let start ← pos
  let (body, rest) ← repeated parts
  let unclosed {α : Type} : Read α := do fail .countUnclosed start (← pos)
  next
  if ← atEnd then unclosed
  let low ← decimal fuel
  if ← atEnd then unclosed
  let (least, most) ←
    if (← peek) == some ',' then do
      next
      if ← atEnd then unclosed
      if (← peek) != some '}' then do
        let n ← (low : Except Error Nat)
        let m ← (← decimal fuel : Except Error Nat)
        pure (n, some m)
      else do
        let n ← (low : Except Error Nat)
        pure (n, none)
    else do
      let n ← (low : Except Error Nat)
      pure (n, some n)
  if (← peek) != some '}' then unclosed
  next
  lazyMark
  match most with
  | some m => if m < least then fail .countRange start (← pos)
  | none => pure ()
  return .rep body least most :: rest

/-! ## Groups -/

/-- The flag of a letter. -/
def flag? : Char → Option Flag
  | 'i' => some .ignoreCase
  | 'm' => some .multiLine
  | 's' => some .dotNewline
  | 'U' => some .swapGreed
  | 'u' => some .unicode
  | 'R' => some .crlf
  | 'x' => some .verbose
  | _ => none

/-- The flags up to the colon or closing parenthesis, at which reading stops; `minus` is the place
of the minus sign, `seen` the flags so far. -/
def flags : Nat → Option Nat → Bool → List (Flag × Bool × Nat) → Read FlagChange
  | 0, _, _, _ => do fail .flagEnd (← pos) (← pos)
  | fuel + 1, minus, dangling, seen => do
    let p ← pos
    match ← peek with
    | none => fail .flagEnd p p
    | some c =>
      if c == ':' || c == ')' then
        match minus, dangling with
        | some m, true => fail .flagDangling m (m + 1)
        | _, _ => return seen.reverse.map fun (f, b, _) => (f, b)
      else if c == '-' then
        match minus with
        | some m => throw ⟨.flagNegatedTwice, ⟨p, p + 1⟩, some ⟨m, m + 1⟩⟩
        | none => do
          bump
          flags fuel (some p) true seen
      else
        match flag? c with
        | none => fail .flagUnknown p (p + 1)
        | some f =>
          match seen.find? fun (g, _, _) => g == f with
          | some (_, _, q) => throw ⟨.flagDuplicate, ⟨p, p + 1⟩, some ⟨q, q + 1⟩⟩
          | none => do
            bump
            flags fuel minus false ((f, minus.isNone, p) :: seen)

/-- A letter of a group name. Names start with a letter or an underscore. -/
def isNameChar (c : Char) (first : Bool) : Bool :=
  let letter := c.isAlpha || c == '_' || (128 ≤ c.toNat && !isBlank c)
  letter || (!first && (c.isDigit || c == '.' || c == '[' || c == ']'))

/-- The letters of a group name. -/
def nameChars (start : Nat) : Nat → List Char → Read String
  | 0, acc => return String.ofList acc.reverse
  | fuel + 1, acc => do
    let p ← pos
    match ← peek with
    | none => fail .groupNameEnd p p
    | some '>' => return String.ofList acc.reverse
    | some c =>
      if isNameChar c (p == start) then do bump; nameChars start fuel (c :: acc)
      else fail .groupNameInvalid p (p + 1)

/-- The name of a group up to its closing bracket; no two groups have one name. -/
def groupName (fuel : Nat) : Read Unit := do
  let start ← pos
  let name ← nameChars start fuel []
  let span : Span := ⟨start, ← pos⟩
  bump
  if name.isEmpty then fail .groupNameEmpty start start
  let s ← get
  match s.names.lookup name with
  | some first => throw ⟨.groupNameDuplicate, span, some first⟩
  | none => set { s with names := (name, span) :: s.names }

/-- What an opening parenthesis begins: a change of flags up to the end of the surrounding group, or
a group with flags of its own. -/
inductive Opening
  | change (flags : FlagChange)
  | group (flags : FlagChange)

/-- An opening parenthesis and the marks behind it. -/
def opening (fuel : Nat) : Read Opening := do
  let start ← pos
  next
  if (← bumpIf "?=") || (← bumpIf "?!") || (← bumpIf "?<=") || (← bumpIf "?<!") then
    fail .lookAround start (← pos)
  let inner ← pos
  if (← bumpIf "?P<") || (← bumpIf "?<") then
    groupName fuel
    return .group []
  else if ← bumpIf "?" then
    if ← atEnd then fail .groupUnclosed start (start + 1)
    let change ← flags fuel none false []
    let c ← peek
    bump
    if c == some ')' then
      if change.isEmpty then fail .nothingToRepeat inner inner
      return .change change
    else return .group change
  else return .group []

/-- Whether blanks are skipped after a change of flags. -/
def verboseAfter (change : FlagChange) (before : Bool) : Bool :=
  (change.lookup .verbose).getD before

/-! ## Expressions -/

mutual

/-- Alternatives up to the end of the group, which is left to the caller. -/
def alternatives : Nat → List Ast → List Ast → Read Ast
  | 0, branches, parts => return .ofBranches (Ast.ofParts parts.reverse :: branches).reverse
  | fuel + 1, branches, parts => do
    skip
    match ← peek with
    | none => return .ofBranches (Ast.ofParts parts.reverse :: branches).reverse
    | some ')' => return .ofBranches (Ast.ofParts parts.reverse :: branches).reverse
    | some '|' => do
      bump
      alternatives fuel (Ast.ofParts parts.reverse :: branches) []
    | some '(' => do
      let a ← group fuel
      alternatives fuel branches (a :: parts)
    | some '[' => do
      let t ← classOf fuel
      alternatives fuel branches (.cls t :: parts)
    | some '{' => do
      let parts ← counted fuel parts
      alternatives fuel branches parts
    | some '?' => do
      let (body, rest) ← repeated parts
      bump
      lazyMark
      alternatives fuel branches (.rep body 0 (some 1) :: rest)
    | some '*' => do
      let (body, rest) ← repeated parts
      bump
      lazyMark
      alternatives fuel branches (.rep body 0 none :: rest)
    | some '+' => do
      let (body, rest) ← repeated parts
      bump
      lazyMark
      alternatives fuel branches (.rep body 1 none :: rest)
    | some '\\' => do
      let a ← match ← escape fuel with
        | .literal l => pure (Ast.char l)
        | .assertion k _ => pure (Ast.assertion k)
        | .shorthand k n s => pure (Ast.cls (.shorthand k n s))
        | .property name n s => pure (Ast.cls (.property name n s))
      alternatives fuel branches (a :: parts)
    | some c => do
      let p ← pos
      bump
      let a := match c with
        | '.' => Ast.dot ⟨p, p + 1⟩
        | '^' => Ast.assertion .lineStart
        | '$' => Ast.assertion .lineEnd
        | c => Ast.char ⟨c, false, ⟨p, p + 1⟩⟩
      alternatives fuel branches (a :: parts)

/-- A group from its opening parenthesis to the closing one, or a change of flags. -/
def group : Nat → Read Ast
  | 0 => return .empty
  | fuel + 1 => do
    let start ← pos
    let before := (← get).verbose
    match ← opening fuel with
    | .change change =>
      modify fun s => { s with verbose := verboseAfter change before }
      return .flags change
    | .group change =>
      modify fun s => { s with verbose := verboseAfter change before }
      let body ← alternatives fuel [] []
      if (← peek) != some ')' then fail .groupUnclosed start (start + 1)
      modify fun s => { s with verbose := before }
      bump
      return .group change body

end

/-- A whole expression. -/
def whole (fuel : Nat) : Read Ast := do
  let a ← alternatives fuel [] []
  if (← peek) == some ')' then fail .groupUnopened (← pos) ((← pos) + 1)
  return a

end Read

/-- The syntax of an expression, or the first error from the left. -/
def Ast.read (source : String) : Except Error Ast := do
  let cs := source.toList
  let (a, _) ← (Read.whole (2 * cs.length + 2)).run ⟨cs, 0, false, []⟩
  if maxNesting < a.depth then throw ⟨.nesting, ⟨0, cs.length⟩, none⟩
  return a

end Conform.Regex
