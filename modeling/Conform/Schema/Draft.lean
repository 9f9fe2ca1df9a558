import Conform.Json.Basic
import Conform.Regex.Meaning

/-!
# The drafts of JSON Schema

Each draft says of each keyword what form its value has. `Draft.accepts` checks a value against the
form of a schema, and through it all that is below; keywords that a draft does not know may have any
value. A schema names its draft in `$schema`. Only forms are checked: what a reference leads to is not
looked up.
-/

set_option autoImplicit false

namespace Conform

/-- A draft of JSON Schema. -/
inductive Draft
  | draft4
  | draft6
  | draft7
  | draft2019
  | draft2020
deriving DecidableEq

namespace Draft

/-- The drafts in their order. -/
def number : Draft → Nat
  | draft4 => 4
  | draft6 => 6
  | draft7 => 7
  | draft2019 => 8
  | draft2020 => 9

/-- The draft with an identifier, which may have an empty fragment. -/
def ofIdentifier? (text : String) : Option Draft :=
  let bare := String.ofList (text.toList.reverse.dropWhile (· == '#')).reverse
  [("http://json-schema.org/draft-04/schema", draft4),
    ("http://json-schema.org/draft-06/schema", draft6),
    ("http://json-schema.org/draft-07/schema", draft7),
    ("https://json-schema.org/draft/2019-09/schema", draft2019),
    ("https://json-schema.org/draft/2020-12/schema", draft2020)].lookup bare

/-- The draft that a schema names, if it is known; a schema that names none is of the last one. -/
def ofSchema? (schema : Json) : Option Draft :=
  match schema.get? "$schema" with
  | some (.str text) => ofIdentifier? text
  | _ => some draft2020

/-! ## Forms -/

/-- The form that the value of a keyword has. -/
inductive Form
  | anything
  | boolean
  | text
  /-- A regular expression. -/
  | expression
  /-- An identifier without a fragment. -/
  | identifier
  /-- The name of a place in a schema. -/
  | anchor
  | number
  /-- A number above zero. -/
  | positive
  /-- An integer from zero on. -/
  | count
  | schema
  | schemaOrBoolean
  /-- At least one schema. -/
  | schemas
  | schemaOrSchemas
  /-- Any names, each with a schema. -/
  | schemaMap
  /-- Regular expressions, each with a schema. -/
  | expressionMap
  /-- Different texts. -/
  | texts
  /-- Different texts, at least one. -/
  | someTexts
  | textsMap
  | schemaOrTexts
  | dependencies
  | booleanMap
  /-- The name of a type. -/
  | typeName
  /-- The name of a type, or several different ones. -/
  | typeNames
  | list
  /-- Different values, at least one. -/
  | differentValues
deriving DecidableEq

/-- The keywords that all drafts know alike. -/
def sharedKeywords : List (String × Form) :=
  [("$schema", .text), ("title", .text), ("description", .text), ("format", .text),
    ("type", .typeNames), ("multipleOf", .positive), ("minimum", .number), ("maximum", .number),
    ("minLength", .count), ("maxLength", .count), ("minItems", .count), ("maxItems", .count),
    ("minProperties", .count), ("maxProperties", .count), ("uniqueItems", .boolean),
    ("pattern", .expression), ("properties", .schemaMap), ("patternProperties", .expressionMap),
    ("definitions", .schemaMap), ("dependencies", .dependencies), ("allOf", .schemas),
    ("anyOf", .schemas), ("oneOf", .schemas), ("not", .schema)]

/-- The keywords as only the first draft has them. -/
def oldKeywords : List (String × Form) :=
  [("id", .text), ("exclusiveMinimum", .boolean), ("exclusiveMaximum", .boolean),
    ("additionalItems", .schemaOrBoolean), ("additionalProperties", .schemaOrBoolean),
    ("required", .someTexts), ("items", .schemaOrSchemas), ("enum", .differentValues)]

/-- The keywords by the first draft that has them so; a later draft may change them. -/
def addedKeywords : Draft → List (String × Form)
  | draft4 => oldKeywords
  | draft6 =>
    [("$id", .text), ("$ref", .text), ("exclusiveMinimum", .number), ("exclusiveMaximum", .number),
      ("additionalItems", .schema), ("additionalProperties", .schema), ("required", .texts),
      ("items", .schemaOrSchemas), ("enum", .differentValues), ("contains", .schema),
      ("propertyNames", .schema), ("examples", .list)]
  | draft7 =>
    [("enum", .list), ("$comment", .text), ("readOnly", .boolean), ("writeOnly", .boolean),
      ("contentMediaType", .text), ("contentEncoding", .text), ("if", .schema), ("then", .schema),
      ("else", .schema)]
  | draft2019 =>
    [("$id", .identifier), ("$anchor", .anchor), ("$recursiveRef", .text),
      ("$recursiveAnchor", .boolean), ("$vocabulary", .booleanMap), ("$defs", .schemaMap),
      ("dependentSchemas", .schemaMap), ("dependentRequired", .textsMap), ("minContains", .count),
      ("maxContains", .count), ("unevaluatedItems", .schema), ("unevaluatedProperties", .schema),
      ("contentSchema", .schema), ("deprecated", .boolean)]
  | draft2020 =>
    [("items", .schema), ("additionalItems", .anything), ("prefixItems", .schemas),
      ("$dynamicRef", .text), ("$dynamicAnchor", .anchor), ("$recursiveAnchor", .anchor)]

/-- The keywords that a draft has changed or added to those before it, the latest first. From the
second draft on the keywords of the first one no longer count. -/
def keywords (d : Draft) : List (String × Form) :=
  let before := [draft2020, draft2019, draft7, draft6].filter (·.number ≤ d.number)
  (if before.isEmpty then oldKeywords else before.flatMap addedKeywords) ++ sharedKeywords

/-- The form of the value of a keyword. -/
def form (d : Draft) (keyword : String) : Form := (d.keywords.lookup keyword).getD .anything

/-! ## Single values -/

/-- The names of the types. -/
def typeNames : List String :=
  ["array", "boolean", "integer", "null", "number", "object", "string"]

/-- The text with something else in place of a stretch. -/
def replaced (text : String) (span : Regex.Span) (cs : List Char) : String :=
  String.ofList (text.toList.take span.start ++ cs ++ text.toList.drop span.stop)

/-- An expression without the first thing in it that only schemas allow: a group that looks ahead or
behind becomes a plain one, and `\c` with a letter becomes the control character. -/
def plainer? (text : String) (e : Regex.Error) : Option String :=
  match e.cause with
  | .lookAround => some (replaced text e.span ['(', '?', ':'])
  | .escapeUnknown =>
    match text.toList.drop e.span.start with
    | '\\' :: 'c' :: letter :: _ =>
      if letter.isAlpha then
        some (replaced text ⟨e.span.start, e.span.start + 3⟩ [Char.ofNat (letter.toNat % 32)])
      else none
    | _ => none
  | _ => none

/-- A text is a regular expression, with what only schemas allow made plainer up to `fuel` times. -/
def isExpression : Nat → String → Bool
  | 0, _ => false
  | fuel + 1, text =>
    match Regex.read text with
    | .ok _ => true
    | .error e =>
      match plainer? text e with
      | some text => isExpression fuel text
      | none => false

/-- A text names a place: a letter, and then letters, digits and a few signs. -/
def isAnchor (d : Draft) (text : String) : Bool :=
  let last := d = draft2020
  match text.toList with
  | [] => false
  | c :: cs =>
    (c.isAlpha || (last && c == '_')) &&
      cs.all fun c => c.isAlphanum || ['-', '.', '_'].contains c || (!last && c == ':')

/-- An integer from zero on. A double without a fraction is one except in the first draft. -/
def isCount (d : Draft) : Number → Bool
  | .int i => 0 ≤ i
  | .real x => d != draft4 && x.isWhole && 0 ≤ x.scaled

/-- Whether `true` and `false` have a form. As schemas they came with the second draft. -/
def takesBoolean (d : Draft) : Form → Bool
  | .anything | .boolean | .schemaOrBoolean => true
  | .schema | .schemaOrSchemas | .schemaOrTexts => d != draft4
  | _ => false

/-- Whether a number has a form. -/
def takesNumber (d : Draft) (n : Number) : Form → Bool
  | .anything | .number => true
  | .positive => 0 < n.toBinary64.scaled
  | .count => d.isCount n
  | _ => false

/-- Whether a text has a form. -/
def takesText (d : Draft) (s : String) : Form → Bool
  | .anything | .text => true
  | .expression => isExpression (s.length + 1) s
  | .identifier => (s.toList.dropLast.all (· != '#'))
  | .anchor => d.isAnchor s
  | .typeName | .typeNames => typeNames.contains s
  | _ => false

/-! ## Lists and objects -/

/-- The form of a list: that of its items, and what holds of them together. -/
structure ListForm where
  item : Form
  /-- It has at least one item. -/
  nonempty : Bool
  /-- No two items are equal. -/
  different : Bool

/-- The form of lists of a form, if it has lists. -/
def listForm? (d : Draft) : Form → Option ListForm
  | .anything | .list => some ⟨.anything, false, false⟩
  | .schemas | .schemaOrSchemas => some ⟨.schema, true, false⟩
  | .texts => some ⟨.text, false, true⟩
  | .someTexts => some ⟨.text, true, true⟩
  | .schemaOrTexts => some ⟨.text, d = draft4, true⟩
  | .typeNames => some ⟨.typeName, true, true⟩
  | .differentValues => some ⟨.anything, true, true⟩
  | _ => none

/-- The form of each member of an object of a form, if it has objects; a member without a form is
refused. -/
def memberForm? (d : Draft) : Form → Option (String → Option Form)
  | .anything => some fun _ => some .anything
  | .schema | .schemaOrBoolean | .schemaOrSchemas | .schemaOrTexts =>
    some fun keyword => some (d.form keyword)
  | .schemaMap => some fun _ => some .schema
  | .expressionMap =>
    some fun name => if isExpression (name.length + 1) name then some .schema else none
  | .textsMap => some fun _ => some .texts
  | .dependencies => some fun _ => some .schemaOrTexts
  | .booleanMap => some fun _ => some .boolean
  | _ => none

mutual

/-- A value with its integers as doubles. -/
def withDoubles : Json → Json
  | .num n => .num (.real n.toBinary64)
  | .arr items => .arr (itemsWithDoubles items)
  | .obj members => .obj (membersWithDoubles members)
  | v => v

/-- Items with their integers as doubles. -/
def itemsWithDoubles : List Json → List Json
  | [] => []
  | v :: vs => withDoubles v :: itemsWithDoubles vs

/-- Members with their integers as doubles. -/
def membersWithDoubles : List (String × Json) → List (String × Json)
  | [] => []
  | (k, v) :: ms => (k, withDoubles v) :: membersWithDoubles ms

end

/-- No two values are equal, integers and doubles being compared by their values. -/
def allDifferent : List Json → Bool
  | [] => true
  | v :: vs => !vs.any (fun w => (withDoubles v).same (withDoubles w)) && allDifferent vs

/-- In the first draft an exclusive bound is nothing without the bound. -/
def boundsComplete (d : Draft) (members : List (String × Json)) : Bool :=
  let has := fun keyword => (members.lookup keyword).isSome
  d != draft4 ||
    ((!has "exclusiveMinimum" || has "minimum") && (!has "exclusiveMaximum" || has "maximum"))

/-- What holds of the members of an object together. -/
def membersAgree (d : Draft) (members : List (String × Json)) : Form → Bool
  | .schema | .schemaOrBoolean | .schemaOrSchemas | .schemaOrTexts => d.boundsComplete members
  | _ => true

mutual

/-- The value has the form. -/
def fits (d : Draft) (f : Form) : Json → Bool
  | .null => f = .anything
  | .bool _ => d.takesBoolean f
  | .num n => d.takesNumber n f
  | .str s => d.takesText s f
  | .arr items =>
    match d.listForm? f with
    | none => false
    | some l =>
      (!l.nonempty || !items.isEmpty) && (!l.different || allDifferent items) &&
        d.itemsFit l.item items
  | .obj members =>
    match d.memberForm? f with
    | none => false
    | some g => d.membersAgree members f && d.membersFit g members

/-- All items have the form. -/
def itemsFit (d : Draft) (f : Form) : List Json → Bool
  | [] => true
  | v :: vs => d.fits f v && d.itemsFit f vs

/-- All members have the forms that their names call for. -/
def membersFit (d : Draft) (g : String → Option Form) : List (String × Json) → Bool
  | [] => true
  | (name, v) :: ms =>
    (match g name with
      | none => false
      | some f => d.fits f v) && d.membersFit g ms

end

/-- The value is a schema of the draft. -/
def accepts (d : Draft) (schema : Json) : Bool := d.fits .schema schema

end Draft

/-- The value has the form of a schema in the draft that it names. -/
def Json.isSchema (schema : Json) : Bool :=
  match Draft.ofSchema? schema with
  | none => false
  | some d => d.accepts schema

end Conform
