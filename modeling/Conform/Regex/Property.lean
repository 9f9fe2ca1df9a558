import Conform.Regex.Error
import Conform.Text.CategoryTables
import Conform.Text.CharSet
import Conform.Text.ScriptTables

/-!
# Properties of characters

The sets that `\p` names: general categories by their short or long names, a few properties and the
scripts that there are tables of. Case, blanks, dashes and underscores in a name do not count, and
neither does a leading `is`. `General_Category` or `Script` may be said before the value.
-/

set_option autoImplicit false

namespace Conform.Regex

/-! ## Names -/

/-- A name without what does not count in it. -/
def bareName (name : String) : String :=
  let cs := name.toList
  let marked := String.ofList ((cs.take 2).map Char.toLower) == "is"
  let rest := if marked then cs.drop 2 else cs
  let kept := rest.filter fun c => !([' ', '_', '-'].contains c) && c.toNat < 128
  let bare := String.ofList (kept.map Char.toLower)
  if marked && bare == "c" then "isc" else bare

/-- Both names of each general category and of each group of categories. -/
def categoryNames : List (String × String) :=
  [("lu", "uppercaseletter"), ("ll", "lowercaseletter"), ("lt", "titlecaseletter"),
    ("lm", "modifierletter"), ("lo", "otherletter"), ("lc", "casedletter"), ("l", "letter"),
    ("mn", "nonspacingmark"), ("mc", "spacingmark"), ("me", "enclosingmark"), ("m", "mark"),
    ("m", "combiningmark"), ("nd", "decimalnumber"), ("nd", "digit"), ("nl", "letternumber"),
    ("no", "othernumber"), ("n", "number"), ("pc", "connectorpunctuation"),
    ("pd", "dashpunctuation"), ("ps", "openpunctuation"), ("pe", "closepunctuation"),
    ("pi", "initialpunctuation"), ("pf", "finalpunctuation"), ("po", "otherpunctuation"),
    ("p", "punctuation"), ("p", "punct"), ("sm", "mathsymbol"), ("sc", "currencysymbol"),
    ("sk", "modifiersymbol"), ("so", "othersymbol"), ("s", "symbol"), ("zs", "spaceseparator"),
    ("zl", "lineseparator"), ("zp", "paragraphseparator"), ("z", "separator"), ("cc", "control"),
    ("cc", "cntrl"), ("cf", "format"), ("co", "privateuse"), ("cn", "unassigned"), ("c", "other")]

/-- The tables of the assigned categories by their short names. -/
def categoryTables : List (String × CategoryTables.Runs) :=
  [("lu", CategoryTables.uppercaseLetter), ("ll", CategoryTables.lowercaseLetter),
    ("lt", CategoryTables.titlecaseLetter), ("lm", CategoryTables.modifierLetter),
    ("lo", CategoryTables.otherLetter), ("mn", CategoryTables.nonspacingMark),
    ("mc", CategoryTables.spacingMark), ("me", CategoryTables.enclosingMark),
    ("nd", CategoryTables.decimalNumber), ("nl", CategoryTables.letterNumber),
    ("no", CategoryTables.otherNumber), ("pc", CategoryTables.connectorPunctuation),
    ("pd", CategoryTables.dashPunctuation), ("ps", CategoryTables.openPunctuation),
    ("pe", CategoryTables.closePunctuation), ("pi", CategoryTables.initialPunctuation),
    ("pf", CategoryTables.finalPunctuation), ("po", CategoryTables.otherPunctuation),
    ("sm", CategoryTables.mathSymbol), ("sc", CategoryTables.currencySymbol),
    ("sk", CategoryTables.modifierSymbol), ("so", CategoryTables.otherSymbol),
    ("zs", CategoryTables.spaceSeparator), ("zl", CategoryTables.lineSeparator),
    ("zp", CategoryTables.paragraphSeparator), ("cc", CategoryTables.control),
    ("cf", CategoryTables.format), ("co", CategoryTables.privateUse)]

/-- The scripts by their names. -/
def scriptTables : List (String × CharSet) :=
  [("latin", ScriptTables.latin), ("latn", ScriptTables.latin), ("greek", ScriptTables.greek),
    ("grek", ScriptTables.greek), ("cyrillic", ScriptTables.cyrillic),
    ("cyrl", ScriptTables.cyrillic), ("armenian", ScriptTables.armenian),
    ("armn", ScriptTables.armenian), ("hebrew", ScriptTables.hebrew),
    ("hebr", ScriptTables.hebrew), ("arabic", ScriptTables.arabic), ("arab", ScriptTables.arabic),
    ("devanagari", ScriptTables.devanagari), ("deva", ScriptTables.devanagari),
    ("thai", ScriptTables.thai), ("georgian", ScriptTables.georgian),
    ("geor", ScriptTables.georgian), ("hangul", ScriptTables.hangul),
    ("hang", ScriptTables.hangul), ("hiragana", ScriptTables.hiragana),
    ("hira", ScriptTables.hiragana), ("katakana", ScriptTables.katakana),
    ("kana", ScriptTables.katakana), ("han", ScriptTables.han), ("hani", ScriptTables.han)]

/-! ## Sets -/

/-- The ranges of some runs. -/
def rangesOf (runs : CategoryTables.Runs) : List (Nat × Nat) :=
  runs.flatMap fun (first, last, step) =>
    if step = 1 then [(first, last)]
    else (List.range ((last - first) / step + 1)).map fun i => (first + i * step, first + i * step)

/-- The characters of the categories whose short names pass the test. -/
def categorySet (test : String → Bool) : CharSet :=
  CharSet.ofRanges ((categoryTables.filter fun t => test t.1).flatMap fun t => rangesOf t.2)

/-- The characters that are not assigned, surrogates included. -/
def unassigned : CharSet := (categorySet fun _ => true).compl

/-- The set of a category or a group of categories, by its short name. A group is named by the first
letter of its categories. -/
def shortCategory (short : String) : CharSet :=
  if short = "cn" then unassigned
  else if short = "lc" then categorySet fun s => ["lu", "ll", "lt"].contains s
  else if short = "c" then (categorySet fun s => !s.startsWith "c").compl
  else if short.length = 1 then categorySet fun s => s.startsWith short
  else categorySet fun s => s == short

/-- The set of a category by either name; three sets of characters count as categories too. -/
def category? (name : String) : Option CharSet :=
  if name = "any" then some [(0, CharSet.maxCode)]
  else if name = "assigned" then some unassigned.compl
  else if name = "ascii" then some [(0, 0x7F)]
  else
    (categoryNames.find? fun n => n.1 == name || n.2 == name).map fun n => shortCategory n.1

/-- The blank characters of Unicode. -/
def blankRanges : CharSet :=
  [(9, 13), (0x20, 0x20), (0x85, 0x85), (0xA0, 0xA0), (0x1680, 0x1680), (0x2000, 0x200A),
   (0x2028, 0x2029), (0x202F, 0x202F), (0x205F, 0x205F), (0x3000, 0x3000)]

/-- The set of a property that characters have or lack. -/
def flagProperty? (name : String) : Option CharSet :=
  if ["lowercase", "lower"].contains name then
    some (CharSet.union (categorySet (· == "ll"))
      (CharSet.ofRanges (rangesOf CategoryTables.moreLowercase)))
  else if ["uppercase", "upper"].contains name then
    some (CharSet.union (categorySet (· == "lu"))
      (CharSet.ofRanges (rangesOf CategoryTables.moreUppercase)))
  else if ["alphabetic", "alpha"].contains name then
    some (CharSet.union (categorySet fun s => s.startsWith "l" || s == "nl" || s == "mc")
      (CharSet.ofRanges
        (rangesOf (CategoryTables.moreLowercase ++ CategoryTables.moreUppercase))))
  else if ["whitespace", "wspace", "space"].contains name then
    some blankRanges
  else if ["asciihexdigit", "ahex"].contains name then
    some [(0x30, 0x39), (0x41, 0x46), (0x61, 0x66)]
  else none

/-- The set of a name on its own. -/
def namedSet (name : String) : Except Cause CharSet :=
  match (flagProperty? name).or ((category? name).or (scriptTables.lookup name)) with
  | some s => .ok s
  | none => .error .propertyUnknown

/-- The set of a value of a property. -/
def valueSet (property value : String) : Except Cause CharSet :=
  let found (s : Option CharSet) : Except Cause CharSet :=
    match s with
    | some s => .ok s
    | none => .error .propertyValueUnknown
  if ["generalcategory", "gc"].contains property then found (category? value)
  else if ["script", "sc", "scriptextensions", "scx"].contains property then
    found (scriptTables.lookup value)
  else .error .propertyUnknown

/-- The first place of `mark` in a text, as what stands before and behind it. -/
def splitAt? (mark : List Char) : List Char → List Char → Option (String × String)
  | _, [] => none
  | before, c :: cs =>
    if mark.isPrefixOf (c :: cs) then
      some (String.ofList before.reverse, String.ofList ((c :: cs).drop mark.length))
    else splitAt? mark (c :: before) cs

/-- The set of what stands in a `\p` class, and whether it is to be taken the other way round. -/
def propertySet (text : String) : Except Cause (CharSet × Bool) :=
  let cs := text.toList
  let positive (p : String × String) := (valueSet (bareName p.1) (bareName p.2)).map (·, false)
  match splitAt? ['!', '='] [] cs with
  | some p => (valueSet (bareName p.1) (bareName p.2)).map (·, true)
  | none =>
    match splitAt? [':'] [] cs with
    | some p => positive p
    | none =>
      match splitAt? ['='] [] cs with
      | some p => positive p
      | none => (namedSet (bareName text)).map (·, false)

end Conform.Regex
