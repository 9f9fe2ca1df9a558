import Conform.Libraries

/-!
# Documents

A document is JSON, or YAML if the name of its file ends in `.yaml` or `.yml`. Files are looked up
by name in a `Files`, which has nothing for a name that cannot be read.
-/

set_option autoImplicit false

namespace Conform

/-- Why a text is no document. -/
inductive DocumentError
  | invalidJson
  | invalidYaml
  /-- A YAML value that has no place in JSON. -/
  | unfit (reason : Yaml.Unfit)

/-- The wording of an error. -/
def DocumentError.message : DocumentError → String
  | invalidJson => "invalid JSON"
  | invalidYaml => "invalid YAML"
  | unfit reason => reason.message

/-- Reads a document. -/
def readDocument [Libraries] (yaml : Bool) (text : String) : Except DocumentError Json :=
  if yaml then
    match Libraries.yaml? text with
    | some v => v.toJson.mapError .unfit
    | none => .error .invalidYaml
  else match Libraries.json? text with
    | some v => .ok v
    | none => .error .invalidJson

/-! ## Files -/

/-- The parts of a path between slashes, without empty ones and single dots. -/
def pathParts (path : List Char) : List (List Char) :=
  (path.splitOn '/').filter fun part => !part.isEmpty && part != ['.']

/-- What stands behind the last dot of a file name. A name has no extension if that dot is its first
character. -/
def extension? (path : String) : Option String :=
  match (pathParts path.toList).getLast? with
  | none => none
  | some name =>
    if name = ['.', '.'] then none
    else
      let tail := name.reverse.takeWhile (· != '.')
      if tail.length + 1 < name.length then some (String.ofList tail.reverse) else none

/-- The name of a YAML file. -/
def isYamlPath (path : String) : Bool :=
  extension? path = some "yaml" || extension? path = some "yml"

/-- The contents of files. -/
abbrev Files := String → Option String

/-- Why a file is not loaded. -/
inductive LoadError
  | unreadable (path : String)
  | unparsable (path : String) (reason : DocumentError)

/-- The wording of an error. -/
def LoadError.message : LoadError → String
  | unreadable path => s!"cannot read {path}"
  | unparsable path reason => s!"cannot parse {path}: {reason.message}"

/-- Loads the document in a file. -/
def loadDocument [Libraries] (files : Files) (path : String) : Except LoadError Json :=
  match files path with
  | none => .error (.unreadable path)
  | some text => (readDocument (isYamlPath path) text).mapError (.unparsable path)

end Conform
