import Conform.Invocation
import Conform.Json.Reader
import Conform.Schema.Draft
import Conform.Yaml.Reader

/-!
# The command line

`shapec compile SCHEMA` prints the tree of a compiled schema, `shapec validate SCHEMA DOCUMENT...`
checks documents against it. `Request.ofArgs` reads the arguments, and `Request.run` gives the exit
code and the two outputs, for any `Libraries`. `Libraries.builtIn` is what a program gets that has
no others.
-/

set_option autoImplicit false

namespace Conform

/-! ## Arguments -/

/-- What arguments ask for. -/
inductive Request
  | invoke (i : Invocation)
  | version
  | help
  | usage
deriving DecidableEq

namespace Request

/-- What has been read of the arguments of a command. -/
structure Progress where
  config : Option String
  flag : Bool
  values : List String

/-- The name of the flag of a command. -/
def flagOf (command : String) : String :=
  if command = "compile" then "--strict" else "--abort-early"

/-- A group of short options, each of which raises the level of the log. -/
def isVerbosity (arg : String) : Bool :=
  match arg.toList with
  | '-' :: 'v' :: rest => rest.all (· == 'v')
  | _ => false

/-- The value behind the equals sign of `--config=FILE`. -/
def configValue? (arg : String) : Option String :=
  if arg.startsWith "--config=" then some (String.ofList (arg.toList.drop 9)) else none

/-- An argument that is an option. A single dash is a value. -/
def isOption (arg : String) : Bool := arg.startsWith "-" && arg != "-"

/-- The command, once all its arguments are read. -/
def finish (command : String) (config : Option String) (p : Progress) : Request :=
  let config := p.config.or config
  match command, p.values with
  | "compile", [schema] => .invoke ⟨config, .compile schema p.flag⟩
  | "validate", schema :: d :: ds => .invoke ⟨config, .validate schema (d :: ds) p.flag⟩
  | _, _ => .usage

/-- One more value. A file name is never empty, and `compile` takes one. -/
def addValue (command : String) (p : Progress) (arg : String) : Option Progress :=
  if arg.isEmpty || (command == "compile" && !p.values.isEmpty) then none
  else some { p with values := p.values ++ [arg] }

/-- Reads values only. -/
def valuesOnly (command : String) (config : Option String) : List String → Progress → Request
  | [], p => finish command config p
  | arg :: args, p =>
    match addValue command p arg with
    | some p => valuesOnly command config args p
    | none => .usage

/-- Reads the arguments of a command. -/
def ofCommandArgs (command : String) (config : Option String) :
    List String → Progress → Request
  | [], p => finish command config p
  | "--" :: args, p => valuesOnly command config args p
  | "--config" :: value :: args, p =>
    if p.config.isSome || value.isEmpty || isOption value then .usage
    else ofCommandArgs command config args { p with config := some value }
  | arg :: args, p =>
    if arg = flagOf command then
      if p.flag then .usage else ofCommandArgs command config args { p with flag := true }
    else if arg = "--help" || arg = "-h" then .help
    else if arg = "--verbose" || isVerbosity arg then ofCommandArgs command config args p
    else match configValue? arg with
      | some value =>
        if p.config.isSome || value.isEmpty then .usage
        else ofCommandArgs command config args { p with config := some value }
      | none =>
        if isOption arg then .usage
        else match addValue command p arg with
          | some p => ofCommandArgs command config args p
          | none => .usage

/-- Reads the arguments up to the command. -/
def ofArgs (config : Option String) : List String → Request
  | [] => .usage
  | "--config" :: value :: args =>
    if config.isSome || value.isEmpty || isOption value then .usage
    else ofArgs (some value) args
  | arg :: args =>
    if arg = "compile" || arg = "validate" then ofCommandArgs arg config args ⟨none, false, []⟩
    else if arg = "--version" || arg = "-V" then .version
    else if arg = "--help" || arg = "-h" || arg = "help" then .help
    else if arg = "--verbose" || isVerbosity arg then ofArgs config args
    else match configValue? arg with
      | some value =>
        if config.isSome || value.isEmpty then .usage else ofArgs (some value) args
      | none => .usage

end Request

/-! ## Running -/

/-- The line that tells the version. -/
def versionLine : String := "shapec 0.1.0"

/-- How the program is called. -/
def usageText : String :=
  "Usage: shapec [--config FILE] [-v] compile SCHEMA [--strict]\n" ++
  "       shapec [--config FILE] [-v] validate SCHEMA DOCUMENT... [--abort-early]\n"

/-- The outcome of a request. -/
def Request.run [Libraries] (files : Files) : Request → Outcome
  | .invoke i => i.run files
  | .version => ⟨0, versionLine ++ "\n", ""⟩
  | .help => ⟨0, usageText, ""⟩
  | .usage => ⟨2, "", usageText⟩

/-! ## Libraries -/

/-- The readers and the check that this library has. -/
instance Libraries.builtIn : Libraries where
  json? := Json.read?
  yaml? := Yaml.read?
  pattern := Pattern.ofSource
  isSchema := Json.isSchema

end Conform
