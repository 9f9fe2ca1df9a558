import Conform.Regex.Meaning

/-!
# Patterns

A `Pattern` is a regular expression that has been made ready: its source, by which it is compared
and printed, and the texts that it accepts. Nothing else is asked of one, so all that is said about
validators holds whatever reads the expressions. `Pattern.ofSource` is the reader of this library.

* `Pattern.source_of_ofSource`: the pattern of a source has that source.
* `Pattern.source_email`: so has the one of e-mail addresses.
-/

set_option autoImplicit false

namespace Conform

/-- A regular expression: its source, and whether some part of a text matches. -/
structure Pattern where
  source : String
  accepts : String → Bool

namespace Pattern

/-- The pattern of a source, or the source with the error marked in it. -/
def ofSource (source : String) : Except String Pattern :=
  match Regex.read source with
  | .ok r => .ok ⟨source, r.matchesIn⟩
  | .error e => .error (e.render source)

theorem source_of_ofSource {s : String} {p : Pattern} (h : ofSource s = .ok p) : p.source = s := by
  unfold ofSource at h
  split at h
  · cases h
    rfl
  · cases h

theorem source_of_toOption {s : String} {p : Pattern} (h : (ofSource s).toOption = some p) :
    p.source = s := by
  cases hs : ofSource s with
  | ok q =>
    rw [hs] at h
    cases h
    exact source_of_ofSource hs
  | error e =>
    rw [hs] at h
    cases h

/-! ## E-mail addresses -/

/-- A local part of the usual characters, and at least two labels of a host name. -/
def emailSource : String :=
  "^[A-Za-z0-9.!#$%&'*+/=?^_`\x7b|\x7d~-]+@[A-Za-z0-9](?:[A-Za-z0-9-]\x7b0,61\x7d[A-Za-z0-9])?" ++
    "(?:\\.[A-Za-z0-9](?:[A-Za-z0-9-]\x7b0,61\x7d[A-Za-z0-9])?)+$"

theorem isSome_ofSource_emailSource : (ofSource emailSource).toOption.isSome = true := by
  decide +kernel

/-- The pattern of e-mail addresses. -/
def email : Pattern := (ofSource emailSource).toOption.get isSome_ofSource_emailSource

theorem source_email : email.source = emailSource :=
  source_of_toOption (Option.some_get isSome_ofSource_emailSource).symm

end Pattern

end Conform
