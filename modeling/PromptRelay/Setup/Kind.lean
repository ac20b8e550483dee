/-
**Kinds of setup error.**

Whatever goes wrong before a run is an error of one of five kinds, and its message begins with the
heading of its kind.

* `SetupErrorKind`: the kinds, `SetupErrorKind.label` their headings;
* `SetupErrorKind.message`: what went wrong, under the heading of a kind.
-/

namespace PromptRelay

/-- The kinds of setup error. -/
inductive SetupErrorKind where
  | notFound
  | validation
  | credential
  | configuration
  | internal
  deriving DecidableEq, Repr

namespace SetupErrorKind

/-- How the message of a kind begins. -/
def label : SetupErrorKind → String
  | .notFound => "Not found"
  | .validation => "Validation error"
  | .credential => "Credential error"
  | .configuration => "Configuration error"
  | .internal => "Internal error"

/-- The message of an error of a kind. -/
def message (kind : SetupErrorKind) (reason : String) : String :=
  s!"{kind.label}: {reason}"

end SetupErrorKind

end PromptRelay
