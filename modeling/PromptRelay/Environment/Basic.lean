/-
**Environment variables.**

* `Environment`: the variables that are set;
* `Environment.get?`, `Environment.set`, `Environment.unset`: one variable of them.
-/

import PromptRelay.Json.Value

namespace PromptRelay

/-- Environment variables by name. -/
structure Environment where
  entries : List (String × String) := []
  deriving DecidableEq, Repr, Inhabited

namespace Environment

/-- The value of a variable that is set. -/
def get? (environment : Environment) (name : String) : Option String :=
  Json.fieldOf? name environment.entries

/-- The environment without a variable. -/
def unset (environment : Environment) (name : String) : Environment :=
  ⟨environment.entries.filter fun entry => entry.1 ≠ name⟩

/-- The environment with a variable set. -/
def set (environment : Environment) (name value : String) : Environment :=
  ⟨(name, value) :: (environment.unset name).entries⟩

end Environment

end PromptRelay
