/-
**Why the relay cannot be set up.**

* `SetupError`: the causes, from providers to credentials;
* `SetupError.kind`, `SetupError.message`: their kind and wording.
-/

import PromptRelay.Credential.Basic
import PromptRelay.Pattern.Selector

namespace PromptRelay

open Decimal

/-- Why the relay cannot be set up. -/
inductive SetupError where
  | provider (fault : ProviderFault)
  | patterns (fault : PatternSetFault)
  | selector (fault : SelectorFault)
  /-- A kind of backend that the catalog uses has no client. -/
  | uncovered (kind : BackendKind)
  | credential (fault : CredentialFault)
  /-- An error of a chain, met outside a run. -/
  | chain (error : ChainError)
  | zeroMaxHops
  | zeroTimeouts
  | badBudget (budget : Float)
  deriving DecidableEq

namespace SetupError

/-- The kind of a chain's error that is met outside a run. -/
def kindOfChain : ChainError → SetupErrorKind
  | .unknownPatternName _ | .providerUnknown _ => .notFound
  | .patternInvalid _ | .settingsInvalid _ => .validation
  | _ => .internal

/-- The kind of an error. -/
def kind : SetupError → SetupErrorKind
  | .provider _ => .validation
  | .patterns .zeroMaxHops => .configuration
  | .patterns (.unrunnable cause) => kindOfChain cause
  | .patterns (.duplicateName _) => .validation
  | .selector _ | .uncovered _ | .zeroMaxHops | .zeroTimeouts | .badBudget _ => .configuration
  | .credential fault => fault.kind
  | .chain error => kindOfChain error

/-- What went wrong, in words. -/
def reason : SetupError → String
  | .provider fault => fault.message
  | .patterns .zeroMaxHops => "max_hops must be greater than 0"
  | .patterns (.unrunnable cause) => cause.message
  | .patterns (.duplicateName name) => s!"Duplicate pattern name '{name}'"
  | .selector fault => fault.message
  | .uncovered kind => s!"No backend client registered for backend kind '{kind.word}'"
  | .credential fault => fault.reason
  | .chain error => error.message
  | .zeroMaxHops => "router.max_hops must be greater than 0"
  | .zeroTimeouts => "router timeouts must be greater than 0"
  | .badBudget budget => s!"router.default_cost_budget must be >= 0, got {amountText budget}"

/-- The wording of an error. -/
def message (error : SetupError) : String :=
  error.kind.message error.reason

end SetupError

end PromptRelay
