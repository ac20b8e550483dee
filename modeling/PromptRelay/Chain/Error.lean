/-
**Why a chain fails.**

* `ChainError`: the causes, `ChainError.message` their wording;
* `ChainError.isPreflight`: the causes that are found before any hop starts.
-/

import PromptRelay.Decimal.Layout
import PromptRelay.Hop.Failure

namespace PromptRelay

open Decimal

/-- What is wrong with the shape of a pattern. -/
inductive PatternFault where
  | noHops (name : String)
  | tooManyHops (name : String) (count limit : Nat)
  /-- A reason given in words. -/
  | stated (reason : String)
  deriving DecidableEq, Repr

/-- The wording of a fault. -/
def PatternFault.message : PatternFault → String
  | .noHops name => s!"Pattern '{name}' has no hops"
  | .tooManyHops name count limit => s!"Pattern '{name}' has {count} hops (max {limit})"
  | .stated reason => reason

/-- What is wrong with execution settings. -/
inductive SettingsFault where
  | badBudget (budget : Float)
  | zeroTimeout
  /-- A reason given in words. -/
  | stated (reason : String)
  deriving DecidableEq

/-- The wording of a fault. -/
def SettingsFault.message : SettingsFault → String
  | .badBudget budget => s!"cost budget must be a finite value >= 0, got {amountText budget}"
  | .zeroTimeout => "timeouts must be greater than 0"
  | .stated reason => reason

/-- Why a chain failed or could not start. -/
inductive ChainError where
  | patternInvalid (fault : PatternFault)
  | providerUnknown (id : String)
  | unknownPatternName (name : String)
  | settingsInvalid (fault : SettingsFault)
  | allHopsFailed (attempted : Nat)
  | hopAborted (index : Nat) (provider : String) (source : HopError)
  | chainTimeoutExceeded (milliseconds : Nat)
  /-- An operation that the chain's status does not allow. -/
  | invalidTransition (source target : String)
  deriving DecidableEq

namespace ChainError

/-- The wording of an error. -/
def message : ChainError → String
  | .patternInvalid fault => s!"Invalid hop pattern: {fault.message}"
  | .providerUnknown id => s!"Pattern references unknown provider '{id}'"
  | .unknownPatternName name => s!"Unknown pattern name '{name}'"
  | .settingsInvalid fault => s!"Invalid execution settings: {fault.message}"
  | .allHopsFailed attempted => s!"All {attempted} hops failed"
  | .hopAborted index provider source =>
    s!"Hop {index} ({provider}) failed and the chain was aborted: {source.message}"
  | .chainTimeoutExceeded milliseconds => s!"Chain exceeded its {milliseconds}ms time limit"
  | .invalidTransition source target => s!"Invalid chain transition from {source} to {target}"

/-- The error is found before any hop starts. -/
def isPreflight : ChainError → Bool
  | .patternInvalid _ | .providerUnknown _ | .unknownPatternName _ | .settingsInvalid _ => true
  | _ => false

end ChainError

end PromptRelay
