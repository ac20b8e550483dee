/-
**Execution settings.**

* `Settings`: mode, budget, timeouts, policy and greatest hop count of a run;
* `Settings.fault?`: settings that would make budget or timeouts meaningless.
-/

import PromptRelay.Chain.Error
import PromptRelay.Chain.Status

namespace PromptRelay

/-- How a run is carried out. Timeouts are in milliseconds. -/
structure Settings where
  mode : ExecutionMode := .sequential
  budget : Float := 0.5
  hopTimeout : Nat := 30000
  chainTimeout : Nat := 120000
  policy : FallbackPolicy := .continue
  maxHops : Nat := 8
  deriving DecidableEq

namespace Settings

/-- What is wrong with settings, if anything: the budget, then the timeouts. -/
def fault? (settings : Settings) : Option SettingsFault :=
  if !settings.budget.isFinite || settings.budget < 0.0 then some (.badBudget settings.budget)
  else if settings.hopTimeout = 0 || settings.chainTimeout = 0 then some .zeroTimeout
  else none

end Settings

end PromptRelay
