/-
**What an observer of a run is told.**

* `Event`: the steps of a run in the order in which they happen.
-/

import PromptRelay.Chain.Status

namespace PromptRelay

/-- A step of a run. -/
inductive Event where
  | chainStarted (pattern : String) (mode : ExecutionMode) (hopCount : Nat)
  | hopStarted (index : Nat) (provider : String)
  | hopCompleted (index : Nat) (provider : String) (succeeded : Bool) (cost : Float)
      (duration : Nat)
  | budgetExceeded (totalCost budget : Float) (skipped : Nat)
  | chainCompleted (totalCost : Float) (tier : RarityTier)
  | chainFailed (reason : String)
  deriving DecidableEq

/-- The name of a step. -/
def Event.name : Event → String
  | .chainStarted .. => "chain:started"
  | .hopStarted .. => "hop:started"
  | .hopCompleted .. => "hop:completed"
  | .budgetExceeded .. => "chain:budget_exceeded"
  | .chainCompleted .. => "chain:completed"
  | .chainFailed .. => "chain:failed"

end PromptRelay
