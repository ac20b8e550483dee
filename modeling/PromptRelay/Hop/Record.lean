/-
**What a hop yields.**

* `HopOutput`: what a backend answers;
* `HopRecord`: what a chain keeps of a hop, whether it succeeded or not.

A failed hop is never billed: its record has no content, no tokens and no cost.
-/

import PromptRelay.Hop.Failure

namespace PromptRelay

/-- A backend's answer to a prompt. -/
structure HopOutput where
  content : String
  tokens : Nat
  cost : Float
  deriving DecidableEq, Inhabited

/-- What a chain keeps of one hop. -/
structure HopRecord where
  index : Nat
  provider : String
  prompt : String
  content : Option String
  tokens : Nat
  cost : Float
  /-- Milliseconds from the start of the hop to its end. -/
  duration : Nat
  succeeded : Bool
  failureReason : Option String
  failureKind : Option FailureKind
  deriving DecidableEq, Inhabited

namespace HopRecord

/-- The record of a hop that was answered. -/
def success (index : Nat) (provider prompt : String) (output : HopOutput) (duration : Nat) :
    HopRecord where
  index := index
  provider := provider
  prompt := prompt
  content := some output.content
  tokens := output.tokens
  cost := output.cost
  duration := duration
  succeeded := true
  failureReason := none
  failureKind := none

/-- The record of a hop that failed. -/
def failure (index : Nat) (provider prompt : String) (error : HopError) (duration : Nat) :
    HopRecord where
  index := index
  provider := provider
  prompt := prompt
  content := none
  tokens := 0
  cost := 0.0
  duration := duration
  succeeded := false
  failureReason := some error.message
  failureKind := some error.kind

/-- The record of a hop, whatever came of it. -/
def ofResult (index : Nat) (provider prompt : String) (result : Except HopError HopOutput)
    (duration : Nat) : HopRecord :=
  match result with
  | .ok output => success index provider prompt output duration
  | .error error => failure index provider prompt error duration

end HopRecord

end PromptRelay
