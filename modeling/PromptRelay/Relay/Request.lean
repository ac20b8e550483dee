/-
**Requests.**

A request is a text with what the caller wants otherwise than usual.

* `RelayRequest`: the request;
* `RelayRequest.ofJson`: the request that a JSON value stands for.
-/

import PromptRelay.Chain.Json
import PromptRelay.Pattern.Selector
import PromptRelay.Run.Settings

namespace PromptRelay

/-- A text to be answered, and what the caller says about the way. Timeouts are in milliseconds. -/
structure RelayRequest where
  text : String
  patternName : Option String := none
  providers : Option (List String) := none
  mode : Option ExecutionMode := none
  budget : Option Float := none
  hopTimeout : Option Nat := none
  chainTimeout : Option Nat := none
  deriving DecidableEq

namespace RelayRequest

open Json

/-- What the request says about the pattern it wants. -/
def wish (request : RelayRequest) : Wish where
  text := request.text
  patternName := request.patternName
  providers := request.providers

/-- The settings of the request: its own mode, budget and timeouts, and all else as usual. -/
def settings (request : RelayRequest) (usual : Settings) : Settings :=
  { usual with
    mode := request.mode.getD usual.mode
    budget := request.budget.getD usual.budget
    hopTimeout := request.hopTimeout.getD usual.hopTimeout
    chainTimeout := request.chainTimeout.getD usual.chainTimeout }

/-- The fields of a request; all but the text may be left off. -/
def form : Form Json Fault RelayRequest :=
  RelayRequest.mk
    <$> .field "text" strict.text
    <*> .fieldOr "patternName" none (strict.nullable strict.text)
    <*> .fieldOr "providers" none (strict.nullable (strict.list strict.text))
    <*> .fieldOr "mode" none (strict.nullable (strict.choice ExecutionMode.choice))
    <*> .fieldOr "costBudget" none (strict.nullable strict.number)
    <*> .fieldOr "perHopTimeoutMs" none (strict.nullable (strict.whole .word64))
    <*> .fieldOr "chainTimeoutMs" none (strict.nullable (strict.whole .word64))

/-- The request that a JSON value stands for. -/
def ofJson (value : Json) : Except Fault RelayRequest :=
  strict.record "ProcessRequest" form value

end RelayRequest

end PromptRelay
