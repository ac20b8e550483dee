/-
**The relay.**

A relay answers requests: it picks the pattern, runs it with the request's settings, and makes a
response of whatever happened. A request for which no pattern is found gets a response as well.

* `Relay`: what all requests share;
* `Relay.answer`: the dialogue of one request;
* `Answered`: the response together with the chain and what the observer was told.
-/

import PromptRelay.Chain.Response
import PromptRelay.Relay.Request
import PromptRelay.Run.Execute

namespace PromptRelay

/-- What all requests share. -/
structure Relay where
  catalog : Catalog
  selector : Selector
  templates : PromptTemplates := {}
  /-- The settings of a request that wants none of its own. -/
  usual : Settings := {}

/-- What came of a request. -/
structure Answered where
  response : ChainResponse
  chain : Chain
  events : List Event
  /-- The turn in which the next request begins. -/
  turn : Turn

namespace Answered

/-- What came of a request whose pattern was run. -/
def ofExecution (execution : Execution) : Answered where
  response :=
    match execution.outcome with
    | .ok text => .completed execution.chain text execution.elapsed
    | .error error => .failed execution.chain error
  chain := execution.chain
  events := execution.events
  turn := execution.turn

/-- What came of a request for which there is no pattern: a chain that failed before it started. -/
def unselected (chain : Chain) (now : Timestamp) (error : ChainError) (turn : Turn) :
    Answered :=
  let failed := chain.forceFail now
  { response := .failed failed error, chain := failed, events := [], turn }

end Answered

namespace Relay

/-- The plan of a request whose pattern was picked. -/
def plan (relay : Relay) (request : RelayRequest) (pattern : HopPattern) : Plan where
  catalog := relay.catalog
  templates := relay.templates
  pattern := pattern
  settings := request.settings relay.usual

/-- Answers a request by a chain of the given id that is made now, in the turn that the request
before it has left. -/
def answer (relay : Relay) (id : ChainId) (now : Timestamp) (request : RelayRequest) (turn : Turn) :
    Dialogue Answered :=
  match relay.selector.select request.wish with
  | .error error =>
    let name := request.patternName.getD HopPattern.adHocName
    .done (.unselected (.new id now name request.text) now error turn)
  | .ok pattern =>
    (execute (relay.plan request pattern) (.new id now pattern.name request.text) turn).map
      Answered.ofExecution

end Relay

end PromptRelay
