/-
**Where a run stands.**

* `Turn`: whether more hops are taken before the runs look at the time again;
* `Progress`: the chain, what was told to the observer, and how much time has passed;
* `Ending`: why a run stops asking for hops;
* `Progress.conclude`: the result of a run that has stopped.
-/

import PromptRelay.Chain.Scoring
import PromptRelay.Chain.Synthesis
import PromptRelay.Pattern.Basic
import PromptRelay.Prompt.Templates
import PromptRelay.Run.Dialogue
import PromptRelay.Run.Event
import PromptRelay.Run.Settings

namespace PromptRelay

/-- What a run is given. -/
structure Plan where
  catalog : Catalog
  templates : PromptTemplates
  pattern : HopPattern
  settings : Settings

/-- The turn under way. Hops that took time end in turns of limited size. A turn that is full stays
so, for the runs that follow as well, until a hop waits for a later one. -/
inductive Turn where
  /-- It takes more hops. -/
  | free
  /-- It has taken all it may. -/
  | full
  deriving DecidableEq, Repr

/-- Where a run stands between two steps. -/
structure Progress where
  chain : Chain
  /-- What the observer was told, the latest last. -/
  events : List Event
  /-- Milliseconds since the chain was started. -/
  elapsed : Nat
  turn : Turn

/-- The result of a run: how it ended, the chain, and what the observer was told. -/
structure Execution where
  outcome : Except ChainError String
  chain : Chain
  events : List Event
  /-- Milliseconds from start to end. -/
  elapsed : Nat
  /-- The turn in which the run ended. -/
  turn : Turn

/-- Why a run stops asking for hops. -/
inductive Ending where
  /-- No hop is left, or the others are skipped. -/
  | settled
  /-- The run failed. -/
  | failed (error : ChainError)
  /-- The time limit of the chain came first. -/
  | timedOut
  deriving DecidableEq

namespace Plan

/-- The call for a hop. -/
def call (plan : Plan) (index : Nat) (provider prompt : String) : HopCall :=
  ⟨index, provider, prompt, plan.settings.hopTimeout⟩

end Plan

namespace Progress

/-- Tells the observer of a step. -/
def tell (progress : Progress) (event : Event) : Progress :=
  { progress with events := progress.events ++ [event] }

/-- Lets time pass, with which a new turn begins. -/
def wait (progress : Progress) (milliseconds : Nat) : Progress :=
  if milliseconds = 0 then progress
  else { progress with elapsed := progress.elapsed + milliseconds, turn := .free }

/-- The present time. -/
def now (progress : Progress) : Timestamp :=
  progress.chain.createdAt.addMilliseconds progress.elapsed

/-- The observer is told that a hop is under way. -/
def launch (progress : Progress) (call : HopCall) : Progress :=
  progress.tell (.hopStarted call.index call.provider)

/-- The record of a call and what came of it. -/
def recordOf (call : HopCall) (seen : Reply) : HopRecord :=
  .ofResult call.index call.provider call.prompt seen.result seen.delay

/-- The observer is told what came of a hop, and the chain records it. -/
def settle (progress : Progress) (call : HopCall) (seen : Reply) :
    Except ChainError Progress :=
  let record := recordOf call seen
  let told := progress.tell
    (.hopCompleted call.index call.provider record.succeeded record.cost record.duration)
  match told.chain.record record with
  | .ok chain => .ok { told with chain }
  | .error error => .error error

/-- Scores the chain, merges its answers and completes it, unless no hop succeeded. -/
def finish (progress : Progress) (plan : Plan) : Except ChainError (Chain × String) :=
  let chain := progress.chain
  if chain.successes.isEmpty then .error (.allHopsFailed chain.hops.length)
  else
    let response := synthesize chain.hops plan.settings.mode plan.catalog
    match chain.complete progress.now (score chain.hops plan.catalog) response with
    | .ok completed => .ok (completed, response)
    | .error error => .error error

/-- The result of a run that failed. -/
def failWith (progress : Progress) (error : ChainError) : Execution where
  outcome := .error error
  chain := progress.chain.forceFail progress.now
  events := progress.events ++ [.chainFailed error.message]
  elapsed := progress.elapsed
  turn := progress.turn

/-- The result of a run that has stopped. -/
def conclude (progress : Progress) (plan : Plan) : Ending → Execution
  | .failed error => progress.failWith error
  | .timedOut =>
    let limit := plan.settings.chainTimeout
    { progress with elapsed := limit }.failWith (.chainTimeoutExceeded limit)
  | .settled =>
    match progress.finish plan with
    | .error error => progress.failWith error
    | .ok (chain, response) =>
      { outcome := .ok response
        chain
        events := progress.events ++
          [.chainCompleted chain.totalCost ((chain.metadata.map (·.tier)).getD .normal)]
        elapsed := progress.elapsed
        turn := progress.turn }

end Progress

end PromptRelay
