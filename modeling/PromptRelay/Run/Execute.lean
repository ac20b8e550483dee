/-
**Running a pattern over a chain.**

Settings and pattern are checked and the chain is started before any hop is asked for; a failure
there is a result of its own. A chain that has ended is left as it is.

* `execute`: the dialogue of a whole run.
-/

import PromptRelay.Run.Parallel
import PromptRelay.Run.Sequential

namespace PromptRelay

namespace Plan

/-- What keeps the plan from being run, if anything: its settings, then its pattern. -/
def fault? (plan : Plan) : Option ChainError :=
  match plan.settings.fault? with
  | some fault => some (.settingsInvalid fault)
  | none => plan.pattern.fault? plan.catalog plan.settings.maxHops

/-- Checks the plan and starts the chain. -/
def start (plan : Plan) (chain : Chain) : Except ChainError Chain :=
  match plan.fault? with
  | some fault => .error fault
  | none => chain.start

/-- The hops of the plan in its mode. -/
def hops (plan : Plan) (progress : Progress) : Dialogue (Progress × Ending) :=
  match plan.settings.mode with
  | .sequential => sequential plan plan.pattern.providers 0 progress
  | .parallel => parallel plan plan.pattern.providers progress

/-- The first thing that the observer of a started chain is told. -/
def opening (plan : Plan) : Event :=
  .chainStarted plan.pattern.name plan.settings.mode plan.pattern.hopCount

end Plan

/-- Runs a plan on a chain, which has ended afterwards, from within a turn. -/
def execute (plan : Plan) (chain : Chain) (turn : Turn) : Dialogue Execution :=
  match plan.start chain with
  | .error error => .done (Progress.failWith ⟨chain, [], 0, turn⟩ error)
  | .ok started =>
    (plan.hops ⟨started, [plan.opening], 0, turn⟩).map fun (progress, ending) =>
      progress.conclude plan ending

end PromptRelay
