/-
**What a command shows.**

* `Event.line`: the line of an event;
* `CommandFailure`: why a command failed, `CommandFailure.report` how it is told;
* `Outcome`: what is written to output and error output, and the exit code.
-/

import PromptRelay.Config.Sources
import PromptRelay.Relay.Basic
import PromptRelay.Setup.Error

namespace PromptRelay

open Decimal

/-- What happened, behind the event's name. -/
def Event.detail : Event → String
  | .chainStarted pattern mode hopCount => s!"{pattern} ({mode.word} mode, {hopCount} hops)"
  | .hopStarted index provider => s!"#{index} {provider}"
  | .hopCompleted index provider succeeded cost duration =>
    let result := if succeeded then "ok" else "failed"
    s!"#{index} {provider} {result} cost={fixedPlaces 6 cost} {duration}ms"
  | .budgetExceeded totalCost budget skipped =>
    s!"total={fixedPlaces 6 totalCost} budget={fixedPlaces 6 budget} skipped={skipped}"
  | .chainCompleted totalCost tier => s!"total={fixedPlaces 6 totalCost} tier={tier.word}"
  | .chainFailed reason => reason

/-- The line of an event. -/
def Event.line (event : Event) : String :=
  s!"[{event.name}] {event.detail}\n"

/-- Why a command failed. -/
inductive CommandFailure where
  | configuration (fault : ConfigFault)
  /-- The input could not be read for a stated reason. -/
  | unreadableInput (reason : String)
  | emptyText
  | relay (error : SetupError)
  | catalog (error : SetupError)
  | patterns (error : SetupError)
  /-- The chain failed for a stated reason. -/
  | chain (reason : String)
  deriving DecidableEq

namespace CommandFailure

/-- What failed. -/
def headline : CommandFailure → String
  | .configuration _ => "Failed to load configuration"
  | .unreadableInput _ => "Failed to read input from stdin"
  | .emptyText => "Input text is empty"
  | .relay _ => "Invalid router configuration"
  | .catalog _ => "Invalid provider catalog in configuration"
  | .patterns _ => "Invalid pattern configuration"
  | .chain reason => s!"Chain failed: {reason}"

/-- Why it failed, where there is more to say. -/
def cause? : CommandFailure → Option String
  | .configuration fault => some fault.message
  | .unreadableInput reason => some reason
  | .relay error | .catalog error | .patterns error => some error.message
  | .emptyText | .chain _ => none

/-- A text with each of its lines moved to the right. -/
def indented (text : String) : String :=
  "    " ++ text.replace "\n" "\n    "

/-- How a failure is told: what failed, and the cause under a heading of its own. -/
def report (failure : CommandFailure) : String :=
  let cause := match failure.cause? with
    | some cause => s!"\n\nCaused by:\n{indented cause}"
    | none => ""
  s!"Error: {failure.headline}{cause}\n"

end CommandFailure

/-- What a command writes and how it exits. -/
structure Outcome where
  output : String := ""
  errors : String := ""
  exitCode : Nat := 0
  deriving DecidableEq, Repr

namespace Outcome

/-- A command that writes a text. -/
def shown (output : String) : Outcome := { output }

/-- A command that failed before it wrote anything. -/
def failed (failure : CommandFailure) : Outcome where
  errors := failure.report
  exitCode := 1

/-- A command line that cannot be read. -/
def misused (message : String) : Outcome where
  errors := message
  exitCode := 2

end Outcome

end PromptRelay
