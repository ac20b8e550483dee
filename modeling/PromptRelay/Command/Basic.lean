/-
**Commands.**

* `Command`: what the program can be told to do;
* `RunOptions.request`: the request that a run's options and text make.
-/

import PromptRelay.Relay.Request

namespace PromptRelay

/-- How one text is to be answered and shown. -/
structure RunOptions where
  /-- The text; without it the text is read from the input. -/
  text : Option String := none
  patternName : Option String := none
  providers : List String := []
  mode : Option ExecutionMode := none
  budget : Option Float := none
  hopTimeout : Option Nat := none
  chainTimeout : Option Nat := none
  /-- Events are shown. -/
  events : Bool := false
  /-- The response is shown on one line. -/
  compact : Bool := false
  deriving DecidableEq

/-- The request for a text; no provider given is no list of providers. -/
def RunOptions.request (options : RunOptions) (text : String) : RelayRequest where
  text := text
  patternName := options.patternName
  providers := if options.providers.isEmpty then none else some options.providers
  mode := options.mode
  budget := options.budget
  hopTimeout := options.hopTimeout
  chainTimeout := options.chainTimeout

/-- Which providers are listed and how. -/
structure ProviderListing where
  kind : Option BackendKind := none
  json : Bool := false
  deriving DecidableEq, Repr

/-- How the patterns are listed. -/
structure PatternListing where
  json : Bool := false
  deriving DecidableEq, Repr

/-- What the program can be told to do. -/
inductive Command where
  | run (options : RunOptions)
  | providers (listing : ProviderListing)
  | patterns (listing : PatternListing)
  deriving DecidableEq

end PromptRelay
