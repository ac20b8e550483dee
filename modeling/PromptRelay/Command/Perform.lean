/-
**Carrying out commands.**

Every command loads the configuration first. A run then takes its text, sets the relay up, answers
the one request and shows the response; the exit code says whether it succeeded.

* `Surroundings`: what a command needs from outside;
* `Command.perform`: the outcome of a command.
-/

import PromptRelay.Chain.Json
import PromptRelay.Command.Arguments
import PromptRelay.Command.Listing
import PromptRelay.Command.Outcome
import PromptRelay.Credential.Environment
import PromptRelay.Relay.Setup

namespace PromptRelay

/-- What a command needs from outside. -/
structure Surroundings (Effect : Type → Type) where
  sources : ConfigSources
  /-- All of the input, or why it cannot be read. -/
  readInput : Effect (Except String String)
  /-- The id and the start of a chain. -/
  newChain : Effect (ChainId × Timestamp)
  /-- A number that picks canned texts. -/
  seed : Nat
  /-- Posts a request of a run that as a whole waits no longer than some milliseconds. -/
  post : (chainTimeout : Nat) → HttpRequest → Effect HttpReply
  /-- Carries out several calls together; the replies come in the order of the calls. -/
  together : List (Effect Reply) → Effect (List Reply)

namespace RunOptions

/-- The text of a response as the options want it. -/
def display (options : RunOptions) (response : ChainResponse) : String :=
  (if options.compact then response.toJson.compact else response.toJson.pretty) ++ "\n"

/-- What an answered request shows. -/
def outcome (options : RunOptions) (answered : Answered) : Outcome :=
  let events := if options.events then String.join (answered.events.map Event.line) else ""
  let shown : Outcome := { output := options.display answered.response, errors := events }
  if answered.response.success then shown
  else
    let failure := CommandFailure.chain (answered.response.error.getD "unknown error")
    { shown with errors := events ++ failure.report, exitCode := 1 }

/-- Answers a text. -/
def answer {Effect : Type → Type} [Monad Effect] (options : RunOptions) (config : Config)
    (surroundings : Surroundings Effect) (text : String) : Effect Outcome := do
  let request := options.request text
  let limit := (request.settings config.settings).chainTimeout
  let credentials :=
    ({} : EnvironmentStore).withStandards.credential surroundings.sources.environment
  let registry := config.registry credentials surroundings.seed (surroundings.post limit)
  match Relay.ofConfig config registry with
  | .error error => return .failed (.relay error)
  | .ok relay =>
    let (id, now) ← surroundings.newChain
    let reply := registry.answer relay.catalog
    let answered ← (relay.answer id now request .free).runWith reply fun calls =>
      surroundings.together (calls.map reply)
    return options.outcome answered

/-- Answers the given text or the one of the input. -/
def perform {Effect : Type → Type} [Monad Effect] (options : RunOptions) (config : Config)
    (surroundings : Surroundings Effect) : Effect Outcome := do
  let given ← match options.text with
    | some text => pure (.ok text)
    | none => surroundings.readInput
  match given with
  | .error reason => return .failed (.unreadableInput reason)
  | .ok text =>
    if Text.isBlank text then return .failed .emptyText
    else options.answer config surroundings text

end RunOptions

/-- Lists the providers of a configuration. -/
def ProviderListing.perform (listing : ProviderListing) (config : Config) : Outcome :=
  match config.catalog with
  | .error error => .failed (.catalog error)
  | .ok catalog => .shown (listProviders listing catalog)

/-- Lists the patterns of a configuration. -/
def PatternListing.perform (listing : PatternListing) (config : Config) : Outcome :=
  match config.catalog with
  | .error error => .failed (.catalog error)
  | .ok catalog =>
    match config.selector catalog with
    | .error error => .failed (.patterns error)
    | .ok selector => .shown (listPatterns listing selector)

/-- Carries out a command. -/
def Command.perform {Effect : Type → Type} [Monad Effect] (command : Command)
    (surroundings : Surroundings Effect) : Effect Outcome :=
  match Config.load surroundings.sources with
  | .error fault => pure (.failed (.configuration fault))
  | .ok config =>
    match command with
    | .run options => options.perform config surroundings
    | .providers listing => pure (listing.perform config)
    | .patterns listing => pure (listing.perform config)

/-- How the program is used. -/
def usage : String :=
  "Usage: pmp-hop-router <COMMAND>\n\nCommands:\n" ++
    "  run        Route one input through a hop chain\n" ++
    "  providers  List the provider catalog\n" ++
    "  patterns   List the hop pattern presets\n"

/-- The program's name and version. -/
def versionLine : String := "pmp-hop-router 0.1.0\n"

/-- Carries out a command line. -/
def performArguments {Effect : Type → Type} [Monad Effect] (arguments : List String)
    (surroundings : Surroundings Effect) : Effect Outcome :=
  match Invocation.ofArguments arguments with
  | .error fault => pure (.misused s!"error: {fault.message}\n\n{usage}")
  | .ok .help => pure (.shown usage)
  | .ok .version => pure (.shown versionLine)
  | .ok (.command command) => command.perform surroundings

end PromptRelay
