/-
**The configuration.**

Everything has a usual value: seven providers, three patterns of two, four and six hops, the
addresses of the three services.

* `Config`: the configuration;
* `Config.fault?`: what is wrong with its settings, if anything;
* `Config.catalog`, `Config.selector`: what it makes of providers, patterns and presets;
* `Config.backend`: the backend of a kind.
-/

import PromptRelay.Backend.Services
import PromptRelay.Run.Settings
import PromptRelay.Setup.Error

namespace PromptRelay

/-- How log lines are written. -/
inductive LogFormat where
  | pretty
  | json
  deriving DecidableEq, Repr, Inhabited

namespace LogFormat

/-- Both forms. -/
def all : List LogFormat :=
  [.pretty, .json]

/-- The word for a form. -/
def word : LogFormat → String
  | .pretty => "pretty"
  | .json => "json"

end LogFormat

/-- What is logged and how. -/
structure Logging where
  level : String := "info"
  format : LogFormat := .pretty
  deriving DecidableEq, Repr

/-- When the preset changes and what the presets are. -/
structure Presets where
  thresholds : Thresholds := {}
  names : PresetNames := ⟨"quick", "balanced", "deep"⟩
  deriving DecidableEq, Repr

/-- Where the backends are. -/
structure BackendAddresses where
  localServer : String := Service.localServer.standardUrl
  /-- The local server is stood in for where it cannot be reached. -/
  localFallback : Bool := true
  openAi : String := Service.openAi.standardUrl
  anthropic : String := Service.anthropic.standardUrl
  deriving DecidableEq, Repr

namespace Config

/-- The usual providers. -/
def usualProviders : List Provider := [
  { id := "local-llama", displayName := "Llama 3.1 (local)", kind := .localServer
    quality := 0.62, specialty := "general", model := some "llama3.1" },
  { id := "local-mistral", displayName := "Mistral (local)", kind := .localServer
    quality := 0.58, specialty := "drafting", model := some "mistral" },
  { id := "gpt-4o-mini", displayName := "GPT-4o mini", kind := .openAi
    costPerToken := 0.0000006, quality := 0.78, specialty := "speed"
    model := some "gpt-4o-mini" },
  { id := "gpt-4o", displayName := "GPT-4o", kind := .openAi
    costPerToken := 0.00001, quality := 0.90, specialty := "reasoning", model := some "gpt-4o" },
  { id := "gpt-4.1", displayName := "GPT-4.1", kind := .openAi
    costPerToken := 0.000008, quality := 0.92, specialty := "analysis", model := some "gpt-4.1" },
  { id := "claude-haiku", displayName := "Claude Haiku", kind := .anthropic
    costPerToken := 0.000004, quality := 0.80, specialty := "summarization"
    model := some "claude-3-5-haiku-latest" },
  { id := "claude-sonnet", displayName := "Claude Sonnet", kind := .anthropic
    costPerToken := 0.000015, quality := 0.94, specialty := "writing"
    model := some "claude-3-5-sonnet-latest" }]

/-- The usual patterns. -/
def usualPatterns : List HopPattern := [
  { name := "quick"
    description := "Local draft refined by one hosted model"
    providers := ["local-llama", "gpt-4o-mini"] },
  { name := "balanced"
    description := "Draft, critique and refine across three backends"
    providers := ["local-llama", "gpt-4o-mini", "claude-haiku", "gpt-4o"] },
  { name := "deep"
    description := "Six-hop refinement across every backend"
    providers := ["local-llama", "local-mistral", "gpt-4o-mini", "claude-haiku", "gpt-4.1",
      "claude-sonnet"] }]

end Config

/-- The configuration of a relay. -/
structure Config where
  logging : Logging := {}
  settings : Settings := {}
  presets : Presets := {}
  providers : List Provider := Config.usualProviders
  patterns : List HopPattern := Config.usualPatterns
  addresses : BackendAddresses := {}
  deriving DecidableEq

namespace Config

/-- What is wrong with the settings, if anything: the hop limit, the timeouts, the budget. -/
def fault? (config : Config) : Option SetupError :=
  let settings := config.settings
  if settings.maxHops = 0 then some .zeroMaxHops
  else if settings.hopTimeout = 0 || settings.chainTimeout = 0 then some .zeroTimeouts
  else if !settings.budget.isFinite || settings.budget < 0.0 then
    some (.badBudget settings.budget)
  else none

/-- The catalog of the configured providers. -/
def catalog (config : Config) : Except SetupError Catalog :=
  (Catalog.ofList config.providers).mapError .provider

/-- The selector of the configured patterns and presets. -/
def selector (config : Config) (catalog : Catalog) : Except SetupError Selector := do
  let patterns ←
    (PatternSet.ofList config.patterns catalog config.settings.maxHops).mapError .patterns
  (Selector.ofPresets patterns config.presets.thresholds config.presets.names).mapError .selector

/-- The configured address of a kind of backend. -/
def address (config : Config) : BackendKind → String
  | .localServer => config.addresses.localServer
  | .openAi => config.addresses.openAi
  | .anthropic => config.addresses.anthropic

/-- The backend of a kind at its configured address. -/
def backend (config : Config) (kind : BackendKind) : Backend :=
  .ofKind kind (some (config.address kind)) config.addresses.localFallback

end Config

end PromptRelay
