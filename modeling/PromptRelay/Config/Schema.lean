/-
**The configuration in documents.**

The sections and keys of a configuration, for every document format. Each key has its usual value
where it is left off, save that a given `logging` section needs both of its keys and a given section
of a service its address.

* `Config.read`: the configuration that a value stands for;
* `Config.ofJson`: the same for JSON, taken strictly.
-/

import PromptRelay.Chain.Json
import PromptRelay.Config.Basic
import PromptRelay.Provider.Json

namespace PromptRelay

/-- The forms of log lines by their words. -/
def LogFormat.choice : Choice LogFormat :=
  ⟨"LogFormat", LogFormat.all.map fun format => (format.word, format)⟩

namespace Config

variable {Value Fault : Type} (format : Format Value Fault)

/-- The keys of the section `logging`. -/
def loggingForm : Form Value Fault Logging :=
  Logging.mk
    <$> .field "level" format.text
    <*> .field "format" (format.choice LogFormat.choice)

/-- The keys of the section `router`. -/
def settingsForm : Form Value Fault Settings :=
  let usual : Settings := {}
  (fun maxHops hopTimeout chainTimeout budget policy mode =>
    { mode, budget, hopTimeout, chainTimeout, policy, maxHops })
    <$> .fieldOr "max_hops" usual.maxHops (format.whole .size)
    <*> .fieldOr "default_per_hop_timeout_ms" usual.hopTimeout (format.whole .word64)
    <*> .fieldOr "default_chain_timeout_ms" usual.chainTimeout (format.whole .word64)
    <*> .fieldOr "default_cost_budget" usual.budget format.number
    <*> .fieldOr "fallback_policy" usual.policy (format.choice FallbackPolicy.choice)
    <*> .fieldOr "mode" usual.mode (format.choice ExecutionMode.choice)

/-- The keys of the section `selection`. -/
def presetsForm : Form Value Fault Presets :=
  let usual : Presets := {}
  (fun shortMax mediumMax short medium long => ⟨⟨shortMax, mediumMax⟩, ⟨short, medium, long⟩⟩)
    <$> .fieldOr "short_max_chars" usual.thresholds.shortMax (format.whole .size)
    <*> .fieldOr "medium_max_chars" usual.thresholds.mediumMax (format.whole .size)
    <*> .fieldOr "short_pattern" usual.names.short format.text
    <*> .fieldOr "medium_pattern" usual.names.medium format.text
    <*> .fieldOr "long_pattern" usual.names.long format.text

/-- The keys of an entry of `providers`. -/
def providerForm : Form Value Fault Provider :=
  Provider.mk
    <$> .field "id" format.text
    <*> .field "display_name" format.text
    <*> .field "backend_kind" (format.choice BackendKind.choice)
    <*> .fieldOr "cost_per_token" 0.0 format.number
    <*> .fieldOr "max_tokens" 4096 (format.whole .word32)
    <*> .fieldOr "quality_score" 0.5 format.number
    <*> .fieldOr "specialty" "" format.text
    <*> .fieldOr "model" none (format.nullable format.text)

/-- The keys of an entry of `patterns`. -/
def patternForm : Form Value Fault HopPattern :=
  HopPattern.mk
    <$> .field "name" format.text
    <*> .fieldOr "description" "" format.text
    <*> .field "providers" (format.list format.text)

/-- The keys of the section `backends.local`: the address and whether it is stood in for. -/
def localForm : Form Value Fault (String × Bool) :=
  let usual : BackendAddresses := {}
  Prod.mk
    <$> .fieldOr "base_url" usual.localServer format.text
    <*> .fieldOr "fallback_enabled" usual.localFallback format.flag

/-- The section of a service: its address. -/
def readAddress : Value → Except Fault String :=
  format.record "RemoteBackendConfig" (.field "base_url" format.text)

/-- The keys of the section `backends`. -/
def addressesForm : Form Value Fault BackendAddresses :=
  let usual : BackendAddresses := {}
  (fun localServer openAi anthropic => ⟨localServer.1, localServer.2, openAi, anthropic⟩)
    <$> .fieldOr "local" (usual.localServer, usual.localFallback)
      (format.record "LocalBackendConfig" (localForm format))
    <*> .fieldOr "openai" usual.openAi (readAddress format)
    <*> .fieldOr "anthropic" usual.anthropic (readAddress format)

/-- The sections of a configuration. -/
def form : Form Value Fault Config :=
  Config.mk
    <$> .fieldOr "logging" {} (format.record "LoggingConfig" (loggingForm format))
    <*> .fieldOr "router" {} (format.record "RouterConfig" (settingsForm format))
    <*> .fieldOr "selection" {} (format.record "SelectionConfig" (presetsForm format))
    <*> .fieldOr "providers" usualProviders
      (format.list (format.record "ProviderConfig" (providerForm format)))
    <*> .fieldOr "patterns" usualPatterns
      (format.list (format.record "PatternConfig" (patternForm format)))
    <*> .fieldOr "backends" {} (format.record "BackendsConfig" (addressesForm format))

/-- The configuration that a value stands for. -/
def read (value : Value) : Except Fault Config :=
  format.record "AppConfig" (form format) value

/-- The configuration that a JSON value stands for. -/
def ofJson : Json → Except Json.Fault Config :=
  read Json.strict

end Config

end PromptRelay
