/-
**Which keys of a configuration may be left off.**

A document gives some keys of some sections. Each key that it gives has the value that stands there,
and each that it leaves off has its usual one, with three exceptions. A section `logging` that is
given needs its level and its format, and the section of a service that is given needs its address:
where one of these is left off, its section has a gap, and the document is refused. Left off as a
whole, these sections are usual like all others. This holds in every format of documents.

* `ConfigKeys`: what is given of a configuration, with a structure for each section;
* `ConfigKeys.StandIn`: which keys a document gives, under their names;
* `ConfigKeys.over`: what is given, and a configuration for the rest;
* `ConfigKeys.Gap`: which keys are missing, behind the path to their section;
* `LoggingKeys.tells`, `ServiceKeys.tells`, `AddressesKeys.tells`, `ConfigKeys.tells`: a section is
  read as what is given over what is usual, where it has no gap;
* `Config.keys_optional`: all of it;
* `Config.level_alone_refused`: a document that gives a single key.
-/

import PromptRelay.Config.Schema
import PromptRelay.Proofs.Document.Sections

namespace PromptRelay

variable {Value Fault : Type}

/-! ### The keys that are given -/

/-- What is given of `logging`. -/
structure LoggingKeys where
  level : Option String := none
  format : Option LogFormat := none

/-- What is given of `router`. -/
structure SettingsKeys where
  maxHops : Option Nat := none
  hopTimeout : Option Nat := none
  chainTimeout : Option Nat := none
  budget : Option Float := none
  policy : Option FallbackPolicy := none
  mode : Option ExecutionMode := none

/-- What is given of `selection`. -/
structure PresetsKeys where
  shortMax : Option Nat := none
  mediumMax : Option Nat := none
  short : Option String := none
  medium : Option String := none
  long : Option String := none

/-- What is given of `backends.local`. -/
structure LocalKeys where
  address : Option String := none
  fallback : Option Bool := none

/-- What is given of the section of a service, `backends.openai` or `backends.anthropic`. -/
structure ServiceKeys where
  address : Option String := none

/-- What is given of `backends`. -/
structure AddressesKeys where
  localServer : Option LocalKeys := none
  openAi : Option ServiceKeys := none
  anthropic : Option ServiceKeys := none

/-- What is given of a configuration. -/
structure ConfigKeys where
  logging : Option LoggingKeys := none
  settings : Option SettingsKeys := none
  presets : Option PresetsKeys := none
  providers : Option (List Provider) := none
  patterns : Option (List HopPattern) := none
  addresses : Option AddressesKeys := none

/-! ### Where they stand in a document -/

section Standing

variable (format : Format Value Fault) (find? : String → Option Value)

structure LoggingKeys.StandIn (keys : LoggingKeys) : Prop where
  level : Gives format.text (find? "level") keys.level
  format : Gives (format.choice LogFormat.choice) (find? "format") keys.format

structure SettingsKeys.StandIn (keys : SettingsKeys) : Prop where
  maxHops : Gives (format.whole .size) (find? "max_hops") keys.maxHops
  hopTimeout : Gives (format.whole .word64) (find? "default_per_hop_timeout_ms") keys.hopTimeout
  chainTimeout : Gives (format.whole .word64) (find? "default_chain_timeout_ms") keys.chainTimeout
  budget : Gives format.number (find? "default_cost_budget") keys.budget
  policy : Gives (format.choice FallbackPolicy.choice) (find? "fallback_policy") keys.policy
  mode : Gives (format.choice ExecutionMode.choice) (find? "mode") keys.mode

structure PresetsKeys.StandIn (keys : PresetsKeys) : Prop where
  shortMax : Gives (format.whole .size) (find? "short_max_chars") keys.shortMax
  mediumMax : Gives (format.whole .size) (find? "medium_max_chars") keys.mediumMax
  short : Gives format.text (find? "short_pattern") keys.short
  medium : Gives format.text (find? "medium_pattern") keys.medium
  long : Gives format.text (find? "long_pattern") keys.long

structure LocalKeys.StandIn (keys : LocalKeys) : Prop where
  address : Gives format.text (find? "base_url") keys.address
  fallback : Gives format.flag (find? "fallback_enabled") keys.fallback

structure ServiceKeys.StandIn (keys : ServiceKeys) : Prop where
  address : Gives format.text (find? "base_url") keys.address

structure AddressesKeys.StandIn (keys : AddressesKeys) : Prop where
  localServer : Option.Rel (format.Section "LocalBackendConfig" (LocalKeys.StandIn format))
    (find? "local") keys.localServer
  openAi : Option.Rel (format.Section "RemoteBackendConfig" (ServiceKeys.StandIn format))
    (find? "openai") keys.openAi
  anthropic : Option.Rel (format.Section "RemoteBackendConfig" (ServiceKeys.StandIn format))
    (find? "anthropic") keys.anthropic

/-- The keys stand under their names, and what is found under no other name matters. -/
structure ConfigKeys.StandIn (keys : ConfigKeys) : Prop where
  logging : Option.Rel (format.Section "LoggingConfig" (LoggingKeys.StandIn format))
    (find? "logging") keys.logging
  settings : Option.Rel (format.Section "RouterConfig" (SettingsKeys.StandIn format))
    (find? "router") keys.settings
  presets : Option.Rel (format.Section "SelectionConfig" (PresetsKeys.StandIn format))
    (find? "selection") keys.presets
  providers : Gives (format.list (format.record "ProviderConfig" (Config.providerForm format)))
    (find? "providers") keys.providers
  patterns : Gives (format.list (format.record "PatternConfig" (Config.patternForm format)))
    (find? "patterns") keys.patterns
  addresses : Option.Rel (format.Section "BackendsConfig" (AddressesKeys.StandIn format))
    (find? "backends") keys.addresses

end Standing

/-! ### What they make of a configuration -/

def LoggingKeys.over (usual : Logging) (keys : LoggingKeys) : Logging where
  level := keys.level.getD usual.level
  format := keys.format.getD usual.format

def SettingsKeys.over (usual : Settings) (keys : SettingsKeys) : Settings where
  maxHops := keys.maxHops.getD usual.maxHops
  hopTimeout := keys.hopTimeout.getD usual.hopTimeout
  chainTimeout := keys.chainTimeout.getD usual.chainTimeout
  budget := keys.budget.getD usual.budget
  policy := keys.policy.getD usual.policy
  mode := keys.mode.getD usual.mode

def PresetsKeys.over (usual : Presets) (keys : PresetsKeys) : Presets where
  thresholds := {
    shortMax := keys.shortMax.getD usual.thresholds.shortMax
    mediumMax := keys.mediumMax.getD usual.thresholds.mediumMax }
  names := {
    short := keys.short.getD usual.names.short
    medium := keys.medium.getD usual.names.medium
    long := keys.long.getD usual.names.long }

/-- The address of the local server, and whether it is stood in for. -/
def LocalKeys.over (usual : String × Bool) (keys : LocalKeys) : String × Bool :=
  (keys.address.getD usual.1, keys.fallback.getD usual.2)

def ServiceKeys.over (usual : String) (keys : ServiceKeys) : String :=
  keys.address.getD usual

def AddressesKeys.over (usual : BackendAddresses) (keys : AddressesKeys) : BackendAddresses :=
  let usualLocal := (usual.localServer, usual.localFallback)
  let localServer := keys.localServer.elim usualLocal (LocalKeys.over usualLocal)
  { localServer := localServer.1
    localFallback := localServer.2
    openAi := keys.openAi.elim usual.openAi (ServiceKeys.over usual.openAi)
    anthropic := keys.anthropic.elim usual.anthropic (ServiceKeys.over usual.anthropic) }

/-- The keys that are given, over a configuration that tells the others. -/
def ConfigKeys.over (usual : Config) (keys : ConfigKeys) : Config where
  logging := keys.logging.elim usual.logging (LoggingKeys.over usual.logging)
  settings := keys.settings.elim usual.settings (SettingsKeys.over usual.settings)
  presets := keys.presets.elim usual.presets (PresetsKeys.over usual.presets)
  providers := keys.providers.getD usual.providers
  patterns := keys.patterns.getD usual.patterns
  addresses := keys.addresses.elim usual.addresses (AddressesKeys.over usual.addresses)

/-! ### Which keys are missing -/

inductive LoggingKeys.Gap (keys : LoggingKeys) : List String → String → Prop where
  | level (leftOff : keys.level = none) : Gap keys [] "level"
  | format (leftOff : keys.format = none) : Gap keys [] "format"

inductive ServiceKeys.Gap (keys : ServiceKeys) : List String → String → Prop where
  | address (leftOff : keys.address = none) : Gap keys [] "base_url"

inductive AddressesKeys.Gap (keys : AddressesKeys) : List String → String → Prop where
  | openAi {path : List String} {key : String}
      (isGap : ∃ service, keys.openAi = some service ∧ service.Gap path key) :
      Gap keys ("openai" :: path) key
  | anthropic {path : List String} {key : String}
      (isGap : ∃ service, keys.anthropic = some service ∧ service.Gap path key) :
      Gap keys ("anthropic" :: path) key

/-- A key is missing: the path to its section, which is given, and its name. -/
inductive ConfigKeys.Gap (keys : ConfigKeys) : List String → String → Prop where
  | logging {path : List String} {key : String}
      (isGap : ∃ logging, keys.logging = some logging ∧ logging.Gap path key) :
      Gap keys ("logging" :: path) key
  | addresses {path : List String} {key : String}
      (isGap : ∃ addresses, keys.addresses = some addresses ∧ addresses.Gap path key) :
      Gap keys ("backends" :: path) key

/-! ### What a document is read as -/

section Reading

variable {format : Format Value Fault} {value : Value}

/-- The settings have no gaps. -/
theorem SettingsKeys.read_eq {keys : SettingsKeys}
    (stands : format.Section "RouterConfig" (SettingsKeys.StandIn format) value keys) :
    format.record "RouterConfig" (Config.settingsForm format) value = .ok (keys.over {}) := by
  obtain ⟨opens, stands⟩ := stands
  rw [Format.record_named_eq opens]
  simp only [Config.settingsForm, Form.seq_apply, Form.map_apply,
    Form.fieldOr_apply stands.maxHops, Form.fieldOr_apply stands.hopTimeout,
    Form.fieldOr_apply stands.chainTimeout, Form.fieldOr_apply stands.budget,
    Form.fieldOr_apply stands.policy, Form.fieldOr_apply stands.mode]
  rfl

/-- The presets have no gaps. -/
theorem PresetsKeys.read_eq {keys : PresetsKeys}
    (stands : format.Section "SelectionConfig" (PresetsKeys.StandIn format) value keys) :
    format.record "SelectionConfig" (Config.presetsForm format) value = .ok (keys.over {}) := by
  obtain ⟨opens, stands⟩ := stands
  rw [Format.record_named_eq opens]
  simp only [Config.presetsForm, Form.seq_apply, Form.map_apply,
    Form.fieldOr_apply stands.shortMax, Form.fieldOr_apply stands.mediumMax,
    Form.fieldOr_apply stands.short, Form.fieldOr_apply stands.medium,
    Form.fieldOr_apply stands.long]
  rfl

/-- The section of the local server has no gaps. -/
theorem LocalKeys.read_eq {keys : LocalKeys}
    (stands : format.Section "LocalBackendConfig" (LocalKeys.StandIn format) value keys) :
    format.record "LocalBackendConfig" (Config.localForm format) value =
      .ok (keys.over (Service.localServer.standardUrl, true)) := by
  obtain ⟨opens, stands⟩ := stands
  rw [Format.record_named_eq opens]
  simp only [Config.localForm, Form.seq_apply, Form.map_apply, Form.fieldOr_apply stands.address,
    Form.fieldOr_apply stands.fallback]
  rfl

/-- Of the two keys of `logging` the one declared first is told to be missing. -/
theorem LoggingKeys.tells {keys : LoggingKeys} (usual : Logging)
    (stands : format.Section "LoggingConfig" (LoggingKeys.StandIn format) value keys) :
    format.Tells keys.Gap (keys.over usual)
      (format.record "LoggingConfig" (Config.loggingForm format) value) := by
  obtain ⟨opens, stands⟩ := stands
  rw [Format.record_named_eq opens]
  simp only [Config.loggingForm, Form.seq_apply, Form.map_apply, Form.field_apply stands.level,
    Form.field_apply stands.format]
  obtain ⟨level, layout⟩ := keys
  cases level with
  | none =>
    have isGap : Gap ⟨none, layout⟩ [] "level" := .level rfl
    cases layout <;> exact .lacking isGap
  | some level =>
    cases layout with
    | none => exact .lacking (Gap.format rfl)
    | some layout => exact .whole fun path key isGap => by cases isGap <;> contradiction

theorem ServiceKeys.tells {keys : ServiceKeys} (usual : String)
    (stands : format.Section "RemoteBackendConfig" (ServiceKeys.StandIn format) value keys) :
    format.Tells keys.Gap (keys.over usual) (Config.readAddress format value) := by
  obtain ⟨opens, stands⟩ := stands
  rw [Config.readAddress, Format.record_named_eq opens, Form.field_apply stands.address]
  obtain ⟨address⟩ := keys
  cases address with
  | none => exact .lacking (Gap.address rfl)
  | some address => exact .whole fun path key isGap => by cases isGap; contradiction

theorem AddressesKeys.tells {keys : AddressesKeys}
    (stands : format.Section "BackendsConfig" (AddressesKeys.StandIn format) value keys) :
    format.Tells keys.Gap (keys.over {})
      (format.record "BackendsConfig" (Config.addressesForm format) value) := by
  obtain @⟨find?, opens, stands⟩ := stands
  rw [Format.record_named_eq opens]
  simp only [Config.addressesForm, Form.seq_apply, Form.map_apply, Form.fieldOr_named_apply,
    elim_eq_ok stands.localServer LocalKeys.read_eq]
  let usual : BackendAddresses := {}
  have openAi := tells_elim usual.openAi stands.openAi (ServiceKeys.tells usual.openAi)
  have anthropic :=
    tells_elim usual.anthropic stands.anthropic (ServiceKeys.tells usual.anthropic)
  generalize (find? "openai").elim _ _ = readOpenAi at openAi ⊢
  generalize (find? "anthropic").elim _ _ = readAnthropic at anthropic ⊢
  cases anthropic with
  | lacking isGap =>
    -- Its name is the lesser one, so its gap is told even where the other service has one too.
    cases openAi <;> exact .lacking (Gap.anthropic isGap)
  | whole noAnthropicGap =>
    cases openAi with
    | lacking isGap => exact .lacking (Gap.openAi isGap)
    | whole noOpenAiGap =>
      refine .whole fun path key isGap => ?_
      cases isGap with
      | openAi isGap => exact noOpenAiGap _ _ isGap
      | anthropic isGap => exact noAnthropicGap _ _ isGap

/-- **A document is read** as what is given over what is usual, or refused for a gap. -/
theorem ConfigKeys.tells {keys : ConfigKeys}
    (stands : format.Section "AppConfig" (ConfigKeys.StandIn format) value keys) :
    format.Tells keys.Gap (keys.over {}) (Config.read format value) := by
  obtain @⟨find?, opens, stands⟩ := stands
  rw [Config.read, Format.record_named_eq opens]
  simp only [Config.form, Form.seq_apply, Form.map_apply, Form.fieldOr_apply stands.providers,
    Form.fieldOr_apply stands.patterns, Form.fieldOr_named_apply,
    elim_eq_ok stands.settings SettingsKeys.read_eq, elim_eq_ok stands.presets PresetsKeys.read_eq]
  have logging := tells_elim {} stands.logging (LoggingKeys.tells {})
  have addresses := tells_elim {} stands.addresses AddressesKeys.tells
  generalize (find? "logging").elim _ _ = readLogging at logging ⊢
  generalize (find? "backends").elim _ _ = readAddresses at addresses ⊢
  cases addresses with
  | lacking isGap =>
    -- As above, `backends` being less than `logging`.
    cases logging <;> exact .lacking (Gap.addresses isGap)
  | whole noAddressesGap =>
    cases logging with
    | lacking isGap => exact .lacking (Gap.logging isGap)
    | whole noLoggingGap =>
      refine .whole fun path key isGap => ?_
      cases isGap with
      | logging isGap => exact noLoggingGap _ _ isGap
      | addresses isGap => exact noAddressesGap _ _ isGap

end Reading

/-! ### All of it -/

namespace Config

/-- **Every key may be left off** but the level and the format of a given `logging` and the address
of a given service. A document without such a gap is read, in each format: what it gives has the
given value, and all else is usual. A document with a gap is refused for the key that is missing. -/
theorem keys_optional {Value Fault : Type} (format : Format Value Fault) (value : Value)
    (keys : ConfigKeys)
    (stands : format.Section "AppConfig" (ConfigKeys.StandIn format) value keys) :
    ((∀ path key, ¬ keys.Gap path key) → read format value = .ok (keys.over {})) ∧
    ((∃ path key, keys.Gap path key) → ∃ path key, keys.Gap path key ∧
      read format value = .error (path.foldr format.inField (format.missing key))) := by
  have tells := ConfigKeys.tells stands
  generalize read format value = outcome at tells ⊢
  cases tells with
  | whole noGap => exact ⟨fun _ => rfl, fun ⟨path, key, isGap⟩ => absurd isGap (noGap path key)⟩
  | lacking isGap =>
    exact ⟨fun noGap => absurd isGap (noGap _ _), fun _ => ⟨_, _, isGap, rfl⟩⟩

/-- One key of the settings, one of the local server and one of a service. -/
theorem keys_optional_three :
    let document : Json := .object [
      ("router", .object [("max_hops", .integer 6)]),
      ("backends", .object [
        ("local", .object [("fallback_enabled", .bool false)]),
        ("openai", .object [("base_url", .text "http://relay")])])]
    let keys : ConfigKeys := {
      settings := some { maxHops := some 6 }
      addresses := some {
        localServer := some { fallback := some false }
        openAi := some { address := some "http://relay" } } }
    Json.strict.Section "AppConfig" (ConfigKeys.StandIn Json.strict) document keys ∧
      (∀ path key, ¬ keys.Gap path key) ∧
      ofJson document = .ok {
        settings := { maxHops := 6 }
        addresses := { localFallback := false, openAi := "http://relay" } } := by
  intro document keys
  have localServer : Json.strict.Section "LocalBackendConfig" (LocalKeys.StandIn Json.strict)
      (.object [("fallback_enabled", .bool false)]) { fallback := some false } :=
    .laidOpen rfl ⟨.none, .some rfl⟩
  have openAi : Json.strict.Section "RemoteBackendConfig" (ServiceKeys.StandIn Json.strict)
      (.object [("base_url", .text "http://relay")]) { address := some "http://relay" } :=
    .laidOpen rfl ⟨.some rfl⟩
  have settings : Json.strict.Section "RouterConfig" (SettingsKeys.StandIn Json.strict)
      (.object [("max_hops", .integer 6)]) { maxHops := some 6 } :=
    .laidOpen rfl ⟨.some rfl, .none, .none, .none, .none, .none⟩
  have stands : Json.strict.Section "AppConfig" (ConfigKeys.StandIn Json.strict) document keys :=
    .laidOpen rfl ⟨.none, .some settings, .none, .none, .none,
      .some (.laidOpen rfl ⟨.some localServer, .some openAi, .none⟩)⟩
  have noGap : ∀ path key, ¬ keys.Gap path key := by
    rintro path key (⟨_, isGiven, _⟩ | ⟨_, isGiven, isGap⟩)
    · cases isGiven
    · cases isGiven
      rcases isGap with ⟨_, isGiven, isGap⟩ | ⟨_, isGiven, _⟩
      · cases isGiven
        rcases isGap with ⟨leftOff⟩
        cases leftOff
      · cases isGiven
  exact ⟨stands, noGap, (keys_optional Json.strict document keys stands).1 noGap⟩

/-- A section that gives its level and leaves off its format: all is well-typed, and the document is
refused for the format. -/
theorem level_alone_refused :
    let document : Json := .object [("logging", .object [("level", .text "debug")])]
    let keys : ConfigKeys := { logging := some { level := some "debug" } }
    Json.strict.Section "AppConfig" (ConfigKeys.StandIn Json.strict) document keys ∧
      ofJson document = .error (.missing "format") ∧
      ¬ ∃ config, ofJson document = .ok config := by
  intro document keys
  have logging : Json.strict.Section "LoggingConfig" (LoggingKeys.StandIn Json.strict)
      (.object [("level", .text "debug")]) { level := some "debug" } :=
    .laidOpen rfl ⟨.some rfl, .none⟩
  have refused : ofJson document = .error (.missing "format") := rfl
  refine ⟨.laidOpen rfl ⟨.some logging, .none, .none, .none, .none, .none⟩, refused, ?_⟩
  rintro ⟨config, isRead⟩
  rw [refused] at isRead
  cases isRead

end Config

end PromptRelay
