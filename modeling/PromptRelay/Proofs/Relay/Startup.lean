/-
**A relay that was set up runs what it is asked for.**

Setting up looks at settings, patterns and backends before the first request. A request that keeps
to them is never refused later: its pattern is found, its plan has no fault, and each of its hops is
handed to a client.

* `Config.SetsUp`, `Relay.ofConfig_eq_ok_iff`: the relay of a configuration that passes every check;
* `RelayRequest.IsOrdinary`: a request that keeps to what is configured;
* `Config.SetsUp.exists_selected`, `Config.SetsUp.fault?_eq_none`: its pattern and its plan;
* `Registry.startup_suffices`: it is started, and no hop fails for a provider or a client.
-/

import PromptRelay.Proofs.Document.Forms
import PromptRelay.Proofs.Pattern.Sets
import PromptRelay.Proofs.Relay.Preflight
import PromptRelay.Proofs.Relay.Responses
import PromptRelay.Relay.Setup

namespace PromptRelay

variable {World : Type}

/-! ### Setting up -/

/-- The configuration passes every check, and the relay is made of it. -/
structure Config.SetsUp {Effect : Type → Type} (config : Config) (registry : Registry Effect)
    (relay : Relay) : Prop where
  valid : config.fault? = none
  catalog : config.catalog = .ok relay.catalog
  selector : config.selector relay.catalog = .ok relay.selector
  covers : registry.uncovered? relay.catalog = none
  usual : relay.usual = config.settings

/-- **A relay is set up** when the configuration passes every check. -/
theorem Relay.ofConfig_eq_ok_iff {Effect : Type → Type} {config : Config}
    {registry : Registry Effect} {relay : Relay} :
    Relay.ofConfig config registry = .ok relay ↔
      config.SetsUp registry relay ∧ relay.templates = {} := by
  constructor
  · intro made
    unfold ofConfig at made
    cases valid : config.fault? with
    | some fault =>
      rw [valid] at made
      cases made
    | none =>
      rw [valid] at made
      obtain ⟨catalog, isCatalog, made⟩ := bind_eq_ok_iff.mp made
      obtain ⟨selector, isSelector, made⟩ := bind_eq_ok_iff.mp made
      cases covers : registry.uncovered? catalog with
      | some kind =>
        rw [covers] at made
        cases made
      | none =>
        rw [covers] at made
        cases made
        exact ⟨⟨valid, isCatalog, isSelector, covers, rfl⟩, rfl⟩
  · rintro ⟨⟨valid, isCatalog, isSelector, covers, usual⟩, templates⟩
    unfold ofConfig
    rw [valid]
    refine bind_eq_ok_iff.mpr ⟨relay.catalog, isCatalog, ?_⟩
    refine bind_eq_ok_iff.mpr ⟨relay.selector, isSelector, ?_⟩
    rw [covers, ← usual, ← templates]
    rfl

/-- The settings of a configuration are looked at as those of a run are, but for the hop limit. -/
theorem Config.fault?_eq_none_iff {config : Config} :
    config.fault? = none ↔ config.settings.maxHops ≠ 0 ∧ config.settings.fault? = none := by
  rw [Settings.fault?_eq_none_iff, ← Settings.badBudget_iff, ← Settings.zeroTimeout_iff]
  unfold fault?
  dsimp only
  split
  · rename_i zero
    exact iff_of_false (Option.some_ne_none _) fun sound => sound.1 zero
  · rename_i someHops
    split
    · rename_i zero
      exact iff_of_false (Option.some_ne_none _) fun sound => sound.2.2 zero
    · rename_i positive
      split
      · rename_i bad
        exact iff_of_false (Option.some_ne_none _) fun sound => sound.2.1 bad
      · rename_i good
        exact iff_of_true rfl ⟨someHops, good, positive⟩

/-! ### Requests that keep to what is configured -/

/-- The request leaves the choice of the pattern to the relay or names one that is configured, its
own budget is a finite number not below zero, and its own time limits are not zero. -/
structure RelayRequest.IsOrdinary (request : RelayRequest) (config : Config) : Prop where
  pattern : (request.patternName = none ∧ request.providers = none) ∨
    ∃ pattern ∈ config.patterns, request.patternName = some pattern.name
  budget : ∀ budget, request.budget = some budget → budget.isFinite = true ∧ ¬ budget < 0.0
  hopTimeout : request.hopTimeout ≠ some 0
  chainTimeout : request.chainTimeout ≠ some 0

/-- What holds of the usual value and of any that is given holds of the one that is taken. -/
theorem IsGiven.holds {Value : Type} {given : Option Value} {usual value : Value}
    (taken : IsGiven given usual value) (property : Value → Prop) (ofUsual : property usual)
    (ofGiven : ∀ own, given = some own → property own) : property value := by
  rcases taken with own | ⟨_, rfl⟩
  · exact ofGiven value own
  · exact ofUsual

namespace Config.SetsUp

variable {config : Config} {registry : Registry (StateM World)} {relay : Relay}
  {request : RelayRequest}

/-- The patterns of the relay are the configured ones, its presets are among them, and each may be
run. -/
theorem patterns (setUp : config.SetsUp registry relay) :
    relay.selector.patterns.patterns = config.patterns ∧
      (∀ length, relay.selector.presetFor length ∈ config.patterns) ∧
      ∀ pattern ∈ config.patterns,
        pattern.fault? relay.catalog config.settings.maxHops = none := by
  obtain ⟨set, isSet, isSelector⟩ := bind_eq_ok_iff.mp setUp.selector
  obtain ⟨given, sound⟩ := PatternSet.sound_of_ofList (mapError_eq_ok_iff.mp isSet)
  obtain ⟨same, presets⟩ := Selector.presets_of_ofPresets (mapError_eq_ok_iff.mp isSelector)
  rw [given] at presets
  rw [same]
  exact ⟨given, presets, sound⟩

/-- **The pattern of an ordinary request is found**, and it is a configured one. -/
theorem exists_selected (setUp : config.SetsUp registry relay)
    (ordinary : request.IsOrdinary config) :
    ∃ pattern ∈ config.patterns, relay.selector.select request.wish = .ok pattern := by
  obtain ⟨configured, presets, _⟩ := setUp.patterns
  rw [← configured] at presets ⊢
  cases selected : relay.selector.select request.wish with
  | ok pattern =>
    refine ⟨pattern, Selector.mem_of_select presets ?_ selected, rfl⟩
    rcases ordinary.pattern with ⟨_, unlisted⟩ | ⟨pattern, _, named⟩
    · exact .inr unlisted
    · refine .inl ?_
      show request.patternName ≠ none
      rw [named]
      exact Option.some_ne_none _
  | error error =>
    obtain ⟨name, wanted, unknown, _⟩ := Selector.select_eq_error_iff.mp selected
    replace wanted : request.patternName = some name := wanted
    rcases ordinary.pattern with ⟨unnamed, _⟩ | ⟨pattern, member, named⟩
    · rw [unnamed] at wanted
      cases wanted
    · rw [named] at wanted
      cases wanted
      rw [← configured] at member
      exact absurd rfl (unknown pattern member)

theorem settings (setUp : config.SetsUp registry relay) (ordinary : request.IsOrdinary config) :
    (request.settings relay.usual).fault? = none := by
  have usual := (Config.fault?_eq_none_iff.mp setUp.valid).2
  rw [← setUp.usual] at usual
  obtain ⟨good, positive⟩ := Settings.fault?_eq_none_iff.mp usual
  have resolves := request.resolves relay.usual
  have hopTimeout := resolves.hopTimeout.holds (· ≠ 0) (mt .inl positive) fun own given zero =>
    ordinary.hopTimeout (zero ▸ given)
  have chainTimeout := resolves.chainTimeout.holds (· ≠ 0) (mt .inr positive) fun own given zero =>
    ordinary.chainTimeout (zero ▸ given)
  have budget := resolves.budget.holds
    (fun budget => ¬ (budget.isFinite = false ∨ budget < 0.0)) good fun own given => by
      obtain ⟨finite, notBelow⟩ := ordinary.budget own given
      rw [finite]
      exact not_or.mpr ⟨Bool.noConfusion, notBelow⟩
  exact Settings.fault?_eq_none_iff.mpr ⟨budget, not_or.mpr ⟨hopTimeout, chainTimeout⟩⟩

/-- **The plan of an ordinary request has no fault.** -/
theorem fault?_eq_none (setUp : config.SetsUp registry relay)
    (ordinary : request.IsOrdinary config) {pattern : HopPattern}
    (member : pattern ∈ config.patterns) : (relay.plan request pattern).fault? = none := by
  have runnable := setUp.patterns.2.2 pattern member
  rw [← setUp.usual] at runnable
  exact Plan.fault?_eq_none_iff.mpr ⟨setUp.settings ordinary, runnable⟩

end Config.SetsUp

namespace Registry

/-- **What was set up is enough.** Where a configuration passes every check, each request that keeps
to it is started with a configured pattern, the one that it names if it names one, and if it fails
it fails with an error of a run. Every provider of its pattern is in the catalog and has a client, so
each hop that is started is handed on to the client of its provider's kind, and each record says what
came of this. -/
theorem startup_suffices (registry : Registry (StateM World)) (config : Config) (relay : Relay)
    (setUp : config.SetsUp registry relay) (id : ChainId) (now : Timestamp)
    (request : RelayRequest) (turn : Turn) (world : World)
    (ordinary : request.IsOrdinary config) :
    let answered := registry.answered relay id now request turn world
    let handed := registry.handed relay id now request turn world
    let cause := registry.cause? relay id now request turn world
    ∃ pattern ∈ config.patterns, relay.selector.select request.wish = .ok pattern ∧
      (∀ name, request.patternName = some name → pattern.name = name) ∧
      let plan := relay.plan request pattern
      (∃ later, answered.events = plan.opening :: later) ∧
      (∃ provider, .hopStarted 0 provider ∈ answered.events) ∧
      answered.response.error = cause.map ChainError.message ∧
      (∀ error, cause = some error → error.isOfRun = true) ∧
      (∀ id ∈ pattern.providers, ∃ provider, relay.catalog.find? id = some provider ∧
        (registry.client? provider.kind).isSome = true) ∧
      (∃ prompt, List.Forall₂ (plan.Hands prompt) (answered.events.filter Event.isHopStarted)
        handed) ∧
      ∀ record ∈ answered.chain.hops, ∃ delivery, handed[record.index]? = some delivery ∧
        plan.Accounts delivery record := by
  intro answered handed cause
  obtain ⟨pattern, member, selected⟩ := setUp.exists_selected ordinary
  let plan := relay.plan request pattern
  let chain := Chain.new id now pattern.name request.text
  have sound : plan.fault? = none := setUp.fault?_eq_none ordinary member
  have fresh : chain.IsFresh := Chain.isFresh_of_eq_new rfl
  have clear : ∀ error, ¬ relay.Obstacle request error := fun error =>
    Relay.Obstacle.not_of_sound selected sound
  have serves := registry.serves relay id now request turn world
  obtain ⟨started, ofRun⟩ := serves.starts_of_clear clear
  obtain ⟨isAnswered, isHanded, _⟩ :
      answered = .ofExecution (registry.perform plan chain turn world) ∧
        handed = registry.deliveries plan chain turn world ∧ _ :=
    registry.answered_of_selected id now turn world selected
  refine ⟨pattern, member, selected, fun _ named => Selector.name_of_select named selected, ?_,
    started, serves.error_eq, ofRun, fun id named => ?_, ?_, fun record recorded => ?_⟩
  · rw [isAnswered]
    exact registry.exists_opening sound fresh.status turn world
  · obtain ⟨provider, found⟩ :=
      HopPattern.exists_provider (Plan.fault?_eq_none_iff.mp sound).2 named
    obtain ⟨client, served⟩ := exists_client setUp.covers found
    refine ⟨provider, found, ?_⟩
    rw [served]
    rfl
  · rw [isAnswered, isHanded]
    exact ⟨_, registry.forall₂_hands sound setUp.covers fresh turn world⟩
  · rw [isAnswered] at recorded
    rw [isHanded]
    exact (registry.exists_delivery sound setUp.covers fresh turn world recorded).2

/-- The usual configuration is set up, and a request for its longest pattern is started. -/
theorem startup_suffices_usual :
    let request : RelayRequest :=
      { text := "Who is there?", patternName := some "deep", budget := some 0.2 }
    ∃ relay, Relay.ofConfig ({} : Config) rehearsed = .ok relay ∧
      ∃ pattern ∈ Config.usualPatterns, relay.selector.select request.wish = .ok pattern ∧
        pattern.name = "deep" ∧
        ∃ provider, .hopStarted 0 provider ∈ (rehearsed.answered relay (.ofRandom 0) ⟨0, 0⟩ request
          .free (.after 10 0.1)).events := by
  intro request
  have passes : (Relay.ofConfig ({} : Config) rehearsed).isOk = true := by
    decide +kernel
  obtain ⟨relay, made⟩ : ∃ relay, Relay.ofConfig ({} : Config) rehearsed = .ok relay := by
    cases made : Relay.ofConfig ({} : Config) rehearsed with
    | ok relay => exact ⟨relay, rfl⟩
    | error error =>
      rw [made] at passes
      cases passes
  have ordinary : request.IsOrdinary {} := by
    refine ⟨.inr ⟨_, .tail _ (.tail _ (.head _)), rfl⟩, fun budget given => ?_, ?_, ?_⟩
    · cases given
      decide +kernel
    · decide
    · decide
  obtain ⟨pattern, member, selected, sameName, _, started, _⟩ := startup_suffices rehearsed {} relay
    (Relay.ofConfig_eq_ok_iff.mp made).1 (.ofRandom 0) ⟨0, 0⟩ request .free (.after 10 0.1) ordinary
  exact ⟨relay, made, pattern, member, selected, sameName _ rfl, started⟩

end Registry

end PromptRelay
