/-
**What is looked at before a request is run.**

The pattern of a request, its settings and its hops are looked at in this order, and the first thing
that is in the way halts the request before any hop is started. Nothing else does, and no request
can have more hops than usual, or other providers than those of the catalog.

* `RelayRequest.Resolves`: the settings of a request, its own or the usual ones;
* `Registry.isPreflight_iff`: an error is found beforehand when no hop was started;
* `Registry.provider_mem_of_delivery`: the clients are handed providers of the catalog alone;
* `Relay.Serves.halts_of_obstacle`, `Relay.Serves.starts_of_clear`: both directions for requests;
* `Registry.preflight_exact`: all of it, for every request.
-/

import PromptRelay.Proofs.Relay.Answers

namespace PromptRelay

variable {World : Type}

/-! ### The settings of a request -/

/-- A value is the one that was given, or the usual one where none was given. -/
def IsGiven {Value : Type} (given : Option Value) (usual value : Value) : Prop :=
  given = some value ∨ given = none ∧ value = usual

theorem isGiven_getD {Value : Type} (given : Option Value) (usual : Value) :
    IsGiven given usual (given.getD usual) := by
  cases given with
  | none => exact .inr ⟨rfl, rfl⟩
  | some value => exact .inl rfl

/-- The settings have the mode, budget and time limits that a request gives, and all else as
usual. -/
structure RelayRequest.Resolves (request : RelayRequest) (usual settings : Settings) : Prop where
  mode : IsGiven request.mode usual.mode settings.mode
  budget : IsGiven request.budget usual.budget settings.budget
  hopTimeout : IsGiven request.hopTimeout usual.hopTimeout settings.hopTimeout
  chainTimeout : IsGiven request.chainTimeout usual.chainTimeout settings.chainTimeout
  policy : settings.policy = usual.policy
  maxHops : settings.maxHops = usual.maxHops

theorem RelayRequest.resolves (request : RelayRequest) (usual : Settings) :
    request.Resolves usual (request.settings usual) :=
  ⟨isGiven_getD _ _, isGiven_getD _ _, isGiven_getD _ _, isGiven_getD _ _, rfl, rfl⟩

/-! ### Runs on a pending chain -/

namespace Registry

variable (registry : Registry (StateM World)) {plan : Plan} {chain : Chain}

/-- **The error of a run is found beforehand when no hop was started.** -/
theorem isPreflight_iff (plan : Plan) (pending : chain.status = .pending) (turn : Turn)
    (world : World) :
    (∃ error, (registry.perform plan chain turn world).outcome = .error error ∧
        error.isPreflight = true) ↔
      (registry.perform plan chain turn world).events.filter Event.isHopStarted = [] := by
  cases fault : plan.fault? with
  | some error =>
    have flaw := Plan.fault?_eq_some_iff.mp fault
    rw [(registry.perform_of_fault plan turn world fault).1]
    exact iff_of_true ⟨error, rfl, flaw.isPreflight⟩ rfl
  | none =>
    refine iff_of_false ?_ fun silent => ?_
    · rintro ⟨error, failed, preflight⟩
      have ofRun := ((registry.ends fault pending turn world).badly error failed).2
      rw [ChainError.not_isPreflight_of_isOfRun ofRun] at preflight
      cases preflight
    · obtain ⟨provider, _, told⟩ := registry.exists_first fault pending turn world
      have started := List.mem_filter.mpr ⟨told, (rfl : Event.isHopStarted _ = true)⟩
      rw [silent] at started
      cases started

theorem provider_mem_of_delivery {turn : Turn} {world : World} {delivery : Delivery}
    (member : delivery ∈ registry.deliveries plan chain turn world) :
    delivery.call.provider ∈ plan.catalog.providers := by
  rw [deliveries_eq] at member
  obtain ⟨exchange, _, delivered⟩ := List.mem_filterMap.mp member
  obtain ⟨call, handed, rfl⟩ := Option.map_eq_some_iff.mp delivered
  obtain ⟨provider, found, served⟩ := Option.bind_eq_some_iff.mp handed
  obtain ⟨client, _, rfl⟩ := Option.map_eq_some_iff.mp served
  exact Catalog.mem_of_find? found

theorem length_deliveries_le (sound : plan.fault? = none) (pending : chain.status = .pending)
    (turn : Turn) (world : World) :
    (registry.deliveries plan chain turn world).length ≤ plan.settings.maxHops := by
  have few := (HopPattern.fault?_eq_none_iff.mp (Plan.fault?_eq_none_iff.mp sound).2).2.1
  calc (registry.deliveries plan chain turn world).length
      ≤ (registry.heard plan chain turn world).length := by
        rw [deliveries_eq]
        exact List.length_filterMap_le _ _
    _ ≤ plan.pattern.hopCount := registry.length_heard_le sound pending turn world
    _ ≤ plan.settings.maxHops := few

end Registry

/-! ### Requests -/

namespace Relay.Serves

variable {relay : Relay} {registry : Registry (StateM World)} {id : ChainId} {now : Timestamp}
  {request : RelayRequest} {turn : Turn} {world : World} {answered : Answered}
  {handed : List Delivery} {cause : Option ChainError}

/-- **A request is halted by the first thing in its way.** -/
theorem halts_of_obstacle
    (serves : relay.Serves registry id now request turn world answered handed cause)
    {error : ChainError} (obstacle : relay.Obstacle request error) :
    cause = some error ∧ answered.Halts error ∧ handed = [] := by
  cases serves with
  | halted other halts =>
    cases other.unique obstacle
    exact ⟨rfl, halts, rfl⟩
  | started selected planned made sound =>
    rw [planned] at sound
    exact absurd obstacle (Relay.Obstacle.not_of_sound selected sound)

/-- **A request with nothing in its way is started.** -/
theorem starts_of_clear
    (serves : relay.Serves registry id now request turn world answered handed cause)
    (clear : ∀ error, ¬ relay.Obstacle request error) :
    (∃ provider, .hopStarted 0 provider ∈ answered.events) ∧
      ∀ error, cause = some error → error.isOfRun = true := by
  refine ⟨?_, fun error failed => ?_⟩
  · cases serves with
    | halted obstacle halts => exact absurd obstacle (clear _)
    | started selected planned made sound =>
      obtain ⟨provider, _, told⟩ :=
        registry.exists_first sound (Chain.isFresh_of_eq_new made).status turn world
      exact ⟨provider, told⟩
  · exact (serves.cause_cases failed).resolve_left fun halted => clear error halted.1

/-- **No request has more hops than usual**, or other providers than those of the catalog. -/
theorem handed_bounded
    (serves : relay.Serves registry id now request turn world answered handed cause) :
    handed.length ≤ relay.usual.maxHops ∧
      ∀ delivery ∈ handed, delivery.call.provider ∈ relay.catalog.providers := by
  cases serves with
  | halted obstacle halts => exact ⟨Nat.zero_le _, fun delivery member => by cases member⟩
  | started selected planned made sound =>
    have few :=
      registry.length_deliveries_le sound (Chain.isFresh_of_eq_new made).status turn world
    refine ⟨?_, fun delivery member => ?_⟩
    · rw [planned] at few ⊢
      exact few
    · have inside := registry.provider_mem_of_delivery member
      rw [planned] at inside
      exact inside

end Relay.Serves

namespace Registry

/-- **Every request is looked at before it is run, and by nothing else is it halted.** Its settings
are its own or the usual ones, policy and hop limit always the usual ones. What is in its way first,
by the order of `Relay.Obstacle`, is its error, and then no client is handed anything and no hop is
started or recorded. Where nothing is in its way, its first hop is started, and its error, if any,
is found later. So whatever the request, no more hops than usual are handed on, and all of them to
providers of the catalog. For a run on a pending chain as well the error is found beforehand when no
hop was started. -/
theorem preflight_exact (registry : Registry (StateM World)) (relay : Relay) (id : ChainId)
    (now : Timestamp) (request : RelayRequest) (turn : Turn) (world : World) :
    let answered := registry.answered relay id now request turn world
    let handed := registry.handed relay id now request turn world
    let cause := registry.cause? relay id now request turn world
    (∀ pattern, request.Resolves relay.usual (relay.plan request pattern).settings) ∧
    (∀ error, relay.Obstacle request error →
      cause = some error ∧ answered.response.error = some error.message ∧ handed = [] ∧
      answered.events.filter Event.isHopStarted = [] ∧ answered.chain.hops = [] ∧
      answered.response.hops = []) ∧
    ((∀ error, ¬ relay.Obstacle request error) →
      (∃ provider, .hopStarted 0 provider ∈ answered.events) ∧
      ∀ error, cause = some error → error.isPreflight = false) ∧
    handed.length ≤ relay.usual.maxHops ∧
    (∀ delivery ∈ handed, delivery.call.provider ∈ relay.catalog.providers) ∧
    (∀ (plan : Plan) (chain : Chain), chain.status = .pending →
      ((∃ error, (registry.perform plan chain turn world).outcome = .error error ∧
          error.isPreflight = true) ↔
        (registry.perform plan chain turn world).events.filter Event.isHopStarted = [])) := by
  intro answered handed cause
  have serves := registry.serves relay id now request turn world
  obtain ⟨few, known⟩ := serves.handed_bounded
  refine ⟨fun _ => request.resolves relay.usual, fun error obstacle => ?_, fun clear => ?_, few,
    known, fun plan chain pending => registry.isPreflight_iff plan pending turn world⟩
  · obtain ⟨failed, halts, silent⟩ := serves.halts_of_obstacle obstacle
    have response : answered.response = .failed answered.chain error := halts.response
    refine ⟨failed, ?_, silent, halts.started, halts.hops, ?_⟩
    · rw [response]
      rfl
    · rw [response]
      exact congrArg (List.map HopRecord.view) halts.hops
  · obtain ⟨started, ofRun⟩ := serves.starts_of_clear clear
    exact ⟨started, fun error failed =>
      ChainError.not_isPreflight_of_isOfRun (ofRun error failed)⟩

end Registry

/-- A relay with one provider, whose only pattern asks it once. -/
def Relay.solo (usual : Settings) : Relay where
  catalog := .solo
  selector :=
    let pattern : HopPattern := { name := "solo", providers := ["solo"] }
    { patterns := ⟨[pattern], usual.maxHops⟩
      thresholds := {}
      short := pattern
      medium := pattern
      long := pattern }
  usual := usual

/-- A request that lists three providers itself is halted where two hops are the most. -/
theorem Registry.preflight_exact_solo :
    let relay : Relay := .solo { maxHops := 2 }
    let request : RelayRequest :=
      { text := "Who is there?", providers := some ["solo", "solo", "solo"], budget := some 9.0 }
    let handed := rehearsed.handed relay (.ofRandom 0) ⟨0, 0⟩ request .free (.after 10 0.1)
    rehearsed.cause? relay (.ofRandom 0) ⟨0, 0⟩ request .free (.after 10 0.1) =
        some (.patternInvalid (.tooManyHops "custom" 3 2)) ∧
      handed = [] := by
  intro relay request handed
  obtain ⟨_, halted, _⟩ := preflight_exact rehearsed relay (.ofRandom 0) ⟨0, 0⟩ request .free
    (.after 10 0.1)
  have fault : (relay.plan request (.adHoc ["solo", "solo", "solo"])).fault? =
      some (.patternInvalid (.tooManyHops "custom" 3 2)) := by
    decide +kernel
  obtain ⟨failed, _, silent, _⟩ := halted _ (.flaw rfl (Plan.fault?_eq_some_iff.mp fault))
  exact ⟨failed, silent⟩

end PromptRelay
