/-
**What a response says.**

Every request gets a response, and the response fits together, whatever has happened. It lists the
hops that were recorded, in the order of the pattern. Where it tells of success it gives the score of
these hops and a time within the limit; where it tells of a failure it apologizes, names the cause
and bills nothing.

* `Answered.Succeeds`, `ChainResponse.Apologizes`: what a response says in either case;
* `Relay.Serves.increasing`, `Relay.Serves.arrivals`: the hops that a response lists;
* `Relay.Serves.succeeds`, `Relay.Serves.apologizes`: the two cases;
* `Registry.responses_sound`: all of it, for every request.
-/

import PromptRelay.Proofs.Chain.Scoring
import PromptRelay.Proofs.Relay.Answers
import PromptRelay.Proofs.Run.Accounts

namespace PromptRelay

variable {World : Type}

/-- The word that the hop of a view has ended. -/
def HopView.arrival (view : HopView) : Event :=
  .hopCompleted view.index view.provider view.succeeded view.cost view.duration

/-- The response tells of a chain that was completed within a time limit: some hop has succeeded,
and quality, diversity and tier are those of the recorded hops. -/
structure Answered.Succeeds (answered : Answered) (catalog : Catalog) (limit : Nat) : Prop where
  hop : ∃ hop ∈ answered.response.hops, hop.succeeded = true
  tier : answered.response.tier = .classify answered.response.successCount
    answered.response.quality answered.response.diversity
  quality : answered.response.quality = (score answered.chain.hops catalog).quality
  diversity : answered.response.diversity = (score answered.chain.hops catalog).diversity
  inTime : answered.response.duration ≤ limit

/-- The response apologizes for an error, which it names, and is worth and costs nothing. -/
structure ChainResponse.Apologizes (response : ChainResponse) (error : ChainError) : Prop where
  text : response.response = apology
  quality : response.quality = 0.0
  diversity : response.diversity = 0.0
  totalCost : response.totalCost = 0.0
  duration : response.duration = 0
  tier : response.tier = .normal
  error : response.error = some error.message

theorem ChainResponse.apologizes_failed (chain : Chain) (error : ChainError) :
    (ChainResponse.failed chain error).Apologizes error :=
  ⟨rfl, rfl, rfl, rfl, rfl, rfl, rfl⟩

namespace Answered

variable {execution : Execution}

theorem ofExecution_hops (execution : Execution) :
    (ofExecution execution).response.hops = execution.chain.hops.map HopRecord.view := by
  unfold ofExecution
  cases execution.outcome with
  | ok text => rfl
  | error error => rfl

theorem ofExecution_of_ok {text : String} (ok : execution.outcome = .ok text) :
    (ofExecution execution).response = .completed execution.chain text execution.elapsed := by
  unfold ofExecution
  rw [ok]

theorem ofExecution_of_error {error : ChainError} (failed : execution.outcome = .error error) :
    (ofExecution execution).response = .failed execution.chain error := by
  unfold ofExecution
  rw [failed]

/-- **A run that ends well** is answered by the score of what it has recorded. -/
theorem succeeds_of_ends {plan : Plan} (ends : execution.Ends plan) {text : String}
    (ok : execution.outcome = .ok text) :
    (ofExecution execution).Succeeds plan.catalog plan.settings.chainTimeout := by
  obtain ⟨_, _, scored, someSuccess⟩ := ends.well text ok
  have response := ofExecution_of_ok ok
  have metadata : execution.chain.metadata.getD {} =
      score execution.chain.hops plan.catalog := by
    rw [scored]
    rfl
  have quality : (ofExecution execution).response.quality =
      (score execution.chain.hops plan.catalog).quality := by
    rw [response, ← metadata]
    rfl
  have diversity : (ofExecution execution).response.diversity =
      (score execution.chain.hops plan.catalog).diversity := by
    rw [response, ← metadata]
    rfl
  have count : (ofExecution execution).response.successCount =
      (execution.chain.hops.filter HopRecord.succeeded).length := by
    unfold ChainResponse.successCount
    rw [ofExecution_hops, List.filter_map, List.length_map]
    rfl
  refine ⟨?_, ?_, quality, diversity, ?_⟩
  · obtain ⟨record, member⟩ := List.exists_mem_of_ne_nil _ someSuccess
    obtain ⟨recorded, succeeded⟩ := List.mem_filter.mp member
    rw [ofExecution_hops]
    exact ⟨record.view, List.mem_map_of_mem recorded, succeeded⟩
  · rw [count, quality, diversity, ← score_tier, ← metadata, response]
    rfl
  · rw [response]
    exact ends.inTime

end Answered

namespace Relay.Serves

variable {relay : Relay} {registry : Registry (StateM World)} {id : ChainId} {now : Timestamp}
  {request : RelayRequest} {turn : Turn} {world : World} {answered : Answered}
  {handed : List Delivery} {cause : Option ChainError}

theorem hops_eq
    (serves : relay.Serves registry id now request turn world answered handed cause) :
    answered.response.hops = answered.chain.hops.map HopRecord.view := by
  cases serves with
  | halted obstacle halts =>
    rw [halts.response]
    rfl
  | started selected planned made sound => exact Answered.ofExecution_hops _

/-- **The hops of a response are in the order of the pattern.** -/
theorem increasing
    (serves : relay.Serves registry id now request turn world answered handed cause) :
    answered.response.hops.Pairwise fun first second => first.index < second.index := by
  rw [serves.hops_eq, List.pairwise_map]
  cases serves with
  | halted obstacle halts =>
    rw [halts.hops]
    exact .nil
  | started selected planned made sound =>
    exact registry.increasing_hops sound (Chain.isFresh_of_eq_new made) turn world

/-- **The hops of a response are those that were told to have ended.** -/
theorem arrivals
    (serves : relay.Serves registry id now request turn world answered handed cause) :
    (answered.response.hops.map HopView.arrival).Perm
      (answered.events.filter Event.isHopCompleted) := by
  rw [serves.hops_eq, List.map_map]
  cases serves with
  | halted obstacle halts =>
    rw [halts.hops, halts.completed]
    exact .nil
  | started selected planned made sound =>
    obtain ⟨taken, _, _, _, told, same, _⟩ :=
      registry.exists_taken sound (Chain.isFresh_of_eq_new made) turn world
    show (_ : List Event).Perm ((registry.perform _ _ turn world).events.filter _)
    rw [told]
    exact same.map HopRecord.arrival

/-- **A request that does not fail succeeds**, by what its chain has recorded. -/
theorem succeeds
    (serves : relay.Serves registry id now request turn world answered handed cause)
    (well : cause = none) :
    (∃ text duration, answered.response = .completed answered.chain text duration) ∧
      answered.Succeeds relay.catalog (request.settings relay.usual).chainTimeout := by
  cases serves with
  | halted obstacle halts => cases well
  | @started pattern plan chain selected planned made sound =>
    have ends := registry.ends sound (Chain.isFresh_of_eq_new made).status turn world
    obtain ⟨text, outcome⟩ := Execution.cause?_eq_none_iff.mp well
    have succeeds := Answered.succeeds_of_ends ends outcome
    have catalog : plan.catalog = relay.catalog := congrArg Plan.catalog planned
    have settings : plan.settings = request.settings relay.usual := congrArg Plan.settings planned
    rw [catalog, settings] at succeeds
    exact ⟨⟨text, _, Answered.ofExecution_of_ok outcome⟩, succeeds⟩

/-- **A request that fails is answered by an apology** for the error. -/
theorem apologizes
    (serves : relay.Serves registry id now request turn world answered handed cause)
    {error : ChainError} (failed : cause = some error) :
    answered.response = .failed answered.chain error := by
  cases serves with
  | halted obstacle halts =>
    cases failed
    exact halts.response
  | started selected planned made sound =>
    exact Answered.ofExecution_of_error (Execution.cause?_eq_some_iff.mp failed)

theorem error_eq
    (serves : relay.Serves registry id now request turn world answered handed cause) :
    answered.response.error = cause.map ChainError.message := by
  cases why : cause with
  | none =>
    obtain ⟨⟨text, duration, completed⟩, _⟩ := serves.succeeds why
    rw [completed]
    rfl
  | some error =>
    rw [serves.apologizes why]
    rfl

end Relay.Serves

namespace Registry

/-- **Every response fits together.** It tells of success when it names no error. Its hops are the
records of the chain, those that were told to have ended, in the order of the pattern. Where it
tells of success, some hop has succeeded, the score is that of the records with the tier of its own
numbers, and the time is within the limit. Where it does not, it apologizes for the error of the
request, which is none of a chain's status, and it lists no hop if the request was not started. -/
theorem responses_sound (registry : Registry (StateM World)) (relay : Relay) (id : ChainId)
    (now : Timestamp) (request : RelayRequest) (turn : Turn) (world : World) :
    let answered := registry.answered relay id now request turn world
    let response := answered.response
    let cause := registry.cause? relay id now request turn world
    (response.success = true ↔ response.error = none) ∧
    response.hops = answered.chain.hops.map HopRecord.view ∧
    response.hops.Pairwise (fun first second => first.index < second.index) ∧
    (response.hops.map HopView.arrival).Perm (answered.events.filter Event.isHopCompleted) ∧
    (response.success = true → cause = none ∧
      answered.Succeeds relay.catalog (request.settings relay.usual).chainTimeout) ∧
    (response.success = false → ∃ error, cause = some error ∧ response.Apologizes error ∧
      (error.isPreflight = true → response.hops = [])) ∧
    (∀ error, cause = some error → ∀ source target, error ≠ .invalidTransition source target) := by
  intro answered response cause
  have serves := registry.serves relay id now request turn world
  cases why : registry.cause? relay id now request turn world with
  | none =>
    obtain ⟨⟨text, duration, completed⟩, succeeds⟩ := serves.succeeds why
    replace completed : response = .completed answered.chain text duration := completed
    refine ⟨?_, serves.hops_eq, serves.increasing, serves.arrivals, fun _ => ⟨why, succeeds⟩,
      fun unsuccessful => ?_, fun error failed => ?_⟩
    · rw [completed]
      exact iff_of_true rfl rfl
    · rw [completed] at unsuccessful
      cases unsuccessful
    · cases why.symm.trans failed
  | some error =>
    have failed : response = .failed answered.chain error := serves.apologizes why
    have origin := serves.cause_cases why
    refine ⟨?_, serves.hops_eq, serves.increasing, serves.arrivals, fun successful => ?_,
      fun _ => ⟨error, why, ?_, fun preflight => ?_⟩, ?_⟩
    · rw [failed]
      exact iff_of_false Bool.false_ne_true (Option.some_ne_none error.message)
    · rw [failed] at successful
      cases successful
    · rw [failed]
      exact ChainResponse.apologizes_failed _ error
    · rcases origin with ⟨_, halts, _⟩ | ofRun
      · rw [failed]
        exact congrArg (List.map HopRecord.view) halts.hops
      · rw [ChainError.not_isPreflight_of_isOfRun ofRun] at preflight
        cases preflight
    · rintro other same source target rfl
      cases why.symm.trans same
      rcases origin with ⟨obstacle, _⟩ | ofRun
      · cases obstacle.isPreflight
      · cases ofRun

end Registry

end PromptRelay
