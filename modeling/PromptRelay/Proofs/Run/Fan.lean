/-
**The hops of a run of all hops at once.**

The hops of the pattern are asked for together, each with the question alone. They bear the indices
of the pattern, and what is recorded of them is in its order, whatever the order of their ends.

* `Plan.InTime`: hops of which the chain's time limit leaves none out;
* `Registry.asked`, `Registry.fan`: what a run asks for, and its hops as it sees them;
* `ParallelRun`, `Registry.parallelRun`: all of a run on a fresh chain;
* `ParallelRun.hops`, `ParallelRun.totalCost`, `ParallelRun.told`: its records, costs and events.
-/

import PromptRelay.Proofs.Run.Hearing
import PromptRelay.Proofs.Run.Together

namespace PromptRelay

variable {World : Type}

/-! ### The hops of a plan -/

namespace Plan

/-- No hop outlasts the chain's time limit, and no more hops end with it than a turn takes. -/
structure InTime (plan : Plan) (heard : List Exchange) : Prop where
  within : ∀ exchange ∈ heard, plan.span exchange ≤ plan.settings.chainTimeout
  few : (heard.countP fun exchange => plan.span exchange = plan.settings.chainTimeout) ≤
    Flight.turnSize

/-- The time limit leaves none of the hops out that are heard in time. -/
theorem allLand_iff (plan : Plan) (heard : List Exchange) :
    Flight.AllLand plan.settings.chainTimeout (heard.map plan.flight) ↔ plan.InTime heard := by
  have same : (∀ flight ∈ heard.map plan.flight, flight.seen.delay ≤ plan.settings.chainTimeout) ↔
      ∀ exchange ∈ heard, plan.span exchange ≤ plan.settings.chainTimeout := by
    simp
  unfold Flight.AllLand Flight.endingAt
  rw [same, List.countP_map]
  simp only [Function.comp_def, flight_delay]
  exact ⟨fun ⟨within, few⟩ => ⟨within, few⟩, fun ⟨within, few⟩ => ⟨within, few⟩⟩

instance (plan : Plan) (heard : List Exchange) : Decidable (plan.InTime heard) :=
  decidable_of_iff
    ((∀ exchange ∈ heard, plan.span exchange ≤ plan.settings.chainTimeout) ∧
      (heard.countP fun exchange => plan.span exchange = plan.settings.chainTimeout) ≤
        Flight.turnSize)
    ⟨fun ⟨within, few⟩ => ⟨within, few⟩, fun ⟨within, few⟩ => ⟨within, few⟩⟩

/-- The hops that a run of a plan asks for together. -/
def calls (plan : Plan) (input : String) : List HopCall :=
  plan.pattern.providers.mapIdx fun index provider =>
    plan.call index provider (plan.templates.render .first input [])

theorem map_index_calls (plan : Plan) (input : String) :
    (plan.calls input).map HopCall.index = List.range plan.pattern.hopCount := by
  unfold calls HopPattern.hopCount
  apply List.ext_getElem?
  intro place
  rw [List.getElem?_map, List.getElem?_mapIdx]
  cases found : plan.pattern.providers[place]? with
  | none =>
    rw [List.getElem?_eq_none (by simpa using found)]
    rfl
  | some provider =>
    rw [List.getElem?_range (List.getElem?_eq_some_iff.mp found).1]
    rfl

theorem map_provider_calls (plan : Plan) (input : String) :
    (plan.calls input).map HopCall.provider = plan.pattern.providers := by
  unfold calls
  apply List.ext_getElem?
  intro place
  rw [List.getElem?_map, List.getElem?_mapIdx]
  cases plan.pattern.providers[place]? with
  | none => rfl
  | some provider => rfl

end Plan

namespace Registry

/-- What a run of all hops at once asks for, with what comes back. -/
def asked (registry : Registry (StateM World)) (plan : Plan) (input : String) (world : World) :
    List Exchange :=
  (plan.calls input).zipWith Exchange.mk
    ((plan.calls input).mapM (registry.answer plan.catalog) world).1

/-- The hops of a run of all hops at once, as the run sees them. -/
def fan (registry : Registry (StateM World)) (plan : Plan) (input : String) (world : World) :
    List Flight :=
  (registry.asked plan input world).map plan.flight

variable (registry : Registry (StateM World)) (plan : Plan) (input : String) (world : World)

/-- Every call is heard with its reply. -/
theorem map_call_asked :
    (registry.asked plan input world).map Exchange.call = plan.calls input := by
  have replies := Dialogue.length_mapM (registry.answer plan.catalog) (plan.calls input) world
  unfold asked
  apply List.ext_getElem?
  intro place
  rw [List.getElem?_map, List.getElem?_zipWith]
  cases found : (plan.calls input)[place]? with
  | none => rfl
  | some call =>
    have inside : place < (plan.calls input).length := (List.getElem?_eq_some_iff.mp found).1
    rw [← replies] at inside
    rw [List.getElem?_eq_getElem inside]
    rfl

theorem length_fan : (registry.fan plan input world).length = plan.pattern.hopCount := by
  have calls := congrArg List.length (registry.map_call_asked plan input world)
  unfold Plan.calls at calls
  rw [List.length_map, List.length_mapIdx] at calls
  unfold fan
  rw [List.length_map, calls]
  rfl

/-- The hops bear the indices of the pattern. -/
theorem numbered_fan :
    Flight.Numbered plan.pattern.providers (registry.fan plan input world) := by
  intro place flight found
  unfold fan at found
  rw [List.getElem?_map] at found
  obtain ⟨exchange, heard, rfl⟩ := Option.map_eq_some_iff.mp found
  have call : (plan.calls input)[place]? = some exchange.call := by
    rw [← registry.map_call_asked plan input world, List.getElem?_map, heard]
    rfl
  unfold Plan.calls at call
  rw [List.getElem?_mapIdx] at call
  obtain ⟨provider, isProvider, same⟩ := Option.map_eq_some_iff.mp call
  have index : exchange.call.index = place := congrArg HopCall.index same.symm
  have name : exchange.call.provider = provider := congrArg HopCall.provider same.symm
  refine ⟨index, ?_⟩
  rw [isProvider, ← name]
  rfl

end Registry

/-! ### Runs on a fresh chain -/

/-- A run of all hops at once on a fresh chain, from the hops that it asks for to its result. -/
structure ParallelRun (plan : Plan) (chain : Chain) (turn : Turn) (flights : List Flight)
    (stopped : Progress × Ending) (execution : Execution) : Prop where
  fresh : chain.IsFresh
  positive : 0 < plan.settings.chainTimeout
  numbered : Flight.Numbered plan.pattern.providers flights
  length : flights.length = plan.pattern.hopCount
  lands : plan.Lands (plan.opened chain turn) flights stopped
  concluded : stopped.1.Concluded plan stopped.2 execution

section Perform

variable {registry : Registry (StateM World)} {plan : Plan} {chain : Chain}

theorem Registry.heard_parallel (together : plan.settings.mode = .parallel)
    (sound : plan.fault? = none) (pending : chain.status = .pending) (turn : Turn)
    (world : World) :
    registry.heard plan chain turn world = registry.asked plan chain.input world := by
  rw [heard_eq sound pending]
  unfold Plan.hops
  rw [together]
  exact List.append_nil _

/-- **The run of a plan that asks for all hops at once** lands as its hops do, and concludes from
there. -/
theorem Registry.perform_parallel (together : plan.settings.mode = .parallel)
    (sound : plan.fault? = none) (pending : chain.status = .pending) (turn : Turn)
    (world : World) :
    ∃ stopped,
      plan.Lands (plan.opened chain turn) (registry.fan plan chain.input world) stopped ∧
      stopped.1.Concluded plan stopped.2 (registry.perform plan chain turn world) := by
  have stops : ((plan.hops (plan.opened chain turn)).run (registry.answer plan.catalog) world).1 =
      (plan.opened chain turn).fly plan (registry.fan plan chain.input world) := by
    unfold Plan.hops
    rw [together]
    apply congrArg ((plan.opened chain turn).fly plan)
    unfold fan asked
    rw [List.map_zipWith]
    rfl
  have running : (plan.opened chain turn).chain.status = .running := rfl
  have lands := Progress.fly_lands running (Plan.timeouts_pos sound).2
    (registry.fan plan chain.input world)
  refine ⟨_, lands, ?_⟩
  rw [perform_eq sound pending]
  rw [stops]
  obtain ⟨_, chain⟩ := lands.chain_but_hops running
  refine Progress.conclude_cases ?_ _
  rw [chain]
  rfl

/-- A plan that asks for all hops at once makes such a run. -/
theorem Registry.parallelRun (together : plan.settings.mode = .parallel)
    (sound : plan.fault? = none) (fresh : chain.IsFresh) (turn : Turn) (world : World) :
    ∃ stopped, ParallelRun plan chain turn (registry.fan plan chain.input world) stopped
      (registry.perform plan chain turn world) := by
  obtain ⟨stopped, lands, concluded⟩ := registry.perform_parallel together sound fresh.status turn
    world
  exact ⟨stopped, fresh, (Plan.timeouts_pos sound).2, registry.numbered_fan plan chain.input world,
    registry.length_fan plan chain.input world, lands, concluded⟩

end Perform

namespace ParallelRun

variable {plan : Plan} {chain : Chain} {turn : Turn} {flights : List Flight}
  {stopped : Progress × Ending} {execution : Execution}

theorem stoppedChain (run : ParallelRun plan chain turn flights stopped execution) :
    let arrived := (plan.opened chain turn).chain.withHops
      ((Flight.arrivals plan.settings.chainTimeout turn flights).map Flight.record)
    (stopped.2 = .timedOut ∧ stopped.1.chain = arrived) ∨
      (stopped.2 = .settled ∧
        stopped.1.chain = { arrived with hops := Chain.sortRecords arrived.hops }) :=
  run.lands.chain rfl

theorem running (run : ParallelRun plan chain turn flights stopped execution) :
    stopped.1.chain.status = .running := by
  obtain ⟨_, chain⟩ := run.lands.chain_but_hops rfl
  rw [chain]
  rfl

/-- A run that has stopped has neither a score nor an answer yet. -/
theorem unanswered (run : ParallelRun plan chain turn flights stopped execution) :
    stopped.1.chain.metadata = none ∧ stopped.1.chain.finalResponse = none := by
  obtain ⟨_, chain⟩ := run.lands.chain_but_hops rfl
  rw [chain]
  exact ⟨run.fresh.metadata, run.fresh.finalResponse⟩

theorem timedOut_iff (run : ParallelRun plan chain turn flights stopped execution) :
    stopped.2 = .timedOut ↔ ¬ Flight.AllLand plan.settings.chainTimeout flights :=
  run.lands.timedOut_iff

theorem settled_iff (run : ParallelRun plan chain turn flights stopped execution) :
    stopped.2 = .settled ↔ Flight.AllLand plan.settings.chainTimeout flights := by
  cases run.lands with
  | cut turn left =>
    constructor
    · intro settled
      cases settled
    · intro all
      exact absurd all left
  | gathered turn all => exact ⟨fun _ => all, fun _ => rfl⟩

/-- The outcome names the time limit when it leaves a hop out. -/
theorem outcome_iff (run : ParallelRun plan chain turn flights stopped execution) :
    execution.outcome = .error (.chainTimeoutExceeded plan.settings.chainTimeout) ↔
      ¬ Flight.AllLand plan.settings.chainTimeout flights := by
  rw [run.lands.timeUp_iff run.concluded, run.timedOut_iff]

/-- The records of the hops that arrive are sorted into those of the hops that land. -/
theorem sorted (run : ParallelRun plan chain turn flights stopped execution) :
    Chain.sortRecords
        ((Flight.arrivals plan.settings.chainTimeout turn flights).map Flight.record) =
      (flights.filter (Flight.lands plan.settings.chainTimeout turn flights)).map
        Flight.record := by
  refine Chain.sortRecords_eq_of_perm ?_ ?_
  · exact (Flight.arrivals_perm run.positive turn run.numbered).map Flight.record
  · exact run.numbered.increasing.sublist (List.Sublist.map _ List.filter_sublist)

/-- The chain of a run that has settled has the records of the hops that land. -/
theorem stoppedHops (run : ParallelRun plan chain turn flights stopped execution)
    (settled : stopped.2 = .settled) : stopped.1.chain.hops = (flights.filter
      (Flight.lands plan.settings.chainTimeout turn flights)).map Flight.record := by
  rcases run.stoppedChain with ⟨timedOut, _⟩ | ⟨_, sorted⟩
  · rw [settled] at timedOut
    cases timedOut
  · rw [sorted, ← run.sorted]
    exact congrArg Chain.sortRecords (plan.opened_withHops_hops run.fresh turn _)

/-- **The result has the records of the hops that land**, in the order of the pattern. -/
theorem hops (run : ParallelRun plan chain turn flights stopped execution) :
    execution.chain.hops = (flights.filter
      (Flight.lands plan.settings.chainTimeout turn flights)).map Flight.record := by
  rcases run.stoppedChain with ⟨timedOut, stays⟩ | ⟨settled, _⟩
  · have notSettled : stopped.2 ≠ .settled := by
      rw [timedOut]
      exact Ending.noConfusion
    rw [run.concluded.hops_of_ne_settled run.running notSettled, stays, ← run.sorted,
      plan.opened_withHops_hops run.fresh turn]
  · have ordered := run.stoppedHops settled
    have increasing : Chain.Increasing stopped.1.chain.hops := by
      rw [ordered]
      exact run.numbered.increasing.sublist (List.Sublist.map _ List.filter_sublist)
    rw [run.concluded.hops run.running increasing, ordered]

theorem hops_of_settled (run : ParallelRun plan chain turn flights stopped execution)
    (settled : stopped.2 = .settled) : execution.chain.hops = flights.map Flight.record := by
  rw [run.hops, Flight.filter_lands_of_allLand run.positive run.numbered
    (run.settled_iff.mp settled)]

/-- The total is what the hops have cost, in the order in which they arrived. -/
theorem totalCost (run : ParallelRun plan chain turn flights stopped execution) :
    execution.chain.totalCost = HopRecord.costFrom 0.0
      ((Flight.arrivals plan.settings.chainTimeout turn flights).map Flight.record) := by
  have total : stopped.1.chain.totalCost = HopRecord.costFrom chain.totalCost
      ((Flight.arrivals plan.settings.chainTimeout turn flights).map Flight.record) := by
    obtain ⟨_, chain⟩ := run.lands.chain_but_hops rfl
    rw [chain]
    rfl
  rw [run.concluded.totalCost run.running, total, run.fresh.totalCost]

/-- All that is told of a run. -/
theorem told (run : ParallelRun plan chain turn flights stopped execution) :
    ∃ last, execution.events = [plan.opening] ++ flights.flatMap Flight.launchWords ++
        (Flight.inTime plan.settings.chainTimeout (Flight.waiting turn flights)).map
          Flight.arrival ++
        (if stopped.2 = .settled then stopped.1.overspent plan else []) ++ [last] ∧
      execution.ClosedBy last := by
  obtain ⟨last, told, closed⟩ := run.concluded.events
  rw [run.lands.events rfl] at told
  exact ⟨last, told, closed⟩

/-- All hops are started, in the order of the pattern. -/
theorem departures (run : ParallelRun plan chain turn flights stopped execution) :
    execution.events.filter Event.isHopStarted = flights.map Flight.departure := by
  rw [run.concluded.departures, run.lands.departures rfl]
  rfl

theorem started (run : ParallelRun plan chain turn flights stopped execution) :
    execution.events.filterMap Event.startedIndex? = List.range plan.pattern.hopCount := by
  rw [Event.filterMap_startedIndex?, run.departures, Flight.filterMap_departures,
    run.numbered.map_call_index, run.length]

/-- The hops end in the order in which they arrive. -/
theorem completed (run : ParallelRun plan chain turn flights stopped execution) :
    execution.events.filter Event.isHopCompleted =
      ((Flight.arrivals plan.settings.chainTimeout turn flights).map Flight.record).map
        HopRecord.arrival := by
  rw [run.concluded.arrivals, run.lands.arrivals rfl, ← Flight.map_arrival]
  rfl

end ParallelRun

end PromptRelay
