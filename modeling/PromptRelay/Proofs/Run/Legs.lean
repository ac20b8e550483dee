/-
**The hops of a run one hop after the other.**

The legs of a run are the hops it has before it. It records those that are kept of them, in the
order of the pattern, and starts at most one more.

* `Registry.tour`, `Registry.legs`: what a run asks for if nothing stops it, and its hops as it sees
  them;
* `SequentialRun`, `Registry.sequentialRun`: all of a run on a fresh chain;
* `SequentialRun.hops`, `SequentialRun.totalCost`, `SequentialRun.started`: its records, costs and
  started hops.
-/

import PromptRelay.Proofs.Run.Stop

namespace PromptRelay

variable {World : Type}

namespace Registry

/-- What a run of a plan asks for, with what comes back, if nothing stops it. -/
def tour (registry : Registry (StateM World)) (plan : Plan) (chain : Chain) (world : World) :
    List Exchange :=
  plan.tour (registry.answer plan.catalog) plan.pattern.providers 0 chain world

/-- The hops that a run of a plan has before it, if nothing stops it. -/
def legs (registry : Registry (StateM World)) (plan : Plan) (chain : Chain) (world : World) :
    List Flight :=
  (registry.tour plan chain world).map plan.flight

theorem numbered_legs (registry : Registry (StateM World)) (plan : Plan) (chain : Chain)
    (world : World) : Flight.Numbered plan.pattern.providers (registry.legs plan chain world) :=
  plan.numbered_tour _ _ chain world

theorem length_legs (registry : Registry (StateM World)) (plan : Plan) (chain : Chain)
    (world : World) : (registry.legs plan chain world).length = plan.pattern.hopCount := by
  unfold legs tour
  rw [List.length_map, Plan.length_tour]
  rfl

/-- The tour of a chain that was just started is the chain's own. -/
theorem tour_opened (registry : Registry (StateM World)) (plan : Plan) (chain : Chain) (turn : Turn)
    (world : World) :
    plan.tour (registry.answer plan.catalog) plan.pattern.providers 0 (plan.opened chain turn).chain
      world = registry.tour plan chain world :=
  plan.tour_congr _ _ 0 world rfl rfl

/-- The hops of a plan that runs them one after the other stop as its legs make them stop. -/
theorem hops_sequential (registry : Registry (StateM World)) {plan : Plan}
    (inTurn : plan.settings.mode = .sequential) (chain : Chain) (turn : Turn) (world : World) :
    plan.Stops (plan.opened chain turn) (registry.legs plan chain world)
      ((plan.hops (plan.opened chain turn)).run (registry.answer plan.catalog) world).1 := by
  have stops := plan.sequential_stops (registry.answer plan.catalog) plan.pattern.providers 0
    (plan.opened chain turn) world rfl
  rw [tour_opened] at stops
  unfold Plan.hops
  rw [inTurn]
  exact stops

/-- **The run of a plan one hop after the other** stops as its legs make it stop, and concludes from
there. -/
theorem perform_sequential (registry : Registry (StateM World)) {plan : Plan} {chain : Chain}
    (inTurn : plan.settings.mode = .sequential) (sound : plan.fault? = none)
    (pending : chain.status = .pending) (turn : Turn) (world : World) :
    ∃ stopped, plan.Stops (plan.opened chain turn) (registry.legs plan chain world) stopped ∧
      stopped.1.Concluded plan stopped.2 (registry.perform plan chain turn world) := by
  have stops := registry.hops_sequential inTurn chain turn world
  refine ⟨_, stops, ?_⟩
  rw [perform_eq sound pending]
  exact Progress.conclude_cases (stops.running rfl) _

end Registry

/-! ### Runs on a fresh chain -/

/-- A run one hop after the other on a fresh chain, from the hops it has before it to its result. -/
structure SequentialRun (plan : Plan) (chain : Chain) (turn : Turn) (legs : List Flight)
    (stopped : Progress × Ending) (execution : Execution) : Prop where
  fresh : chain.IsFresh
  numbered : Flight.Numbered plan.pattern.providers legs
  length : legs.length = plan.pattern.hopCount
  stops : plan.Stops (plan.opened chain turn) legs stopped
  concluded : stopped.1.Concluded plan stopped.2 execution

/-- The run of a plan on a fresh chain is one. -/
theorem Registry.sequentialRun (registry : Registry (StateM World)) {plan : Plan} {chain : Chain}
    (inTurn : plan.settings.mode = .sequential) (sound : plan.fault? = none)
    (fresh : chain.IsFresh) (turn : Turn) (world : World) :
    ∃ stopped, SequentialRun plan chain turn (registry.legs plan chain world) stopped
      (registry.perform plan chain turn world) := by
  obtain ⟨stopped, stops, concluded⟩ :=
    registry.perform_sequential inTurn sound fresh.status turn world
  exact ⟨stopped, fresh, registry.numbered_legs plan chain world,
    registry.length_legs plan chain world, stops, concluded⟩

namespace SequentialRun

variable {plan : Plan} {chain : Chain} {turn : Turn} {legs : List Flight}
  {stopped : Progress × Ending} {execution : Execution}

theorem running (run : SequentialRun plan chain turn legs stopped execution) :
    stopped.1.chain.status = .running :=
  run.stops.running rfl

theorem numberedKept (run : SequentialRun plan chain turn legs stopped execution) :
    Flight.Numbered plan.pattern.providers (plan.kept (plan.opened chain turn) legs) :=
  run.numbered.of_prefix (plan.kept_prefix _ _)

theorem stoppedHops (run : SequentialRun plan chain turn legs stopped execution) :
    stopped.1.chain.hops = (plan.kept (plan.opened chain turn) legs).map Flight.record := by
  rw [run.stops.chain]
  exact plan.opened_withHops_hops run.fresh turn _

/-- The result has the records of what was kept. -/
theorem hops (run : SequentialRun plan chain turn legs stopped execution) :
    execution.chain.hops = (plan.kept (plan.opened chain turn) legs).map Flight.record := by
  have increasing : Chain.Increasing stopped.1.chain.hops := by
    rw [run.stoppedHops]
    exact run.numberedKept.increasing
  rw [run.concluded.hops run.running increasing, run.stoppedHops]

theorem outcome_iff (run : SequentialRun plan chain turn legs stopped execution) :
    execution.outcome = .error (.chainTimeoutExceeded plan.settings.chainTimeout) ↔
      stopped.2 = .timedOut :=
  run.stops.timeUp_iff run.concluded

/-- The hops end in the order in which they are recorded. -/
theorem completed (run : SequentialRun plan chain turn legs stopped execution) :
    execution.events.filter Event.isHopCompleted =
      execution.chain.hops.map HopRecord.arrival := by
  rw [run.concluded.arrivals, run.stops.arrivals, run.hops, ← Flight.map_arrival]
  rfl

theorem hops_index (run : SequentialRun plan chain turn legs stopped execution) :
    execution.chain.hops.map HopRecord.index = List.range execution.chain.hops.length := by
  rw [run.hops, run.numberedKept.map_index, List.length_map]

/-- The total is what the records have cost. -/
theorem totalCost (run : SequentialRun plan chain turn legs stopped execution) :
    execution.chain.totalCost = HopRecord.costFrom 0.0 execution.chain.hops := by
  rw [run.concluded.totalCost run.running, run.stops.chain, Chain.withHops_totalCost, run.hops]
  exact congrArg (HopRecord.costFrom · _) run.fresh.totalCost

/-- The hops that were started are those with a record and, where the time limit cuts the run, the
one that follows them. -/
theorem started (run : SequentialRun plan chain turn legs stopped execution) :
    execution.events.filterMap Event.startedIndex? = List.range
        (execution.chain.hops.length + (if stopped.2 = .timedOut then 1 else 0)) ∧
      execution.chain.hops.length + (if stopped.2 = .timedOut then 1 else 0) ≤
        (plan.course (plan.opened chain turn).chain.totalCost legs).length := by
  obtain ⟨last, told, closed⟩ := run.concluded.events
  obtain ⟨count, started, rfl, within⟩ := run.stops.started run.numbered
  rw [run.hops, List.length_map]
  refine ⟨?_, within⟩
  rw [told, List.filterMap_append, started, List.filterMap_cons_none closed.startedIndex?,
    List.filterMap_nil, List.append_nil]
  rfl

end SequentialRun

end PromptRelay
