/-
**Schedules of a run of all hops at once.**

How long the hops of a run take is decided by their backends. Two runs whose hops answer the same,
each by its time limit, come to the same result and the same records, whichever hops end first. Only
the durations differ, the order of what is told, and the order in which the costs are added.

* `Execution.SameButTime`, `Execution.Tallied`: what such runs have in common, and what each of them
  keeps to;
* `ParallelRun.results_alike`, `ParallelRun.told_alike`: the results of two runs, and what is told
  of them;
* `Registry.schedule_irrelevant`: the same for the runs of a plan;
* `Registry.crowded_schedule`: a schedule that matters, as more hops end with the chain's time limit
  than a turn takes.
-/

import PromptRelay.Proofs.Run.Fan
import PromptRelay.Proofs.Run.Timeless

namespace PromptRelay

open scoped List

variable {First Second : Type}

/-- Executions that differ in nothing but durations, the order in which the hops end, and what comes
of adding the costs in this order. -/
structure Execution.SameButTime (execution other : Execution) : Prop where
  outcome : execution.outcome = other.outcome
  status : execution.chain.status = other.chain.status
  metadata : execution.chain.metadata = other.chain.metadata
  response : execution.chain.finalResponse = other.chain.finalResponse
  records : execution.chain.hops.map HopRecord.untimed = other.chain.hops.map HopRecord.untimed
  told : ((execution.events.filter fun event => !event.isBudgetExceeded).map Event.untimed).Perm
    ((other.events.filter fun event => !event.isBudgetExceeded).map Event.untimed)

/-- The records are in the order of the pattern, and their costs are added in the order in which the
hops end. The budget is told to be exceeded when the total exceeds it. -/
structure Execution.Tallied (plan : Plan) (execution : Execution) : Prop where
  ordered : (execution.chain.hops.map HopRecord.index).Pairwise (· < ·)
  costs : ∃ arrived : List HopRecord, arrived.Perm execution.chain.hops ∧
    execution.events.filter Event.isHopCompleted = arrived.map HopRecord.arrival ∧
    execution.chain.totalCost = HopRecord.costFrom 0.0 arrived
  overspent : (∃ event ∈ execution.events, event.isBudgetExceeded = true) ↔
    plan.settings.budget < execution.chain.totalCost

/-- Launched hops are started, and some of them end. -/
theorem Flight.launchWords_perm (flights : List Flight) :
    (flights.flatMap launchWords).Perm
      (flights.map departure ++ (flights.filter isInstant).map arrival) := by
  induction flights with
  | nil => exact List.Perm.refl []
  | cons flight flights hypothesis =>
    rw [List.flatMap_cons, List.map_cons, List.cons_append]
    cases instant : flight.isInstant with
    | false =>
      rw [List.filter_cons_of_neg (by simp [instant])]
      unfold launchWords
      rw [instant]
      exact hypothesis.cons _
    | true =>
      rw [List.filter_cons_of_pos instant, List.map_cons]
      unfold launchWords
      rw [instant]
      exact ((hypothesis.cons _).trans List.perm_middle.symm).cons _

theorem Flight.isBudgetExceeded_quiet {flights landing : List Flight} {event : Event}
    (member : event ∈ flights.flatMap launchWords ++ landing.map arrival) :
    event.isBudgetExceeded = false := by
  rcases List.mem_append.mp member with launched | landed
  · exact isBudgetExceeded_launchWords launched
  · exact isBudgetExceeded_arrival landed

namespace ParallelRun

variable {plan : Plan} {chain : Chain} {turn : Turn} {flights : List Flight}
  {stopped : Progress × Ending} {execution : Execution}

/-- In a run that has settled every hop ends, at once or later. -/
theorem landed_perm (run : ParallelRun plan chain turn flights stopped execution)
    (settled : stopped.2 = .settled) :
    ((flights.filter Flight.isInstant).map Flight.arrival ++
      (Flight.inTime plan.settings.chainTimeout (Flight.waiting turn flights)).map
        Flight.arrival).Perm (flights.map Flight.arrival) := by
  have arrived := Flight.arrivals_perm run.positive turn run.numbered
  rw [Flight.filter_lands_of_allLand run.positive run.numbered (run.settled_iff.mp settled)]
    at arrived
  rw [← List.map_append]
  exact arrived.map Flight.arrival

/-- What is told of a run that has settled: of the budget at most that it is exceeded, and else, in
whatever order, that the run begins, that each hop starts and ends, and how the run ends. -/
theorem told_perm (run : ParallelRun plan chain turn flights stopped execution)
    (settled : stopped.2 = .settled) :
    execution.events.filter Event.isBudgetExceeded = stopped.1.overspent plan ∧
    ∃ last, (execution.events.filter fun event => !event.isBudgetExceeded).Perm
        ([plan.opening] ++ flights.map Flight.departure ++ flights.map Flight.arrival ++ [last]) ∧
      execution.ClosedBy last := by
  obtain ⟨last, told, closed⟩ := run.told
  let landing := Flight.inTime plan.settings.chainTimeout (Flight.waiting turn flights)
  let quiet := flights.flatMap Flight.launchWords ++ landing.map Flight.arrival
  have silent : ∀ event ∈ [plan.opening] ++ quiet, event.isBudgetExceeded = false := by
    intro event member
    rcases List.mem_append.mp member with opening | later
    · rw [List.mem_singleton.mp opening]
      rfl
    · exact Flight.isBudgetExceeded_quiet later
  have loud : ∀ event ∈ stopped.1.overspent plan, event.isBudgetExceeded = true := by
    intro event member
    have inside : event ∈ if stopped.2 = .settled then stopped.1.overspent plan else [] := by
      rw [if_pos settled]
      exact member
    obtain ⟨total, rfl⟩ := Plan.isBudgetExceeded_of_mem_overspent inside
    rfl
  have silentLast := closed.isBudgetExceeded
  have split :
      execution.events = [plan.opening] ++ quiet ++ stopped.1.overspent plan ++ [last] := by
    rw [told, if_pos settled, List.append_assoc [_]]
  refine ⟨?_, last, ?_, closed⟩
  · have noneSilent : ([plan.opening] ++ quiet).filter Event.isBudgetExceeded = [] :=
      List.filter_eq_nil_iff.mpr fun event member => by simp [silent event member]
    rw [split, List.filter_append, List.filter_append, noneSilent, List.filter_eq_self.mpr loud,
      List.filter_cons_of_neg (by simp [silentLast])]
    exact List.append_nil _
  · have allSilent : ([plan.opening] ++ quiet).filter (fun event => !event.isBudgetExceeded) =
        [plan.opening] ++ quiet :=
      List.filter_eq_self.mpr fun event member => by simp [silent event member]
    have noneLoud : (stopped.1.overspent plan).filter (fun event => !event.isBudgetExceeded) = [] :=
      List.filter_eq_nil_iff.mpr fun event member => by simp [loud event member]
    rw [split, List.filter_append, List.filter_append, allSilent, noneLoud,
      List.filter_cons_of_pos (by simp [silentLast]), List.append_nil, List.append_assoc [_]]
    have told : quiet ~ flights.map Flight.departure ++ flights.map Flight.arrival :=
      calc flights.flatMap Flight.launchWords ++ landing.map Flight.arrival
        _ ~ flights.map Flight.departure ++ (flights.filter Flight.isInstant).map Flight.arrival ++
              landing.map Flight.arrival := (Flight.launchWords_perm flights).append_right _
        _ = flights.map Flight.departure ++ ((flights.filter Flight.isInstant).map Flight.arrival ++
              landing.map Flight.arrival) := List.append_assoc _ _ _
        _ ~ flights.map Flight.departure ++ flights.map Flight.arrival :=
          (run.landed_perm settled).append_left _
    exact (told.append_left [plan.opening]).append_right [last]

/-- The budget is told to be exceeded by a run that has settled when its total exceeds it. -/
theorem overspent_iff (run : ParallelRun plan chain turn flights stopped execution)
    (settled : stopped.2 = .settled) :
    (∃ event ∈ execution.events, event.isBudgetExceeded = true) ↔
      plan.settings.budget < execution.chain.totalCost := by
  have total := run.concluded.totalCost run.running
  have words := (run.told_perm settled).1
  unfold Progress.overspent at words
  rw [← total] at words
  constructor
  · rintro ⟨event, member, exceeded⟩
    by_contra within
    rw [if_neg within] at words
    exact absurd exceeded (List.filter_eq_nil_iff.mp words event member)
  · intro beyond
    rw [if_pos beyond] at words
    have inside : Event.budgetExceeded execution.chain.totalCost plan.settings.budget 0 ∈
        execution.events.filter Event.isBudgetExceeded := by
      rw [words]
      exact List.mem_cons_self
    exact ⟨_, List.mem_of_mem_filter inside, rfl⟩

theorem tallied (run : ParallelRun plan chain turn flights stopped execution)
    (settled : stopped.2 = .settled) : execution.Tallied plan := by
  refine ⟨?_, ⟨_, ?_, run.completed, run.totalCost⟩, run.overspent_iff settled⟩
  · rw [run.hops_of_settled settled]
    exact (Chain.increasing_iff _).mp run.numbered.increasing
  · rw [run.hops]
    exact (Flight.arrivals_perm run.positive turn run.numbered).map Flight.record

section Alike

variable {otherChain : Chain} {otherTurn : Turn} {heard otherHeard : List Exchange}
  {otherStopped : Progress × Ending} {otherExecution : Execution}

/-- **Runs that are alike come to the same result**, with the same records but for durations. -/
theorem results_alike
    (run : ParallelRun plan chain turn (heard.map plan.flight) stopped execution)
    (otherRun : ParallelRun plan otherChain otherTurn (otherHeard.map plan.flight) otherStopped
      otherExecution)
    (inTime : plan.InTime heard) (otherInTime : plan.InTime otherHeard)
    (alike : List.Forall₂ plan.Alike heard otherHeard)
    (sameCalls : heard.map Exchange.call = otherHeard.map Exchange.call) :
    execution.chain.hops.map HopRecord.untimed = otherExecution.chain.hops.map HopRecord.untimed ∧
      execution.outcome = otherExecution.outcome ∧
      execution.chain.status = otherExecution.chain.status ∧
      execution.chain.metadata = otherExecution.chain.metadata ∧
      execution.chain.finalResponse = otherExecution.chain.finalResponse := by
  have settled := run.settled_iff.mpr ((plan.allLand_iff heard).mpr inTime)
  have otherSettled := otherRun.settled_iff.mpr ((plan.allLand_iff otherHeard).mpr otherInTime)
  have hops := run.hops_of_settled settled
  have otherHops := otherRun.hops_of_settled otherSettled
  have same := Plan.records_alike alike sameCalls
  rw [← hops, ← otherHops] at same
  have concluded := run.concluded
  have otherConcluded := otherRun.concluded
  rw [settled] at concluded
  rw [otherSettled] at otherConcluded
  refine ⟨same, Progress.concluded_alike concluded otherConcluded run.running otherRun.running
    ?_ ?_ ?_⟩
  · rw [run.stoppedHops settled, otherRun.stoppedHops otherSettled, ← run.hops, ← otherRun.hops]
    exact same
  · rw [run.unanswered.1, otherRun.unanswered.1]
  · rw [run.unanswered.2, otherRun.unanswered.2]

/-- **Of runs that are alike the same is told**, in any order, but for durations, total costs and an
exceeded budget. -/
theorem told_alike
    (run : ParallelRun plan chain turn (heard.map plan.flight) stopped execution)
    (otherRun : ParallelRun plan otherChain otherTurn (otherHeard.map plan.flight) otherStopped
      otherExecution)
    (inTime : plan.InTime heard) (otherInTime : plan.InTime otherHeard)
    (alike : List.Forall₂ plan.Alike heard otherHeard)
    (sameCalls : heard.map Exchange.call = otherHeard.map Exchange.call) :
    ((execution.events.filter fun event => !event.isBudgetExceeded).map Event.untimed).Perm
      ((otherExecution.events.filter fun event => !event.isBudgetExceeded).map Event.untimed) := by
  obtain ⟨_, outcome, _, metadata, _⟩ :=
    run.results_alike otherRun inTime otherInTime alike sameCalls
  obtain ⟨_, last, told, closed⟩ :=
    run.told_perm (run.settled_iff.mpr ((plan.allLand_iff heard).mpr inTime))
  obtain ⟨_, otherLast, otherTold, otherClosed⟩ :=
    otherRun.told_perm (otherRun.settled_iff.mpr ((plan.allLand_iff otherHeard).mpr otherInTime))
  have sameLast := closed.untimed_congr otherClosed outcome metadata
  have sameWords : ([plan.opening] ++ (heard.map plan.flight).map Flight.departure ++
        (heard.map plan.flight).map Flight.arrival ++ [last]).map Event.untimed =
      ([plan.opening] ++ (otherHeard.map plan.flight).map Flight.departure ++
        (otherHeard.map plan.flight).map Flight.arrival ++ [otherLast]).map Event.untimed := by
    rw [List.map_append, List.map_append, Plan.arrivals_alike alike sameCalls,
      plan.departures_congr sameCalls, List.map_singleton, sameLast]
    simp only [List.map_append, List.map_singleton]
  refine (told.map Event.untimed).trans ?_
  rw [sameWords]
  exact (otherTold.map Event.untimed).symm

end Alike

end ParallelRun

namespace Registry

/-- **The schedule of a run of all hops at once is irrelevant.** Two runs of a plan on the same
question, against clients of the same kinds that answer alike hop by hop and in time, make the same
calls in the order of the pattern and hand the same on to their clients. They differ in nothing but
time, and both have their records in the order of the pattern and their costs tallied. -/
theorem schedule_irrelevant (first : Registry (StateM First)) (second : Registry (StateM Second))
    (sameKinds : ∀ kind, (first.client? kind).isSome = (second.client? kind).isSome) (plan : Plan)
    (together : plan.settings.mode = .parallel) (sound : plan.fault? = none) (chain other : Chain)
    (reachable : chain.Reachable) (pending : chain.status = .pending)
    (otherReachable : other.Reachable) (otherPending : other.status = .pending)
    (sameInput : chain.input = other.input) (turn otherTurn : Turn) (world : First)
    (otherWorld : Second)
    (alike : List.Forall₂ plan.Alike (first.heard plan chain turn world)
      (second.heard plan other otherTurn otherWorld))
    (inTime : plan.InTime (first.heard plan chain turn world))
    (otherInTime : plan.InTime (second.heard plan other otherTurn otherWorld)) :
    let execution := first.perform plan chain turn world
    let otherExecution := second.perform plan other otherTurn otherWorld
    let calls := (first.heard plan chain turn world).map Exchange.call
    let otherCalls := (second.heard plan other otherTurn otherWorld).map Exchange.call
    calls = otherCalls ∧ calls.map HopCall.index = List.range plan.pattern.hopCount ∧
      calls.map HopCall.provider = plan.pattern.providers ∧
      calls.filterMap (first.delivery? plan.catalog) =
        otherCalls.filterMap (second.delivery? plan.catalog) ∧
      execution.SameButTime otherExecution ∧ execution.Tallied plan ∧
      otherExecution.Tallied plan := by
  rw [heard_parallel together sound pending] at alike inTime ⊢
  rw [heard_parallel together sound otherPending] at alike otherInTime ⊢
  obtain ⟨stopped, run⟩ :=
    first.parallelRun together sound (reachable.isFresh pending) turn world
  obtain ⟨otherStopped, otherRun⟩ :=
    second.parallelRun together sound (otherReachable.isFresh otherPending) otherTurn otherWorld
  unfold fan at run otherRun
  have sameCalls : (first.asked plan chain.input world).map Exchange.call =
      (second.asked plan other.input otherWorld).map Exchange.call := by
    rw [map_call_asked, map_call_asked, sameInput]
  obtain ⟨records, outcome, status, metadata, response⟩ :=
    run.results_alike otherRun inTime otherInTime alike sameCalls
  have told := run.told_alike otherRun inTime otherInTime alike sameCalls
  refine ⟨sameCalls, ?_, ?_, ?_, ⟨outcome, status, metadata, response, records, told⟩, ?_, ?_⟩
  · rw [map_call_asked, Plan.map_index_calls]
  · rw [map_call_asked, Plan.map_provider_calls]
  · rw [sameCalls]
    exact List.filterMap_congr fun call _ => delivery?_congr sameKinds plan.catalog call
  · exact run.tallied (run.settled_iff.mpr ((plan.allLand_iff _).mpr inTime))
  · exact otherRun.tallied (otherRun.settled_iff.mpr ((plan.allLand_iff _).mpr otherInTime))

/-- The three hops of a run end in one order or another. -/
theorem schedule_irrelevant_solo :
    let plan := Plan.solo 3 { mode := .parallel }
    let world := Rehearsal.solo [⟨3, .ok ⟨"It is I.", 4, 0.1⟩⟩,
      ⟨1, .error (.credentialMissing "no key")⟩, ⟨2, .ok ⟨"Nobody.", 2, 0.3⟩⟩]
    let otherWorld := Rehearsal.solo [⟨1, .ok ⟨"It is I.", 4, 0.1⟩⟩,
      ⟨4, .error (.credentialMissing "no key")⟩, ⟨0, .ok ⟨"Nobody.", 2, 0.3⟩⟩]
    (rehearsed.perform plan .solo .free world).SameButTime
      (rehearsed.perform plan .solo .free otherWorld) := by
  obtain ⟨_, _, _, _, same, _⟩ := schedule_irrelevant rehearsed rehearsed (fun _ => rfl)
    (.solo 3 { mode := .parallel }) rfl (by decide +kernel) .solo .solo Chain.solo_reachable rfl
    Chain.solo_reachable rfl rfl .free .free
    (.solo [⟨3, .ok ⟨"It is I.", 4, 0.1⟩⟩, ⟨1, .error (.credentialMissing "no key")⟩,
      ⟨2, .ok ⟨"Nobody.", 2, 0.3⟩⟩])
    (.solo [⟨1, .ok ⟨"It is I.", 4, 0.1⟩⟩, ⟨4, .error (.credentialMissing "no key")⟩,
      ⟨0, .ok ⟨"Nobody.", 2, 0.3⟩⟩])
    (by decide +kernel) (by decide +kernel) (by decide +kernel)
  exact same

/-- **A crowded schedule**: hops that answer alike and do not outlast the time limit come to another
result, as more of them end with the limit than a turn takes. -/
theorem crowded_schedule :
    let plan := Plan.abreast (Flight.turnSize + 1)
    let heard := rehearsed.heard plan .solo .free (.after 4 0.1)
    let otherHeard := rehearsed.heard plan .solo .free (.after 5 0.1)
    plan.fault? = none ∧ Chain.solo.Reachable ∧ Chain.solo.status = .pending ∧
      List.Forall₂ plan.Alike heard otherHeard ∧
      (∀ exchange ∈ heard, plan.span exchange ≤ plan.settings.chainTimeout) ∧
      (∀ exchange ∈ otherHeard, plan.span exchange ≤ plan.settings.chainTimeout) ∧
      (rehearsed.perform plan .solo .free (.after 4 0.1)).outcome ≠
        (rehearsed.perform plan .solo .free (.after 5 0.1)).outcome := by
  have sound : (Plan.abreast (Flight.turnSize + 1)).fault? = none := by decide +kernel
  have together : (Plan.abreast (Flight.turnSize + 1)).settings.mode = .parallel := rfl
  have fresh := Chain.solo_reachable.isFresh rfl
  obtain ⟨_, run⟩ := rehearsed.parallelRun together sound fresh .free (.after 4 0.1)
  obtain ⟨_, otherRun⟩ := rehearsed.parallelRun together sound fresh .free (.after 5 0.1)
  refine ⟨sound, Chain.solo_reachable, rfl, by decide +kernel, by decide +kernel,
    by decide +kernel, fun same => ?_⟩
  have stays := mt run.outcome_iff.mp
    (not_not_intro ((Plan.allLand_iff _ _).mpr (by decide +kernel)))
  rw [same] at stays
  refine stays (otherRun.outcome_iff.mpr fun all => ?_)
  have inTime := (Plan.allLand_iff _ _).mp all
  revert inTime
  decide +kernel

end Registry

end PromptRelay
