/-
**What a run keeps of the hops that it hears.**

The observer is told of the start of each hop that is heard. The records of a run are those of hops
that were heard, each at its place. One hop after the other they are those of all hops that were
heard, but for the last one where the time limit has cut it.

* `Registry.departures`: the hops that are started are those that are heard;
* `Registry.numbered_heard`: these bear the indices of the pattern;
* `Registry.hops_sequential_eq`: the records of a run one hop after the other;
* `Registry.length_hops`: no hop is lost but where the time limit stops the run;
* `Registry.increasing_hops`: the records of any run are in the order of the pattern;
* `Registry.exists_heard`: each of them is that of a hop that was heard.
-/

import PromptRelay.Proofs.Run.Clock
import PromptRelay.Proofs.Run.Fan

namespace PromptRelay

variable {World : Type}

namespace Registry

variable (registry : Registry (StateM World)) {plan : Plan} {chain : Chain}

/-- **The hops that are started are those that are heard**, in the order in which they are heard. -/
theorem departures (sound : plan.fault? = none) (pending : chain.status = .pending) (turn : Turn)
    (world : World) :
    (registry.perform plan chain turn world).events.filter Event.isHopStarted =
      ((registry.heard plan chain turn world).map plan.flight).map Flight.departure := by
  cases mode : plan.settings.mode with
  | sequential => exact registry.departures_sequential mode sound pending turn world
  | parallel =>
    obtain ⟨stopped, lands, concluded⟩ := registry.perform_parallel mode sound pending turn world
    rw [concluded.departures, lands.departures rfl, heard_parallel mode sound pending]
    rfl

/-- The hops that are heard bear the indices of the pattern. -/
theorem numbered_heard (sound : plan.fault? = none) (pending : chain.status = .pending)
    (turn : Turn) (world : World) :
    Flight.Numbered plan.pattern.providers
      ((registry.heard plan chain turn world).map plan.flight) := by
  cases mode : plan.settings.mode with
  | sequential =>
    obtain ⟨begins, _⟩ := registry.heard_sequential mode sound pending turn world
    have legs := registry.numbered_legs plan chain world
    exact legs.of_prefix (begins.map plan.flight)
  | parallel =>
    rw [heard_parallel mode sound pending]
    exact registry.numbered_fan plan chain.input world

/-- **The records of a run one hop after the other** are those of the hops that were heard, but for
the last of them where the time limit stops the run. -/
theorem hops_sequential_eq (inTurn : plan.settings.mode = .sequential)
    (sound : plan.fault? = none) (fresh : chain.IsFresh) (turn : Turn) (world : World) :
    let execution := registry.perform plan chain turn world
    let heard := registry.heard plan chain turn world
    let timeUp := execution.outcome = .error (.chainTimeoutExceeded plan.settings.chainTimeout)
    execution.chain.hops =
        ((heard.map plan.flight).take execution.chain.hops.length).map Flight.record ∧
      (timeUp ∧ heard.length = execution.chain.hops.length + 1 ∨
        ¬ timeUp ∧ heard.length = execution.chain.hops.length) := by
  obtain ⟨stopped, run⟩ := registry.sequentialRun inTurn sound fresh turn world
  obtain ⟨begins, enough⟩ := registry.heard_sequential inTurn sound fresh.status turn world
  have keeps : (plan.kept (plan.opened chain turn) (registry.legs plan chain world)).length =
      (registry.perform plan chain turn world).chain.hops.length := by
    rw [run.hops, List.length_map]
  have kept := List.prefix_iff_eq_take.mp (List.prefix_of_prefix_length_le
    (plan.kept_prefix (plan.opened chain turn) (registry.legs plan chain world))
    (begins.map plan.flight) (by rw [List.length_map]; exact enough))
  refine ⟨?_, ?_⟩
  · rw [← keeps, ← kept]
    exact run.hops
  · -- as many hops were heard as were started
    have started := congrArg List.length run.started.1
    rw [Event.filterMap_startedIndex?, registry.departures sound fresh.status,
      Flight.filterMap_departures, List.length_map, List.length_map, List.length_range] at started
    by_cases timedOut : stopped.2 = .timedOut
    · rw [if_pos timedOut] at started
      exact .inl ⟨run.outcome_iff.mpr timedOut, started⟩
    · rw [if_neg timedOut] at started
      exact .inr ⟨mt run.outcome_iff.mp timedOut, started⟩

/-- No hop is lost: where the time limit does not stop the run, there is a record of each hop that
was heard. -/
theorem length_hops (sound : plan.fault? = none) (fresh : chain.IsFresh) (turn : Turn)
    (world : World) :
    let execution := registry.perform plan chain turn world
    let heard := registry.heard plan chain turn world
    execution.chain.hops.length ≤ heard.length ∧
      (execution.outcome ≠ .error (.chainTimeoutExceeded plan.settings.chainTimeout) →
        execution.chain.hops.length = heard.length) := by
  cases mode : plan.settings.mode with
  | sequential =>
    obtain ⟨_, ⟨timeUp, length⟩ | ⟨_, length⟩⟩ :=
      registry.hops_sequential_eq mode sound fresh turn world
    · exact ⟨by omega, fun otherwise => absurd timeUp otherwise⟩
    · exact ⟨by omega, fun _ => length.symm⟩
  | parallel =>
    obtain ⟨stopped, run⟩ := registry.parallelRun mode sound fresh turn world
    have heard : (registry.fan plan chain.input world).length =
        (registry.heard plan chain turn world).length := by
      rw [heard_parallel mode sound fresh.status]
      exact List.length_map _
    refine ⟨?_, fun inTime => ?_⟩
    · rw [run.hops, List.length_map, ← heard]
      exact List.length_filter_le _ _
    · have settled := run.settled_iff.mpr (not_not.mp (mt run.outcome_iff.mpr inTime))
      rw [run.hops_of_settled settled, List.length_map, heard]

/-- The records are in the order of the pattern, no two of one hop. -/
theorem increasing_hops (sound : plan.fault? = none) (fresh : chain.IsFresh) (turn : Turn)
    (world : World) : Chain.Increasing (registry.perform plan chain turn world).chain.hops := by
  cases mode : plan.settings.mode with
  | sequential =>
    obtain ⟨stopped, run⟩ := registry.sequentialRun mode sound fresh turn world
    rw [run.hops]
    exact run.numberedKept.increasing
  | parallel =>
    obtain ⟨stopped, run⟩ := registry.parallelRun mode sound fresh turn world
    rw [run.hops]
    exact run.numbered.increasing.sublist (List.Sublist.map _ List.filter_sublist)

/-- **Each record is that of a hop that was heard**, at the place of its index. -/
theorem exists_heard (sound : plan.fault? = none) (fresh : chain.IsFresh) (turn : Turn)
    (world : World) {record : HopRecord}
    (member : record ∈ (registry.perform plan chain turn world).chain.hops) :
    ∃ exchange, (registry.heard plan chain turn world)[record.index]? = some exchange ∧
      record = (plan.flight exchange).record := by
  have numbered := registry.numbered_heard sound fresh.status turn world
  obtain ⟨flight, inside, rfl⟩ : ∃ flight ∈ (registry.heard plan chain turn world).map plan.flight,
      flight.record = record := by
    cases mode : plan.settings.mode with
    | sequential =>
      rw [(registry.hops_sequential_eq mode sound fresh turn world).1] at member
      obtain ⟨flight, taken, same⟩ := List.mem_map.mp member
      exact ⟨flight, List.mem_of_mem_take taken, same⟩
    | parallel =>
      obtain ⟨stopped, run⟩ := registry.parallelRun mode sound fresh turn world
      rw [run.hops] at member
      obtain ⟨flight, landed, same⟩ := List.mem_map.mp member
      rw [heard_parallel mode sound fresh.status]
      exact ⟨flight, List.mem_of_mem_filter landed, same⟩
  have found := numbered.getElem?_index inside
  rw [List.getElem?_map] at found
  obtain ⟨exchange, asked, rfl⟩ := Option.map_eq_some_iff.mp found
  rw [Flight.record_index]
  exact ⟨exchange, asked, rfl⟩

end Registry

end PromptRelay
