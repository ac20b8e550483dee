/-
**The budget of a run one hop after the other.**

The total cost is looked at after each success that is not the last hop. So at most one hop
overshoots the budget, and a run is stopped by the budget exactly when it ends well with hops left.

* `Registry.spending_bounded`: a hop starts only while no success before it was over the budget, and
  the word of an exceeded budget says that hops were skipped, how many, and after which hop.
-/

import PromptRelay.Proofs.Run.Legs

namespace PromptRelay

variable {World : Type}

namespace Plan

section Spending

variable {plan : Plan} {progress : Progress} {flights : List Flight} {stopped : Progress × Ending}

/-- A hop of the course that has another one behind it did not succeed over the budget. -/
theorem within_budget_of_lt {place : Nat} {flight : Flight}
    (found : flights[place]? = some flight)
    (notLast : place + 1 < (plan.course progress.chain.totalCost flights).length)
    (succeeded : flight.record.succeeded = true) :
    ¬ plan.settings.budget < HopRecord.costFrom progress.chain.totalCost
      ((flights.take (place + 1)).map Flight.record) := by
  obtain ⟨output, answered⟩ := flight.record_succeeded_iff.mp succeeded
  have inside : (plan.course progress.chain.totalCost flights)[place]? = some flight := by
    obtain ⟨rest, split⟩ := plan.course_prefix progress.chain.totalCost flights
    rw [← split, List.getElem?_append_left (by omega)] at found
    exact found
  intro beyond
  have going := plan.not_halts_of_lt progress.chain.totalCost flights inside notLast
  rw [(halts_of_ok answered _).mpr beyond] at going
  cases going

/-- A run that tells of no exceeded budget settles with its last hop only. One that does has settled
after a success over the budget, with hops left. -/
theorem Stops.spent (stops : plan.Stops progress flights stopped)
    (silent : progress.events.countP Event.isBudgetExceeded = 0) :
    (stopped.1.events.countP Event.isBudgetExceeded = 0 ∧
      (stopped.2 = .settled → (plan.kept progress flights).length = flights.length)) ∨
    ∃ last, (plan.kept progress flights).getLast? = some last ∧ last.record.succeeded = true ∧
      plan.settings.budget < stopped.1.chain.totalCost ∧
      (plan.kept progress flights).length < flights.length ∧ stopped.2 = .settled ∧
      stopped.1.events = (progress.through (plan.kept progress flights)).events ++
        [.budgetExceeded stopped.1.chain.totalCost plan.settings.budget
          (flights.length - (plan.kept progress flights).length)] := by
  have passed : (progress.through (plan.kept progress flights)).events.countP
      Event.isBudgetExceeded = 0 := by
    rw [Progress.through_budgetExceeded, silent]
  cases stops with
  | cut next rest course =>
    refine .inl ⟨?_, fun settled => by cases settled⟩
    unfold Progress.launch Progress.tell
    rw [List.countP_append, passed]
    rfl
  | aborted last source whole isLast failed abort =>
    exact .inl ⟨passed, fun settled => by cases settled⟩
  | overspent last output whole isLast answered beyond left =>
    exact .inr ⟨last, isLast, Flight.record_succeeded_of_ok answered, beyond, left, rfl, rfl⟩
  | finished whole course goesOn => exact .inl ⟨passed, fun _ => congrArg _ whole⟩

end Spending

end Plan

namespace SequentialRun

variable {plan : Plan} {chain : Chain} {turn : Turn} {legs : List Flight}
  {stopped : Progress × Ending} {execution : Execution}

/-- A hop starts only while no success before it was over the budget. -/
theorem within_budget (run : SequentialRun plan chain turn legs stopped execution)
    {started place : Nat} {provider : String}
    (told : .hopStarted started provider ∈ execution.events) (before : place < started) :
    ∃ record, execution.chain.hops[place]? = some record ∧ (record.succeeded = true →
      ¬ plan.settings.budget < HopRecord.costFrom 0.0 (execution.chain.hops.take (place + 1))) := by
  obtain ⟨counted, within⟩ := run.started
  have member : started ∈ execution.events.filterMap Event.startedIndex? :=
    List.mem_filterMap.mpr ⟨_, told, rfl⟩
  rw [counted, List.mem_range] at member
  have recorded : place < execution.chain.hops.length := by
    split at member <;> omega
  rw [run.hops, List.length_map] at recorded
  have found := List.getElem?_eq_getElem recorded
  have inLegs := Flight.getElem?_of_begins (plan.kept_prefix _ _) found
  refine ⟨(plan.kept (plan.opened chain turn) legs)[place].record, ?_, fun succeeded => ?_⟩
  · rw [run.hops, List.getElem?_map, found]
    rfl
  · have notLast : place + 1 < (plan.course (plan.opened chain turn).chain.totalCost legs).length :=
      by omega
    have bounded := Plan.within_budget_of_lt inLegs notLast succeeded
    rw [run.hops, ← List.map_take, Flight.take_of_begins (plan.kept_prefix _ _) recorded]
    rw [show (plan.opened chain turn).chain.totalCost = 0.0 from run.fresh.totalCost] at bounded
    exact bounded

/-- The budget is told to be exceeded as often as the budget stops the run. -/
theorem spent (run : SequentialRun plan chain turn legs stopped execution) :
    (execution.events.countP Event.isBudgetExceeded = 0 ∧
      (stopped.2 = .settled → execution.chain.hops.length = plan.pattern.hopCount)) ∨
    ∃ before record last, execution.events = before ++ [record.arrival,
        .budgetExceeded execution.chain.totalCost plan.settings.budget
          (plan.pattern.hopCount - execution.chain.hops.length), last] ∧
      execution.events.countP Event.isBudgetExceeded = 1 ∧
      execution.chain.hops.getLast? = some record ∧ record.succeeded = true ∧
      plan.settings.budget < execution.chain.totalCost ∧
      execution.chain.hops.length < plan.pattern.hopCount ∧
      (∃ text, execution.outcome = .ok text) := by
  obtain ⟨closing, told, closed⟩ := run.concluded.events
  have count : execution.events.countP Event.isBudgetExceeded =
      stopped.1.events.countP Event.isBudgetExceeded := by
    rw [told, List.countP_append, Nat.add_eq_left, List.countP_singleton, closed.isBudgetExceeded]
    rfl
  have total := run.concluded.totalCost run.running
  rcases run.stops.spent rfl with
    ⟨silent, whole⟩ | ⟨last, isLast, succeeded, beyond, left, settled, told'⟩
  · refine .inl ⟨count.trans silent, fun settled => ?_⟩
    rw [run.hops, List.length_map, whole settled, run.length]
  · obtain ⟨earlier, split⟩ := List.getLast?_eq_some_iff.mp isLast
    obtain ⟨before, events⟩ : ∃ before, stopped.1.events = before ++ [last.record.arrival,
        .budgetExceeded stopped.1.chain.totalCost plan.settings.budget
          (legs.length - (plan.kept (plan.opened chain turn) legs).length)] := by
      refine ⟨(plan.opened chain turn).events ++
        (earlier.flatMap fun flight => [flight.departure, flight.arrival]) ++ [last.departure], ?_⟩
      rw [told', split, ← last.arrival_eq]
      simp [Progress.through]
    have once : stopped.1.events.countP Event.isBudgetExceeded = 1 := by
      rw [told', List.countP_append, Progress.through_budgetExceeded]
      rfl
    have someSuccess : stopped.1.chain.successes ≠ [] := by
      refine List.ne_nil_of_mem (a := last.record) (List.mem_filter.mpr ⟨?_, succeeded⟩)
      rw [run.stoppedHops, split]
      exact List.mem_map_of_mem (List.mem_append_right earlier List.mem_cons_self)
    refine .inr ⟨before, last.record, closing, ?_, count.trans once, ?_, succeeded, ?_, ?_,
      _, run.concluded.ok_of_success settled someSuccess⟩
    · rw [told, events, total, run.hops, List.length_map, run.length, List.append_assoc]
      rfl
    · rw [run.hops, split, List.map_append, List.map_singleton]
      exact List.getLast?_concat
    · rw [total]
      exact beyond
    · rw [run.hops, List.length_map, ← run.length]
      exact left

end SequentialRun

namespace Registry

/-- **A run overshoots its budget by at most one hop.** A hop starts only while the total cost was
not over the budget after any success before it. The word of an exceeded budget is told by the runs
that end well with hops left, once, and by no others: right after the end of the last hop, which
succeeded and brought the total over the budget, with the number of the hops that are skipped. -/
theorem spending_bounded (registry : Registry (StateM World)) (plan : Plan) (chain : Chain)
    (turn : Turn) (world : World) (inTurn : plan.settings.mode = .sequential)
    (sound : plan.fault? = none) (reachable : chain.Reachable)
    (pending : chain.status = .pending) :
    let execution := registry.perform plan chain turn world
    let hops := execution.chain.hops
    hops.map HopRecord.index = List.range hops.length ∧
    execution.chain.totalCost = HopRecord.costFrom 0.0 hops ∧
    (∀ started provider, .hopStarted started provider ∈ execution.events →
      ∀ place < started, ∃ record, hops[place]? = some record ∧
        (record.succeeded = true →
          ¬ plan.settings.budget < HopRecord.costFrom 0.0 (hops.take (place + 1)))) ∧
    ((∃ event ∈ execution.events, event.isBudgetExceeded = true) ↔
      (∃ text, execution.outcome = .ok text) ∧ hops.length < plan.pattern.hopCount) ∧
    ((∃ event ∈ execution.events, event.isBudgetExceeded = true) →
      execution.events.countP Event.isBudgetExceeded = 1 ∧
      ∃ before record skipped last,
        execution.events = before ++ [record.arrival,
          .budgetExceeded execution.chain.totalCost plan.settings.budget skipped, last] ∧
        hops.getLast? = some record ∧ record.succeeded = true ∧
        plan.settings.budget < execution.chain.totalCost ∧
        skipped = plan.pattern.hopCount - hops.length ∧ 1 ≤ skipped) := by
  have fresh := reachable.isFresh pending
  obtain ⟨stopped, run⟩ := registry.sequentialRun inTurn sound fresh turn world
  generalize registry.perform plan chain turn world = execution at run
  refine ⟨run.hops_index, run.totalCost, ?_, ?_, ?_⟩
  · intro started provider told place before
    exact run.within_budget told before
  · constructor
    · rintro ⟨event, member, exceeded⟩
      rcases run.spent with ⟨silent, _⟩ | ⟨_, _, _, _, _, _, _, _, left, ok⟩
      · exact absurd exceeded (List.countP_eq_zero.mp silent event member)
      · exact ⟨ok, left⟩
    · rintro ⟨⟨text, ok⟩, left⟩
      rcases run.spent with ⟨_, whole⟩ | ⟨_, _, _, _, once, _⟩
      · exact absurd (whole (run.concluded.settled_of_ok ok)) (Nat.ne_of_lt left)
      · exact List.countP_pos_iff.mp (Nat.lt_of_lt_of_eq Nat.one_pos once.symm)
  · rintro ⟨event, member, exceeded⟩
    rcases run.spent with
      ⟨silent, _⟩ | ⟨before, record, last, told, once, isLast, succeeded, beyond, left, _⟩
    · exact absurd exceeded (List.countP_eq_zero.mp silent event member)
    · exact ⟨once, before, record, _, last, told, isLast, succeeded, beyond, rfl,
        Nat.le_sub_of_add_le' left⟩

/-- Of three hops for 0.3 each, the second exceeds a budget of 0.5 and the third is skipped. -/
theorem spending_bounded_solo :
    let execution := rehearsed.perform (.solo 3 { budget := 0.5 }) .solo .free (.after 10 0.3)
    execution.events.countP Event.isBudgetExceeded = 1 ∧
      (∃ text, execution.outcome = .ok text) ∧ execution.chain.hops.length < 3 := by
  have bounded := spending_bounded rehearsed (.solo 3 { budget := 0.5 }) .solo .free (.after 10 0.3)
    rfl (by decide +kernel) Chain.solo_reachable rfl
  have exceeded : ∃ event ∈ (rehearsed.perform (.solo 3 { budget := 0.5 }) .solo .free
      (.after 10 0.3)).events, event.isBudgetExceeded = true := by
    decide +kernel
  obtain ⟨_, _, _, stopsWell, once⟩ := bounded
  exact ⟨(once exceeded).1, stopsWell.mp exceeded⟩

end Registry

end PromptRelay
