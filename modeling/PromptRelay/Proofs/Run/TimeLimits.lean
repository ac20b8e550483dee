/-
**The time limits of a run.**

A hop is waited for no longer than its own time limit, and the run as a whole takes no longer than
the chain's. What has ended by then is recorded, also where it ends at the very limit. Of many hops
that end together with the chain's limit only the first are taken, as many as one turn takes.

* `Plan.line`: the hops that end with the chain's limit, as they stand in line;
* `SequentialRun.timedOut_iff`, `SequentialRun.recorded_iff`: the limits one hop after the other;
* `ParallelRun.timeUp_iff`, `ParallelRun.recorded_iff`: the limits with all hops at once;
* `Registry.recorded_in_time`: both modes, for every plan;
* `Registry.crowded_at_limit`: a run stopped by its limit, though no hop outlasts it.
-/

import PromptRelay.Proofs.Run.Records

namespace PromptRelay

variable {World : Type}

namespace SequentialRun

variable {plan : Plan} {chain : Chain} {turn : Turn} {legs : List Flight}
  {stopped : Progress × Ending} {execution : Execution}

/-! ### One hop after the other -/

/-- The course of a run, from the first hop to the first place where the run may end by itself. -/
theorem exists_last (run : SequentialRun plan chain turn legs stopped execution)
    (someHop : 0 < plan.pattern.hopCount) :
    ∃ last < legs.length,
      plan.course (plan.opened chain turn).chain.totalCost legs = legs.take (last + 1) ∧
      plan.endsAt legs last ∧ ∀ place < last, ¬ plan.endsAt legs place := by
  have total : (plan.opened chain turn).chain.totalCost = 0.0 := run.fresh.totalCost
  rw [total]
  refine plan.course_eq_take ?_
  rw [run.length]
  exact someHop

/-- The time limit stops a run that does not keep its whole course. -/
theorem timedOut_iff (run : SequentialRun plan chain turn legs stopped execution) :
    stopped.2 = .timedOut ↔ plan.kept (plan.opened chain turn) legs ≠
      plan.course (plan.opened chain turn).chain.totalCost legs := by
  cases run.stops with
  | cut next rest course =>
    refine iff_of_true rfl fun whole => ?_
    rw [← whole] at course
    simp at course
  | aborted last source whole isLast failed abort =>
    exact iff_of_false Ending.noConfusion (not_not_intro whole)
  | overspent last output whole isLast answered beyond left =>
    exact iff_of_false Ending.noConfusion (not_not_intro whole)
  | finished whole course goesOn =>
    exact iff_of_false Ending.noConfusion (not_not_intro (whole.trans course.symm))

/-- **The time limit stops a run** when its hops up to the last one take longer together. -/
theorem timeUp_iff (run : SequentialRun plan chain turn legs stopped execution) {last : Nat}
    (course : plan.course (plan.opened chain turn).chain.totalCost legs = legs.take (last + 1))
    (someHop : 0 < plan.pattern.hopCount) :
    execution.outcome = .error (.chainTimeoutExceeded plan.settings.chainTimeout) ↔
      plan.settings.chainTimeout < Flight.spent (legs.take (last + 1)) := by
  have pos : 0 < (legs.take (last + 1)).length := by
    rw [List.length_take, run.length]
    omega
  have whole := Flight.timely_eq_self_iff plan.settings.chainTimeout 0 pos
  rw [Nat.zero_add] at whole
  rw [run.outcome_iff, run.timedOut_iff]
  unfold Plan.kept
  rw [course]
  exact (not_congr whole).trans Nat.not_le

/-- **Those hops are recorded** up to the last one that have ended by the time limit. -/
theorem recorded_iff (run : SequentialRun plan chain turn legs stopped execution) {last : Nat}
    (course : plan.course (plan.opened chain turn).chain.totalCost legs = legs.take (last + 1))
    (inside : last < legs.length) (place : Nat) :
    place ∈ execution.chain.hops.map HopRecord.index ↔
      place ≤ last ∧ Flight.spent (legs.take (place + 1)) ≤ plan.settings.chainTimeout := by
  have kept := Flight.lt_length_timely_iff plan.settings.chainTimeout 0 (legs.take (last + 1)) place
  rw [List.length_take, Nat.zero_add, List.take_take] at kept
  rw [run.hops_index, List.mem_range, run.hops, List.length_map]
  have begun : (plan.opened chain turn).elapsed = 0 := rfl
  unfold Plan.kept
  rw [course, begun, kept]
  have whole : min (last + 1) legs.length = last + 1 := by omega
  rw [whole, Nat.lt_succ_iff]
  refine and_congr_right fun within => ?_
  rw [Nat.min_eq_left (Nat.succ_le_succ within)]

end SequentialRun

namespace Plan

/-! ### All hops at once -/

/-- The indices of the hops that end with the chain's time limit, as they stand in line: in the
order of the pattern, and from the other end where the run begins in a full turn. -/
def line (plan : Plan) (turn : Turn) (heard : List Exchange) : List Nat :=
  let ending := (heard.filter fun exchange => plan.span exchange = plan.settings.chainTimeout).map
    fun exchange => exchange.call.index
  match turn with
  | .free => ending
  | .full => ending.reverse

theorem map_index_atLimit (plan : Plan) (turn : Turn) (heard : List Exchange) :
    (Flight.atLimit plan.settings.chainTimeout turn (heard.map plan.flight)).map
      (fun flight => flight.call.index) = plan.line turn heard := by
  have ending : ((heard.map plan.flight).filter fun flight =>
      flight.seen.delay = plan.settings.chainTimeout).map (fun flight => flight.call.index) =
        (heard.filter fun exchange => plan.span exchange = plan.settings.chainTimeout).map
          fun exchange => exchange.call.index := by
    rw [List.filter_map, List.map_map]
    simp only [Function.comp_def, flight_delay]
    rfl
  unfold Flight.atLimit line
  cases turn with
  | free => exact ending
  | full =>
    unfold Flight.inLine
    rw [List.map_reverse, ending]

/-- Which of the hops that were heard are recorded. -/
theorem lands_iff (plan : Plan) (turn : Turn) (heard : List Exchange) (exchange : Exchange) :
    Flight.lands plan.settings.chainTimeout turn (heard.map plan.flight) (plan.flight exchange) =
        true ↔
      plan.span exchange < plan.settings.chainTimeout ∨
        plan.span exchange = plan.settings.chainTimeout ∧
          exchange.call.index ∈ (plan.line turn heard).take Flight.turnSize := by
  unfold Flight.lands
  rw [List.map_take, plan.map_index_atLimit, flight_delay, Bool.or_eq_true, Bool.and_eq_true,
    decide_eq_true_iff, decide_eq_true_iff]
  exact or_congr_right (and_congr_right fun _ => decide_eq_true_iff)

end Plan

namespace ParallelRun

variable {plan : Plan} {chain : Chain} {turn : Turn} {heard : List Exchange}
  {stopped : Progress × Ending} {execution : Execution}

/-- **The time limit stops a run** when a hop outlasts it, or more hops end with it than a turn
takes. -/
theorem timeUp_iff (run : ParallelRun plan chain turn (heard.map plan.flight) stopped execution) :
    execution.outcome = .error (.chainTimeoutExceeded plan.settings.chainTimeout) ↔
      (∃ exchange ∈ heard, plan.settings.chainTimeout < plan.span exchange) ∨
        Flight.turnSize <
          heard.countP fun exchange => plan.span exchange = plan.settings.chainTimeout := by
  rw [run.outcome_iff, plan.allLand_iff]
  constructor
  · intro notInTime
    by_contra neither
    rw [not_or, not_exists] at neither
    refine notInTime ⟨fun exchange member => ?_, Nat.not_lt.mp neither.2⟩
    exact Nat.not_lt.mp fun late => neither.1 exchange ⟨member, late⟩
  · rintro (⟨exchange, member, late⟩ | crowded) inTime
    · exact absurd (inTime.within exchange member) (Nat.not_le.mpr late)
    · exact absurd inTime.few (Nat.not_le.mpr crowded)

/-- The hops that land are recorded at their places. -/
theorem recorded_iff_lands
    (run : ParallelRun plan chain turn (heard.map plan.flight) stopped execution) (place : Nat) :
    place ∈ execution.chain.hops.map HopRecord.index ↔
      ∃ exchange, heard[place]? = some exchange ∧ Flight.lands plan.settings.chainTimeout turn
        (heard.map plan.flight) (plan.flight exchange) = true := by
  rw [run.hops, List.map_map]
  constructor
  · intro recorded
    obtain ⟨flight, landed, same⟩ := List.mem_map.mp recorded
    obtain ⟨member, lands⟩ := List.mem_filter.mp landed
    have index : flight.call.index = place := flight.record_index.symm.trans same
    have found := run.numbered.getElem?_index member
    rw [index, List.getElem?_map] at found
    obtain ⟨exchange, asked, rfl⟩ := Option.map_eq_some_iff.mp found
    exact ⟨exchange, asked, lands⟩
  · rintro ⟨exchange, asked, lands⟩
    have found := plan.getElem?_flight asked
    refine List.mem_map.mpr ⟨plan.flight exchange, List.mem_filter.mpr ⟨?_, lands⟩, ?_⟩
    · exact List.mem_of_getElem? found
    · exact (Flight.record_index _).trans (run.numbered place _ found).1

/-- **Those hops are recorded** that end before the time limit, and those that end with it and stand
in the first turn. -/
theorem recorded_iff (run : ParallelRun plan chain turn (heard.map plan.flight) stopped execution)
    (place : Nat) :
    place ∈ execution.chain.hops.map HopRecord.index ↔
      ∃ exchange, heard[place]? = some exchange ∧
        (plan.span exchange < plan.settings.chainTimeout ∨
          plan.span exchange = plan.settings.chainTimeout ∧
            place ∈ (plan.line turn heard).take Flight.turnSize) := by
  rw [run.recorded_iff_lands]
  apply exists_congr
  intro exchange
  apply and_congr_right
  intro asked
  have index : exchange.call.index = place :=
    (run.numbered place _ (plan.getElem?_flight asked)).1
  rw [plan.lands_iff, index]

/-- Where no more hops end with the time limit than a turn takes, those are recorded that do not
outlast it. -/
theorem recorded_iff_of_few
    (run : ParallelRun plan chain turn (heard.map plan.flight) stopped execution)
    (few : (heard.countP fun exchange => plan.span exchange = plan.settings.chainTimeout) ≤
      Flight.turnSize) (place : Nat) :
    place ∈ execution.chain.hops.map HopRecord.index ↔
      ∃ exchange, heard[place]? = some exchange ∧
        plan.span exchange ≤ plan.settings.chainTimeout := by
  have fewFlights :
      Flight.endingAt plan.settings.chainTimeout (heard.map plan.flight) ≤ Flight.turnSize := by
    unfold Flight.endingAt
    rw [List.countP_map]
    simpa [Function.comp_def] using few
  rw [run.recorded_iff_lands]
  apply exists_congr
  intro exchange
  apply and_congr_right
  intro asked
  rw [Flight.lands_of_few fewFlights (List.mem_map_of_mem (List.mem_of_getElem? asked)),
    Plan.flight_delay, decide_eq_true_iff]

end ParallelRun

namespace Registry

variable {plan : Plan} {chain : Chain}

/-- The time limits of a run one hop after the other. -/
theorem recorded_in_turn (registry : Registry (StateM World))
    (inTurn : plan.settings.mode = .sequential) (sound : plan.fault? = none) (fresh : chain.IsFresh)
    (turn : Turn) (world : World) :
    let execution := registry.perform plan chain turn world
    let heard := registry.heard plan chain turn world
    let tour := registry.tour plan chain world
    let limit := plan.settings.chainTimeout
    let recorded := execution.chain.hops.map HopRecord.index
    recorded.Pairwise (· < ·) ∧
    (∀ record ∈ execution.chain.hops, ∃ exchange,
      heard[record.index]? = some exchange ∧ plan.Records exchange record) ∧
    ∃ last, plan.endsAt (tour.map plan.flight) last ∧
      (∀ place < last, ¬ plan.endsAt (tour.map plan.flight) place) ∧
      (execution.outcome = .error (.chainTimeoutExceeded limit) ↔
        limit < ((tour.take (last + 1)).map plan.span).sum) ∧
      ∀ place, place ∈ recorded ↔
        place ≤ last ∧ ((tour.take (place + 1)).map plan.span).sum ≤ limit := by
  obtain ⟨stopped, run⟩ := registry.sequentialRun inTurn sound fresh turn world
  have someHop := Plan.hopCount_pos sound
  obtain ⟨last, inside, course, ends, before⟩ := run.exists_last someHop
  have spent : ∀ count, Flight.spent ((registry.legs plan chain world).take count) =
      (((registry.tour plan chain world).take count).map plan.span).sum := by
    intro count
    unfold legs Flight.spent
    rw [← List.map_take, List.map_map]
    exact congrArg List.sum (List.map_congr_left fun exchange _ => plan.flight_delay exchange)
  refine ⟨?_, fun record member => ?_, last, ends, before, ?_, fun place => ?_⟩
  · exact (Chain.increasing_iff _).mp (registry.increasing_hops sound fresh turn world)
  · obtain ⟨exchange, asked, rfl⟩ := registry.exists_heard sound fresh turn world member
    exact ⟨exchange, asked, plan.records_flight exchange⟩
  · rw [← spent]
    exact run.timeUp_iff course someHop
  · rw [← spent]
    exact run.recorded_iff course inside place

/-- The time limits of a run of all hops at once. -/
theorem recorded_together (registry : Registry (StateM World))
    (together : plan.settings.mode = .parallel) (sound : plan.fault? = none) (fresh : chain.IsFresh)
    (turn : Turn) (world : World) :
    let execution := registry.perform plan chain turn world
    let heard := registry.heard plan chain turn world
    let limit := plan.settings.chainTimeout
    let recorded := execution.chain.hops.map HopRecord.index
    heard.length = plan.pattern.hopCount ∧
    recorded.Pairwise (· < ·) ∧
    (∀ record ∈ execution.chain.hops, ∃ exchange,
      heard[record.index]? = some exchange ∧ plan.Records exchange record) ∧
    (execution.outcome = .error (.chainTimeoutExceeded limit) ↔
      (∃ exchange ∈ heard, limit < plan.span exchange) ∨
        Flight.turnSize < heard.countP fun exchange => plan.span exchange = limit) ∧
    (∀ place, place ∈ recorded ↔ ∃ exchange, heard[place]? = some exchange ∧
      (plan.span exchange < limit ∨ plan.span exchange = limit ∧
        place ∈ (plan.line turn heard).take Flight.turnSize)) ∧
    ((heard.countP fun exchange => plan.span exchange = limit) ≤ Flight.turnSize →
      ∀ place, place ∈ recorded ↔
        ∃ exchange, heard[place]? = some exchange ∧ plan.span exchange ≤ limit) := by
  obtain ⟨stopped, run⟩ := registry.parallelRun together sound fresh turn world
  have length := run.length
  unfold fan at run length
  rw [heard_parallel together sound fresh.status]
  refine ⟨?_, ?_, fun record member => ?_, run.timeUp_iff, run.recorded_iff,
    run.recorded_iff_of_few⟩
  · rw [← length, List.length_map]
  · exact (Chain.increasing_iff _).mp (registry.increasing_hops sound fresh turn world)
  · obtain ⟨exchange, asked, rfl⟩ := registry.exists_heard sound fresh turn world member
    rw [heard_parallel together sound fresh.status] at asked
    exact ⟨exchange, asked, plan.records_flight exchange⟩

/-- **A run records what has ended in time.** Each record tells how long the run waited for its
hop, and what came of it by the hop's own time limit. One hop after the other, the chain's time
limit stops the run when the hops up to the one with which the run would end by itself take longer
together; recorded are those of them that have ended by the limit. With all hops at once it stops
the run when a hop outlasts it or more hops end with it than a turn takes; recorded are the hops
that end before it, and the first turn of those that end with it, which are all of them as long as
one turn takes them. -/
theorem recorded_in_time (registry : Registry (StateM World)) (plan : Plan) (chain : Chain)
    (turn : Turn) (world : World) (sound : plan.fault? = none) (reachable : chain.Reachable)
    (pending : chain.status = .pending) :
    let execution := registry.perform plan chain turn world
    let heard := registry.heard plan chain turn world
    let tour := registry.tour plan chain world
    let limit := plan.settings.chainTimeout
    let recorded := execution.chain.hops.map HopRecord.index
    let timeUp := execution.outcome = .error (.chainTimeoutExceeded limit)
    recorded.Pairwise (· < ·) ∧
    (∀ record ∈ execution.chain.hops, ∃ exchange,
      heard[record.index]? = some exchange ∧ plan.Records exchange record) ∧
    (plan.settings.mode = .sequential → heard <+: tour ∧ tour.length = plan.pattern.hopCount ∧
      ∃ last, plan.endsAt (tour.map plan.flight) last ∧
        (∀ place < last, ¬ plan.endsAt (tour.map plan.flight) place) ∧
        (timeUp ↔ limit < ((tour.take (last + 1)).map plan.span).sum) ∧
        ∀ place, place ∈ recorded ↔
          place ≤ last ∧ ((tour.take (place + 1)).map plan.span).sum ≤ limit) ∧
    (plan.settings.mode = .parallel → heard.length = plan.pattern.hopCount ∧
      (timeUp ↔ (∃ exchange ∈ heard, limit < plan.span exchange) ∨
        Flight.turnSize < heard.countP fun exchange => plan.span exchange = limit) ∧
      (∀ place, place ∈ recorded ↔ ∃ exchange, heard[place]? = some exchange ∧
        (plan.span exchange < limit ∨ plan.span exchange = limit ∧
          place ∈ (plan.line turn heard).take Flight.turnSize)) ∧
      ((heard.countP fun exchange => plan.span exchange = limit) ≤ Flight.turnSize →
        ∀ place, place ∈ recorded ↔
          ∃ exchange, heard[place]? = some exchange ∧ plan.span exchange ≤ limit)) := by
  have fresh := reachable.isFresh pending
  cases mode : plan.settings.mode with
  | sequential =>
    obtain ⟨increasing, records, last, ends, before, timeUp, recorded⟩ :=
      registry.recorded_in_turn mode sound fresh turn world
    refine ⟨increasing, records, fun _ => ⟨?_, ?_, last, ends, before, timeUp, recorded⟩,
      ExecutionMode.noConfusion⟩
    · exact (registry.heard_sequential mode sound pending turn world).1
    · rw [← registry.length_legs plan chain world]
      exact (List.length_map _).symm
  | parallel =>
    obtain ⟨length, increasing, records, timeUp, recorded, few⟩ :=
      registry.recorded_together mode sound fresh turn world
    exact ⟨increasing, records, ExecutionMode.noConfusion,
      fun _ => ⟨length, timeUp, recorded, few⟩⟩

/-- Three hops at once that would outlast their own limit end with it, and so with the chain's, and
all of them are recorded. -/
theorem recorded_in_time_abreast :
    let execution := rehearsed.perform (.abreast 3) .solo .free (.after 7 0.1)
    execution.outcome ≠ .error (.chainTimeoutExceeded 5) ∧
      ∀ place < 3, place ∈ execution.chain.hops.map HopRecord.index := by
  obtain ⟨_, _, _, inTime⟩ := recorded_in_time rehearsed (.abreast 3) .solo .free (.after 7 0.1)
    (by decide +kernel) Chain.solo_reachable rfl
  obtain ⟨length, timeUp, _, recorded⟩ := inTime rfl
  have spans : ∀ exchange ∈ rehearsed.heard (.abreast 3) .solo .free (.after 7 0.1),
      (Plan.abreast 3).span exchange = 5 := by
    decide +kernel
  refine ⟨fun stopped => ?_, fun place inside => ?_⟩
  · rcases timeUp.mp stopped with ⟨exchange, member, late⟩ | crowded
    · exact absurd (spans exchange member) (Nat.ne_of_gt late)
    · revert crowded
      decide +kernel
  · have inHeard := Nat.lt_of_lt_of_eq inside length.symm
    have span := spans _ (List.getElem_mem inHeard)
    exact (recorded (by decide +kernel) place).mpr
      ⟨_, List.getElem?_eq_getElem inHeard, Nat.le_of_eq span⟩

/-- **A crowd at the limit**: the time limit stops a run of one hop more than a turn takes, though
no hop outlasts it, and a hop that ends with the limit is not recorded. -/
theorem crowded_at_limit :
    let plan := Plan.abreast (Flight.turnSize + 1)
    let execution := rehearsed.perform plan .solo .free (.after 5 0.1)
    let heard := rehearsed.heard plan .solo .free (.after 5 0.1)
    plan.fault? = none ∧ Chain.solo.Reachable ∧ Chain.solo.status = .pending ∧
      ¬ (execution.outcome = .error (.chainTimeoutExceeded 5) ↔
        ∃ exchange ∈ heard, 5 < plan.span exchange) ∧
      ¬ ∀ place, place ∈ execution.chain.hops.map HopRecord.index ↔
        ∃ exchange, heard[place]? = some exchange ∧ plan.span exchange ≤ 5 := by
  have sound : (Plan.abreast (Flight.turnSize + 1)).fault? = none := by decide +kernel
  have together : (Plan.abreast (Flight.turnSize + 1)).settings.mode = .parallel := rfl
  obtain ⟨length, _, _, timeUp, recorded, _⟩ := rehearsed.recorded_together together sound
    (Chain.solo_reachable.isFresh rfl) .free (.after 5 0.1)
  have spans : ∀ exchange ∈ rehearsed.heard (.abreast (Flight.turnSize + 1)) .solo .free
      (.after 5 0.1), (Plan.abreast (Flight.turnSize + 1)).span exchange = 5 := by
    decide +kernel
  have behind : 128 ∉ ((Plan.abreast (Flight.turnSize + 1)).line .free (rehearsed.heard
      (.abreast (Flight.turnSize + 1)) .solo .free (.after 5 0.1))).take Flight.turnSize := by
    decide +kernel
  refine ⟨sound, Chain.solo_reachable, rfl, fun claimed => ?_, fun claimed => ?_⟩
  · obtain ⟨exchange, member, late⟩ := claimed.mp (timeUp.mpr (.inr (by decide +kernel)))
    exact absurd (spans exchange member) (Nat.ne_of_gt late)
  · have inside := Nat.lt_of_lt_of_eq (by decide : 128 < 129) length.symm
    have span := spans _ (List.getElem_mem inside)
    obtain ⟨exchange, found, early | ⟨_, inLine⟩⟩ := (recorded 128).mp
      ((claimed 128).mpr ⟨_, List.getElem?_eq_getElem inside, Nat.le_of_eq span⟩)
    · exact absurd (spans exchange (List.mem_of_getElem? found)) (Nat.ne_of_lt early)
    · exact behind inLine

end Registry

end PromptRelay
