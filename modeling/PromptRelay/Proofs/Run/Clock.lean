/-
**The time that a run takes.**

A run waits for a hop until its reply is there or the hop's time limit has come. One hop after the
other the times add up, and those hops are kept whose ends come before the chain's time limit, or
with it.

* `Plan.Records`, `Plan.records_flight`: what is recorded of a hop and its reply;
* `Flight.lt_length_timely_iff`, `Flight.timely_eq_self_iff`: which hops are kept, and when all are;
* `Plan.endsAt`, `Plan.course_eq_take`: a run ends by itself at the first place where it may;
* `Plan.heard_sequential`: a run hears the beginning of its tour, and with it all that it keeps;
* `Plan.departures_sequential`: it starts the hops that it hears.
-/

import PromptRelay.Proofs.Run.Legs

namespace PromptRelay

variable {World : Type}

namespace Plan

/-! ### One hop -/

/-- What a run records of a hop and its reply: the time it waited and, where the reply comes no
later than the hop's time limit, the reply's own result. A later reply is a timeout, which is not
billed. -/
structure Records (plan : Plan) (exchange : Exchange) (record : HopRecord) : Prop where
  index : record.index = exchange.call.index
  duration : record.duration = plan.span exchange
  inTime : exchange.reply.delay ≤ plan.settings.hopTimeout →
    record = .ofResult exchange.call.index exchange.call.provider exchange.call.prompt
      exchange.reply.result exchange.reply.delay
  late : plan.settings.hopTimeout < exchange.reply.delay →
    record.succeeded = false ∧ record.failureKind = some .timeout ∧
      record.failureReason = some (HopError.timeout plan.settings.hopTimeout).message ∧
      record.content = none ∧ record.cost = 0.0 ∧ record.tokens = 0

/-- The record of a hop as a run sees it. -/
theorem records_flight (plan : Plan) (exchange : Exchange) :
    plan.Records exchange (plan.flight exchange).record := by
  refine ⟨Flight.record_index _, ?_, fun inTime => ?_, fun late => ?_⟩
  · rw [Flight.record_duration, flight_delay]
  · unfold Flight.record Progress.recordOf flight
    rw [Reply.within_eq_self inTime]
  · have seen : (plan.flight exchange).seen.result =
        .error (.timeout plan.settings.hopTimeout) := by
      unfold flight Reply.within
      rw [if_pos late]
    rw [Flight.record_of_error seen]
    exact ⟨rfl, rfl, rfl, rfl, rfl, rfl⟩

end Plan

namespace Flight

/-! ### Hops in time -/

/-- The milliseconds that hops take one after the other. -/
def spent (flights : List Flight) : Nat :=
  (flights.map fun flight => flight.seen.delay).sum

@[simp]
theorem spent_cons (flight : Flight) (flights : List Flight) :
    spent (flight :: flights) = flight.seen.delay + spent flights := rfl

/-- A hop is kept when it has ended by the limit. -/
theorem lt_length_timely_iff (limit elapsed : Nat) (flights : List Flight) (place : Nat) :
    place < (timely limit elapsed flights).length ↔
      place < flights.length ∧ elapsed + spent (flights.take (place + 1)) ≤ limit := by
  induction flights generalizing elapsed place with
  | nil => simp [timely]
  | cons flight flights hypothesis =>
    rw [List.take_succ_cons, spent_cons, ← Nat.add_assoc]
    by_cases late : limit < elapsed + flight.seen.delay
    · rw [timely_of_late late]
      simp only [List.length_nil, Nat.not_lt_zero, false_iff, not_and]
      omega
    · rw [timely_of_inTime late]
      cases place with
      | zero =>
        simp only [List.length_cons, Nat.zero_lt_succ, List.take_zero, true_and, true_iff]
        exact Nat.not_lt.mp late
      | succ place =>
        rw [List.length_cons, List.length_cons, Nat.succ_lt_succ_iff, Nat.succ_lt_succ_iff]
        exact hypothesis _ place

/-- All hops are kept when the last one has ended by the limit. -/
theorem timely_eq_self_iff (limit elapsed : Nat) {flights : List Flight}
    (someHop : 0 < flights.length) :
    timely limit elapsed flights = flights ↔ elapsed + spent flights ≤ limit := by
  have last := lt_length_timely_iff limit elapsed flights (flights.length - 1)
  rw [Nat.sub_add_cancel someHop, List.take_length] at last
  constructor
  · intro all
    rw [all] at last
    exact (last.mp (by omega)).2
  · intro inTime
    refine (Plan.timely_prefix limit elapsed flights).eq_of_length_le ?_
    have kept := last.mpr ⟨by omega, inTime⟩
    omega

end Flight

namespace Plan

/-! ### The end of a run by itself -/

/-- The run may end by itself with the hop at a place: no hop is left, its failure aborts the run,
or its success has brought the total cost over the budget. -/
def endsAt (plan : Plan) (flights : List Flight) (place : Nat) : Prop :=
  place + 1 = flights.length ∨ ∃ flight, flights[place]? = some flight ∧
    plan.halts flight (HopRecord.costFrom 0.0 ((flights.take (place + 1)).map Flight.record)) = true

theorem length_course_pos (plan : Plan) (total : Float) {flights : List Flight}
    (someHop : 0 < flights.length) : 0 < (plan.course total flights).length := by
  cases flights with
  | nil => cases someHop
  | cons flight flights => exact Nat.zero_lt_succ _

/-- A course ends where the run first may end by itself. -/
theorem course_eq_take (plan : Plan) {flights : List Flight} (someHop : 0 < flights.length) :
    ∃ last < flights.length, plan.course 0.0 flights = flights.take (last + 1) ∧
      plan.endsAt flights last ∧ ∀ place < last, ¬ plan.endsAt flights place := by
  have begins := plan.course_prefix 0.0 flights
  have course := List.prefix_iff_eq_take.mp begins
  have pos := plan.length_course_pos 0.0 someHop
  have within := begins.length_le
  refine ⟨(plan.course 0.0 flights).length - 1, by omega, ?_, ?_, fun place before ends => ?_⟩
  · rw [Nat.sub_add_cancel pos]
    exact course
  · unfold endsAt
    rw [Nat.sub_add_cancel pos, ← course]
    rcases Nat.eq_or_lt_of_le within with whole | shorter
    · exact .inl whole
    · obtain ⟨last, isLast, halted⟩ := plan.halts_of_lt 0.0 flights shorter
      rw [List.getLast?_eq_getElem?] at isLast
      exact .inr ⟨last, Flight.getElem?_of_begins begins isLast, halted⟩
  · rcases ends with whole | ⟨flight, found, halted⟩
    · omega
    · have inside : (plan.course 0.0 flights)[place]? = some flight := by
        obtain ⟨rest, split⟩ := begins
        rw [← split, List.getElem?_append_left (by omega)] at found
        exact found
      rw [plan.not_halts_of_lt 0.0 flights inside (by omega)] at halted
      cases halted

/-! ### What is heard -/

/-- A run asks for nothing more when its time limit or its rules stop it, and goes on else. Where it
stops it has told of no start after that of the hop. -/
theorem onward_cases (plan : Plan) (rest : List String) (index : Nat) (progress : Progress)
    (flight : Flight) :
    let late := plan.settings.chainTimeout < progress.elapsed + flight.seen.delay
    let halted := plan.halts flight (progress.chain.totalCost + flight.record.cost)
    let stops := ∃ stopped, plan.onward rest index progress flight = .done stopped ∧
      stopped.1.events.filter Event.isHopStarted =
        progress.events.filter Event.isHopStarted ++ [flight.departure]
    (late ∧ stops) ∨ (¬ late ∧ halted = true ∧ stops) ∨
    (¬ late ∧ halted = false ∧ plan.onward rest index progress flight =
      sequential plan rest (index + 1) (progress.through [flight])) := by
  have total : (progress.through [flight]).chain.totalCost =
      progress.chain.totalCost + flight.record.cost := rfl
  have passed : (progress.through [flight]).events.filter Event.isHopStarted =
      progress.events.filter Event.isHopStarted ++ [flight.departure] :=
    progress.through_departures [flight]
  rw [← total]
  unfold onward
  by_cases late : plan.settings.chainTimeout < progress.elapsed + flight.seen.delay
  · rw [if_pos late]
    have launched : (progress.launch flight.call).events.filter Event.isHopStarted =
        progress.events.filter Event.isHopStarted ++ [flight.departure] :=
      List.filter_append progress.events [flight.departure]
    exact .inl ⟨late, _, rfl, launched⟩
  · rw [if_neg late]
    refine .inr ?_
    cases seen : flight.seen.result with
    | error source =>
      cases policy : plan.settings.policy with
      | abort => exact .inl ⟨late, (halts_of_error seen _).mpr policy, _, rfl, passed⟩
      | «continue» =>
        refine .inr ⟨late, Bool.eq_false_iff.mpr fun halted => ?_, rfl⟩
        rw [halts_of_error seen, policy] at halted
        cases halted
    | ok output =>
      by_cases beyond : plan.settings.budget < (progress.through [flight]).chain.totalCost
      · refine .inl ⟨late, (halts_of_ok seen _).mpr beyond, ?_⟩
        cases rest with
        | nil => exact ⟨_, if_neg (by simp), passed⟩
        | cons provider rest =>
          refine ⟨_, if_pos (by simp [beyond]), ?_⟩
          unfold Progress.tell
          rw [List.filter_append, passed]
          exact List.append_nil _
      · refine .inr ⟨late, Bool.eq_false_iff.mpr fun halted => ?_, if_neg (by simp [beyond])⟩
        exact beyond ((halts_of_ok seen _).mp halted)

/-- **A run one hop after the other hears the beginning of its tour**, and with it all that it
keeps. -/
theorem heard_sequential (plan : Plan) (answer : HopCall → StateM World Reply)
    (providers : List String) (index : Nat) (progress : Progress) (world : World)
    (running : progress.chain.status = .running) :
    let tour := plan.tour answer providers index progress.chain world
    let heard := (sequential plan providers index progress).heard answer world
    heard <+: tour ∧ (plan.kept progress (tour.map plan.flight)).length ≤ heard.length := by
  induction providers generalizing index progress world with
  | nil => exact ⟨List.prefix_refl [], Nat.le_refl 0⟩
  | cons provider rest hypothesis =>
    rw [sequential_cons plan provider rest index running]
    unfold tour Dialogue.heard
    dsimp only
    generalize answer (plan.call index provider (plan.promptAfter index progress.chain)) world =
      answered
    generalize Exchange.mk (plan.call index provider (plan.promptAfter index progress.chain))
      answered.1 = exchange
    obtain ⟨begins, kept⟩ := hypothesis (index + 1) (progress.through [plan.flight exchange])
      answered.2 running
    rw [List.map_cons]
    rcases plan.onward_cases rest index progress (plan.flight exchange) with
      ⟨late, _, done, _⟩ | ⟨inTime, halted, _, done, _⟩ | ⟨inTime, going, goesOn⟩
    · rw [done, kept_of_late _ late]
      exact ⟨List.prefix_cons_inj exchange |>.mpr List.nil_prefix, Nat.zero_le _⟩
    · rw [done, (kept_of_halts _ inTime halted).2]
      exact ⟨List.prefix_cons_inj exchange |>.mpr List.nil_prefix, Nat.le_refl 1⟩
    · rw [goesOn, kept_cons _ inTime going]
      exact ⟨List.prefix_cons_inj exchange |>.mpr begins, Nat.succ_le_succ kept⟩

/-- **A run one hop after the other starts the hops that it hears**, in the order in which it hears
them. -/
theorem departures_sequential (plan : Plan) (answer : HopCall → StateM World Reply)
    (providers : List String) (index : Nat) (progress : Progress) (world : World)
    (running : progress.chain.status = .running) :
    let run := sequential plan providers index progress
    (run.run answer world).1.1.events.filter Event.isHopStarted =
      progress.events.filter Event.isHopStarted ++
        ((run.heard answer world).map plan.flight).map Flight.departure := by
  induction providers generalizing index progress world with
  | nil => exact (List.append_nil _).symm
  | cons provider rest hypothesis =>
    rw [sequential_cons plan provider rest index running]
    let call := plan.call index provider (plan.promptAfter index progress.chain)
    let flight := plan.flight ⟨call, (answer call world).1⟩
    let onward := plan.onward rest index progress flight
    let later := (onward.heard answer (answer call world).2).map plan.flight
    show (onward.run answer (answer call world).2).1.1.events.filter Event.isHopStarted =
      progress.events.filter Event.isHopStarted ++ flight.departure :: later.map Flight.departure
    have departed :=
      hypothesis (index + 1) (progress.through [flight]) (answer call world).2 running
    dsimp only at departed
    rw [progress.through_departures, List.append_assoc] at departed
    rcases plan.onward_cases rest index progress flight with
      ⟨_, stopped, done, told⟩ | ⟨_, _, stopped, done, told⟩ | ⟨_, _, goesOn⟩
    · unfold later onward
      rw [done]
      exact told
    · unfold later onward
      rw [done]
      exact told
    · unfold later onward
      rw [goesOn]
      exact departed

end Plan

/-- The run of a plan hears the beginning of its tour, and with it all that it keeps. -/
theorem Registry.heard_sequential (registry : Registry (StateM World)) {plan : Plan}
    {chain : Chain} (inTurn : plan.settings.mode = .sequential) (sound : plan.fault? = none)
    (pending : chain.status = .pending) (turn : Turn) (world : World) :
    registry.heard plan chain turn world <+: registry.tour plan chain world ∧
      (plan.kept (plan.opened chain turn) (registry.legs plan chain world)).length ≤
        (registry.heard plan chain turn world).length := by
  have heard := plan.heard_sequential (registry.answer plan.catalog) plan.pattern.providers 0
    (plan.opened chain turn) world rfl
  rw [registry.tour_opened] at heard
  rw [heard_eq sound pending]
  unfold Plan.hops
  rw [inTurn]
  exact heard

/-- The observer is told of the hops that are heard. -/
theorem Registry.departures_sequential (registry : Registry (StateM World)) {plan : Plan}
    {chain : Chain} (inTurn : plan.settings.mode = .sequential) (sound : plan.fault? = none)
    (pending : chain.status = .pending) (turn : Turn) (world : World) :
    (registry.perform plan chain turn world).events.filter Event.isHopStarted =
      ((registry.heard plan chain turn world).map plan.flight).map Flight.departure := by
  have departed := plan.departures_sequential (registry.answer plan.catalog)
    plan.pattern.providers 0 (plan.opened chain turn) world rfl
  dsimp only at departed
  have running := (registry.hops_sequential inTurn chain turn world).running rfl
  rw [perform_eq sound pending, heard_eq sound pending,
    (Progress.conclude_cases running _).departures]
  unfold Plan.hops
  rw [inTurn]
  exact departed

end PromptRelay
