/-
**Where a run one hop after the other stops.**

A run asks for one hop and goes on from what it saw of it. So it passes through the hops that are
kept of its tour, and what comes next stops it: the time limit, an abort, the budget, or the end of
the pattern.

* `Plan.Stops`: the four ways in which a run stops, with what is left of it;
* `Plan.sequential_cons`: one hop of a run;
* `Plan.sequential_stops`: a run stops in one of these ways;
* `Plan.Stops.chain`, `Plan.Stops.started`: its records, and the hops it has started.
-/

import PromptRelay.Proofs.Run.Conclusion
import PromptRelay.Proofs.Run.Tour

namespace PromptRelay

variable {World : Type}

namespace Plan

/-! ### How a run stops -/

/-- The ways in which a run stops that has these hops before it. -/
inductive Stops (plan : Plan) (progress : Progress) (flights : List Flight) :
    Progress × Ending → Prop where
  /-- The chain's time limit comes before the end of the next hop. -/
  | cut (next : Flight) (rest : List Flight)
      (course : plan.course progress.chain.totalCost flights =
        plan.kept progress flights ++ next :: rest) :
      Stops plan progress flights
        ({ (progress.through (plan.kept progress flights)).launch next.call with turn := .free },
          .timedOut)
  /-- A hop's failure aborts the run. -/
  | aborted (last : Flight) (source : HopError)
      (whole : plan.kept progress flights = plan.course progress.chain.totalCost flights)
      (isLast : (plan.kept progress flights).getLast? = some last)
      (failed : last.seen.result = .error source) (abort : plan.settings.policy = .abort) :
      Stops plan progress flights
        (progress.through (plan.kept progress flights),
          .failed (.hopAborted last.call.index last.call.provider source))
  /-- A hop's success has brought the total cost over the budget, and other hops are left. -/
  | overspent (last : Flight) (output : HopOutput)
      (whole : plan.kept progress flights = plan.course progress.chain.totalCost flights)
      (isLast : (plan.kept progress flights).getLast? = some last)
      (answered : last.seen.result = .ok output)
      (beyond : plan.settings.budget <
        (progress.through (plan.kept progress flights)).chain.totalCost)
      (left : (plan.kept progress flights).length < flights.length) :
      Stops plan progress flights
        ((progress.through (plan.kept progress flights)).tell
          (.budgetExceeded (progress.through (plan.kept progress flights)).chain.totalCost
            plan.settings.budget (flights.length - (plan.kept progress flights).length)),
          .settled)
  /-- No hop is left. -/
  | finished
      (whole : plan.kept progress flights = flights)
      (course : plan.course progress.chain.totalCost flights = flights)
      (goesOn : ∀ last source, flights.getLast? = some last → last.seen.result = .error source →
        plan.settings.policy = .continue) :
      Stops plan progress flights (progress.through (plan.kept progress flights), .settled)

section Step

variable {plan : Plan} {progress : Progress} {flight : Flight} (flights : List Flight)

theorem course_cons
    (going : plan.halts flight (progress.chain.totalCost + flight.record.cost) = false) :
    plan.course progress.chain.totalCost (flight :: flights) =
      flight :: plan.course (progress.through [flight]).chain.totalCost flights :=
  course_of_going going flights

/-- Nothing is kept where the time limit comes before the end of the hop. -/
theorem kept_of_late (late : plan.settings.chainTimeout < progress.elapsed + flight.seen.delay) :
    plan.kept progress (flight :: flights) = [] := by
  unfold kept course
  exact Flight.timely_of_late late _

/-- A hop in time that ends the run is the whole course, and is kept. -/
theorem kept_of_halts (inTime : ¬ plan.settings.chainTimeout < progress.elapsed + flight.seen.delay)
    (halted : plan.halts flight (progress.chain.totalCost + flight.record.cost) = true) :
    plan.course progress.chain.totalCost (flight :: flights) = [flight] ∧
      plan.kept progress (flight :: flights) = [flight] := by
  have course := course_of_halts halted flights
  refine ⟨course, ?_⟩
  unfold kept
  rw [course, Flight.timely_of_inTime inTime]
  rfl

theorem kept_cons (inTime : ¬ plan.settings.chainTimeout < progress.elapsed + flight.seen.delay)
    (going : plan.halts flight (progress.chain.totalCost + flight.record.cost) = false) :
    plan.kept progress (flight :: flights) =
      flight :: plan.kept (progress.through [flight]) flights := by
  unfold kept
  rw [course_cons flights going, Flight.timely_of_inTime inTime]
  rfl

variable {flights}

/-- A run that goes on stops as it does from there. -/
theorem Stops.cons {stopped : Progress × Ending}
    (inTime : ¬ plan.settings.chainTimeout < progress.elapsed + flight.seen.delay)
    (going : plan.halts flight (progress.chain.totalCost + flight.record.cost) = false)
    (later : Stops plan (progress.through [flight]) flights stopped) :
    Stops plan progress (flight :: flights) stopped := by
  have kept := kept_cons flights inTime going
  have course := course_cons flights going
  have passed : (progress.through [flight]).through
      (plan.kept (progress.through [flight]) flights) =
      progress.through (plan.kept progress (flight :: flights)) := by
    rw [kept, ← Progress.through_cons]
  cases later with
  | cut next rest split =>
    rw [passed]
    refine .cut next rest ?_
    rw [course, kept, split, List.cons_append]
  | aborted last source whole isLast failed abort =>
    rw [passed]
    refine .aborted last source ?_ ?_ failed abort
    · rw [course, kept, whole]
    · rw [kept, List.getLast?_cons, isLast]
      rfl
  | overspent last output whole isLast answered beyond left =>
    rw [passed] at beyond ⊢
    have remaining : flights.length - (plan.kept (progress.through [flight]) flights).length =
        (flight :: flights).length - (plan.kept progress (flight :: flights)).length := by
      rw [kept, List.length_cons, List.length_cons]
      omega
    rw [remaining]
    refine .overspent last output ?_ ?_ answered beyond ?_
    · rw [course, kept, whole]
    · rw [kept, List.getLast?_cons, isLast]
      rfl
    · rw [kept]
      exact Nat.succ_lt_succ left
  | finished whole all goesOn =>
    rw [passed]
    refine .finished ?_ ?_ ?_
    · rw [kept, whole]
    · rw [course, all]
    · intro last source isLast failed
      cases flights with
      | nil =>
        obtain rfl : flight = last := Option.some.inj isLast
        cases policy : plan.settings.policy with
        | «continue» => rfl
        | abort =>
          rw [(halts_of_error failed _).mpr policy] at going
          cases going
      | cons second flights =>
        rw [List.getLast?_cons_cons] at isLast
        exact goesOn last source isLast failed

end Step

/-! ### One hop of a run -/

/-- How a run goes on from a hop as it was seen. -/
def onward (plan : Plan) (rest : List String) (index : Nat) (progress : Progress)
    (flight : Flight) : Dialogue (Progress × Ending) :=
  let passed := progress.through [flight]
  if plan.settings.chainTimeout < progress.elapsed + flight.seen.delay then
    .done ({ progress.launch flight.call with turn := .free }, .timedOut)
  else match flight.seen.result with
    | .error source => match plan.settings.policy with
      | .abort =>
        .done (passed, .failed (.hopAborted flight.call.index flight.call.provider source))
      | .continue => sequential plan rest (index + 1) passed
    | .ok _ =>
      if plan.settings.budget < passed.chain.totalCost && !rest.isEmpty then
        .done (passed.tell
          (.budgetExceeded passed.chain.totalCost plan.settings.budget rest.length), .settled)
      else sequential plan rest (index + 1) passed

/-- A run asks for its first hop and goes on from there. -/
theorem sequential_cons (plan : Plan) (provider : String) (rest : List String) (index : Nat)
    {progress : Progress} (running : progress.chain.status = .running) :
    sequential plan (provider :: rest) index progress =
      let call := plan.call index provider (plan.promptAfter index progress.chain)
      .ask call fun reply => plan.onward rest index progress (plan.flight ⟨call, reply⟩) := by
  conv => lhs; unfold sequential
  apply congrArg (Dialogue.ask _)
  funext reply
  have passed := Progress.pass_eq_through running (plan.flight
    ⟨plan.call index provider (plan.promptAfter index progress.chain), reply⟩)
  unfold flight at passed
  dsimp only at passed ⊢
  rw [passed]
  rfl

/-- A hop stops the run, or it stops where the run stops from there. -/
theorem onward_stops {plan : Plan} {answer : HopCall → StateM World Reply} {rest : List String}
    {index : Nat} {progress : Progress} {world : World} (flight : Flight) {flights : List Flight}
    (length : flights.length = rest.length)
    (later : Stops plan (progress.through [flight]) flights
      ((sequential plan rest (index + 1) (progress.through [flight])).run answer world).1) :
    Stops plan progress (flight :: flights)
      ((plan.onward rest index progress flight).run answer world).1 := by
  have total : (progress.through [flight]).chain.totalCost =
      progress.chain.totalCost + flight.record.cost := rfl
  unfold onward
  by_cases late : plan.settings.chainTimeout < progress.elapsed + flight.seen.delay
  · rw [if_pos late]
    have nothing := kept_of_late flights late
    have stopped : Stops plan progress (flight :: flights) _ :=
      .cut flight (plan.course progress.chain.totalCost (flight :: flights)).tail (by
        rw [nothing]
        rfl)
    rw [nothing, Progress.through_nil] at stopped
    exact stopped
  · rw [if_neg late]
    cases seen : flight.seen.result with
    | error source =>
      cases policy : plan.settings.policy with
      | abort =>
        obtain ⟨course, kept⟩ := kept_of_halts flights late
          ((halts_of_error seen _).mpr policy)
        have stopped : Stops plan progress (flight :: flights) _ :=
          .aborted flight source (by rw [kept, course]) (by rw [kept]; rfl) seen policy
        rw [kept] at stopped
        exact stopped
      | «continue» =>
        refine later.cons late (Bool.eq_false_iff.mpr fun halted => ?_)
        rw [halts_of_error seen, policy] at halted
        cases halted
    | ok output =>
      by_cases beyond : plan.settings.budget < (progress.through [flight]).chain.totalCost
      · obtain ⟨course, kept⟩ := kept_of_halts flights late
          ((halts_of_ok seen _).mpr beyond)
        cases rest with
        | nil =>
          obtain rfl : flights = [] := List.eq_nil_of_length_eq_zero length
          have stopped : Stops plan progress [flight] _ :=
            .finished kept course fun last source isLast failed => by
              obtain rfl : flight = last := Option.some.inj isLast
              rw [seen] at failed
              cases failed
          rw [kept] at stopped
          rw [if_neg (by simp)]
          exact stopped
        | cons provider rest =>
          have stopped : Stops plan progress (flight :: flights) _ :=
            .overspent flight output (by rw [kept, course]) (by rw [kept]; rfl) seen
              (by rw [kept]; exact beyond) (by rw [kept]; simp [length])
          have remaining : (flight :: flights).length - [flight].length =
              (provider :: rest).length := by
            rw [List.length_cons, length, List.length_singleton, Nat.add_sub_cancel]
          rw [kept, remaining] at stopped
          rw [if_pos (by simp [beyond])]
          exact stopped
      · rw [if_neg (by simp [beyond])]
        refine later.cons late (Bool.eq_false_iff.mpr fun halted => ?_)
        exact beyond ((halts_of_ok seen _).mp halted)

/-- **A run one hop after the other stops** where its tour, its rules and its time limit make it
stop. -/
theorem sequential_stops (plan : Plan) (answer : HopCall → StateM World Reply)
    (providers : List String) (index : Nat) (progress : Progress) (world : World)
    (running : progress.chain.status = .running) :
    Stops plan progress ((plan.tour answer providers index progress.chain world).map plan.flight)
      ((sequential plan providers index progress).run answer world).1 := by
  induction providers generalizing index progress world with
  | nil =>
    have nothing : Stops plan progress [] (progress.through (plan.kept progress []), .settled) :=
      .finished rfl rfl fun last source isLast => by cases isLast
    have same : progress.through (plan.kept progress []) = progress := progress.through_nil
    rw [same] at nothing
    exact nothing
  | cons provider rest hypothesis =>
    -- the tour behind the first hop is the tour from where this hop has passed through
    rw [sequential_cons plan provider rest index running]
    refine onward_stops _ ?_ (hypothesis (index + 1) _ _ running)
    rw [List.length_map, length_tour]

/-! ### What is left of a run -/

section Left

variable {plan : Plan} {progress : Progress} {flights : List Flight} {stopped : Progress × Ending}

/-- The chain of a run that has stopped has the records of what was kept. -/
theorem Stops.chain (stops : plan.Stops progress flights stopped) :
    stopped.1.chain = progress.chain.withHops ((plan.kept progress flights).map Flight.record) := by
  cases stops <;> rfl

theorem Stops.timeUp_iff {execution : Execution} (stops : plan.Stops progress flights stopped)
    (concluded : stopped.1.Concluded plan stopped.2 execution) :
    execution.outcome = .error (.chainTimeoutExceeded plan.settings.chainTimeout) ↔
      stopped.2 = .timedOut :=
  concluded.timeUp_iff (by cases stops <;> simp)

/-- The hops that have ended are those that are kept. -/
theorem Stops.arrivals (stops : plan.Stops progress flights stopped) :
    stopped.1.events.filter Event.isHopCompleted =
      progress.events.filter Event.isHopCompleted ++
        (plan.kept progress flights).map Flight.arrival := by
  have passed := progress.through_arrivals (plan.kept progress flights)
  have silent : ∀ event : Event, event.isHopCompleted = false →
      ((progress.through (plan.kept progress flights)).tell event).events.filter
        Event.isHopCompleted = progress.events.filter Event.isHopCompleted ++
          (plan.kept progress flights).map Flight.arrival := by
    intro event other
    unfold Progress.tell
    rw [List.filter_append, passed, List.filter_cons_of_neg (by simp [other])]
    exact List.append_nil _
  cases stops with
  | cut next rest course => exact silent _ rfl
  | aborted last source whole isLast failed abort => exact passed
  | overspent last output whole isLast answered beyond left => exact silent _ rfl
  | finished whole course goesOn => exact passed

theorem Stops.running (stops : plan.Stops progress flights stopped)
    (running : progress.chain.status = .running) : stopped.1.chain.status = .running := by
  rw [stops.chain]
  exact running

/-- The hops that were started: those that are kept, and the next one of the course where the time
limit cuts the run. -/
theorem Stops.started {providers : List String} (stops : plan.Stops progress flights stopped)
    (numbered : Flight.Numbered providers flights) :
    ∃ count, stopped.1.events.filterMap Event.startedIndex? =
        progress.events.filterMap Event.startedIndex? ++ List.range count ∧
      count = (plan.kept progress flights).length + (if stopped.2 = .timedOut then 1 else 0) ∧
      count ≤ (plan.course progress.chain.totalCost flights).length := by
  have numberedKept := numbered.of_prefix (plan.kept_prefix progress flights)
  have shorter := (plan.kept_prefix_course progress flights).length_le
  have passed : (progress.through (plan.kept progress flights)).events.filterMap
      Event.startedIndex? = progress.events.filterMap Event.startedIndex? ++
        List.range (plan.kept progress flights).length := by
    rw [Progress.through_started, numberedKept.map_call_index]
  cases stops with
  | cut next rest course =>
    have place : next.call.index = (plan.kept progress flights).length := by
      refine (numbered.of_prefix (plan.course_prefix progress.chain.totalCost flights) _ _ ?_).1
      rw [course, List.getElem?_append_right (Nat.le_refl _), Nat.sub_self]
      rfl
    refine ⟨(plan.kept progress flights).length + 1, ?_, rfl, ?_⟩
    · unfold Progress.launch Progress.tell
      rw [List.filterMap_append, passed, List.append_assoc, List.range_succ, ← place]
      rfl
    · rw [course, List.length_append, List.length_cons]
      omega
  | aborted last source whole isLast failed abort => exact ⟨_, passed, rfl, shorter⟩
  | overspent last output whole isLast answered beyond left =>
    refine ⟨_, ?_, rfl, shorter⟩
    unfold Progress.tell
    rw [List.filterMap_append, passed]
    exact List.append_nil _
  | finished whole course goesOn => exact ⟨_, passed, rfl, shorter⟩

end Left

end Plan

end PromptRelay
