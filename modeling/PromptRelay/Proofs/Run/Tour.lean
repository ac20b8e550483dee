/-
**The way of a run one hop after the other.**

If nothing stopped it the run would make a tour of all providers, each asked with the answers before
it. Of this tour the run's own rules leave a course: an abort or an exceeded budget ends it. Of the
course the chain's time limit keeps the hops that end in time.

* `Plan.tour`, `Plan.course`, `Plan.kept`: the tour, the course and the hops that are kept;
* `Plan.not_halts_of_lt`, `Plan.halts_of_lt`: the course goes on to the first hop that ends it;
* `Plan.numbered_tour`: the hops of a tour bear the indices of the pattern.
-/

import PromptRelay.Proofs.Run.Hearing
import PromptRelay.Proofs.Run.Passage

namespace PromptRelay

variable {World : Type}

namespace Plan

/-! ### Tour and course -/

/-- The hops of the remaining providers where nothing stops the run. The first of them has the given
index, and each is asked for with the answers before it. -/
def tour (plan : Plan) (answer : HopCall → StateM World Reply) :
    List String → Nat → Chain → World → List Exchange
  | [], _, _, _ => []
  | provider :: rest, index, chain, world =>
    let call := plan.call index provider (plan.promptAfter index chain)
    let answered := answer call world
    let exchange : Exchange := ⟨call, answered.1⟩
    exchange ::
      plan.tour answer rest (index + 1) (chain.withHops [(plan.flight exchange).record]) answered.2

/-- The rules let the run go no further than this hop: its failure aborts the run, or its success
has brought the total cost over the budget. -/
def halts (plan : Plan) (flight : Flight) (total : Float) : Bool :=
  match flight.seen.result with
  | .error _ => plan.settings.policy = .abort
  | .ok _ => plan.settings.budget < total

theorem halts_of_error {plan : Plan} {flight : Flight} {source : HopError}
    (failed : flight.seen.result = .error source) (total : Float) :
    plan.halts flight total = true ↔ plan.settings.policy = .abort := by
  unfold halts
  rw [failed]
  exact decide_eq_true_iff

theorem halts_of_ok {plan : Plan} {flight : Flight} {output : HopOutput}
    (answered : flight.seen.result = .ok output) (total : Float) :
    plan.halts flight total = true ↔ plan.settings.budget < total := by
  unfold halts
  rw [answered]
  exact decide_eq_true_iff

/-- The hops up to the first that ends the run, from a total cost on. -/
def course (plan : Plan) : Float → List Flight → List Flight
  | _, [] => []
  | total, flight :: flights =>
    let after := total + flight.record.cost
    flight :: if plan.halts flight after then [] else plan.course after flights

section Course

variable {plan : Plan} {total : Float} {flight : Flight}

/-- A hop that ends the run is the last of its course. -/
theorem course_of_halts (halted : plan.halts flight (total + flight.record.cost) = true)
    (flights : List Flight) : plan.course total (flight :: flights) = [flight] := by
  show (flight :: if plan.halts flight (total + flight.record.cost) then [] else
    plan.course (total + flight.record.cost) flights) = [flight]
  rw [if_pos halted]

/-- Behind a hop that lets the run go on stands the course from there. -/
theorem course_of_going (going : plan.halts flight (total + flight.record.cost) = false)
    (flights : List Flight) : plan.course total (flight :: flights) =
      flight :: plan.course (total + flight.record.cost) flights := by
  show (flight :: if plan.halts flight (total + flight.record.cost) then [] else
    plan.course (total + flight.record.cost) flights) = _
  rw [if_neg (Bool.eq_false_iff.mp going)]

end Course

end Plan

namespace Flight

/-- The hops up to the first that ends after the time limit, from a time on. -/
def timely (limit : Nat) : Nat → List Flight → List Flight
  | _, [] => []
  | elapsed, flight :: flights =>
    let after := elapsed + flight.seen.delay
    if limit < after then [] else flight :: timely limit after flights

section Timely

variable {limit elapsed : Nat} {flight : Flight}

theorem timely_of_late (late : limit < elapsed + flight.seen.delay) (flights : List Flight) :
    timely limit elapsed (flight :: flights) = [] :=
  if_pos late

theorem timely_of_inTime (inTime : ¬ limit < elapsed + flight.seen.delay)
    (flights : List Flight) : timely limit elapsed (flight :: flights) =
      flight :: timely limit (elapsed + flight.seen.delay) flights :=
  if_neg inTime

end Timely

end Flight

namespace Plan

/-- The hops that a run from here records. -/
def kept (plan : Plan) (progress : Progress) (flights : List Flight) : List Flight :=
  Flight.timely plan.settings.chainTimeout progress.elapsed
    (plan.course progress.chain.totalCost flights)

theorem length_tour (plan : Plan) (answer : HopCall → StateM World Reply)
    (providers : List String) (index : Nat) (chain : Chain) (world : World) :
    (plan.tour answer providers index chain world).length = providers.length := by
  induction providers generalizing index chain world with
  | nil => rfl
  | cons provider rest hypothesis => exact congrArg (· + 1) (hypothesis _ _ _)

/-- The hops of a tour bear the indices from the first one on, and each is asked for with what the
hops before it have left on the chain. -/
theorem tour_call (plan : Plan) (answer : HopCall → StateM World Reply)
    (providers : List String) (index : Nat) (chain : Chain) (world : World) {place : Nat}
    {exchange : Exchange}
    (found : (plan.tour answer providers index chain world)[place]? = some exchange) :
    let before := ((plan.tour answer providers index chain world).take place).map plan.flight
    providers[place]? = some exchange.call.provider ∧
      exchange.call = plan.call (index + place) exchange.call.provider
        (plan.promptAfter (index + place) (chain.withHops (before.map Flight.record))) := by
  induction providers generalizing index chain world place with
  | nil => cases found
  | cons provider rest hypothesis =>
    cases place with
    | zero =>
      cases found
      refine ⟨rfl, ?_⟩
      dsimp only
      rw [List.take_zero, List.map_nil, List.map_nil, Chain.withHops_nil]
      rfl
    | succ place =>
      obtain ⟨named, call⟩ := hypothesis _ _ _ found
      refine ⟨named, ?_⟩
      rw [← Chain.withHops_append, Nat.add_assoc, Nat.add_comm 1] at call
      exact call

/-- The hops of a tour of all providers bear the indices of the pattern. -/
theorem numbered_tour (plan : Plan) (answer : HopCall → StateM World Reply)
    (providers : List String) (chain : Chain) (world : World) :
    Flight.Numbered providers ((plan.tour answer providers 0 chain world).map plan.flight) := by
  intro place flight found
  rw [List.getElem?_map] at found
  obtain ⟨exchange, asked, rfl⟩ := Option.map_eq_some_iff.mp found
  obtain ⟨named, call⟩ := plan.tour_call answer providers 0 chain world asked
  exact ⟨(congrArg HopCall.index call).trans (Nat.zero_add place), named⟩

/-- A tour depends on nothing of the chain but its input and its records. -/
theorem tour_congr (plan : Plan) (answer : HopCall → StateM World Reply)
    (providers : List String) (index : Nat) {chain other : Chain} (world : World)
    (sameInput : chain.input = other.input) (sameHops : chain.hops = other.hops) :
    plan.tour answer providers index chain world =
      plan.tour answer providers index other world := by
  induction providers generalizing index chain other world with
  | nil => rfl
  | cons provider rest hypothesis =>
    have samePrompt : plan.promptAfter index chain = plan.promptAfter index other := by
      unfold promptAfter Chain.contents Chain.successes
      rw [sameInput, sameHops]
    unfold tour
    simp only [samePrompt]
    refine congrArg (List.cons _) (hypothesis _ _ ?_ ?_)
    · exact sameInput
    · rw [Chain.withHops_hops, Chain.withHops_hops, sameHops]

theorem course_prefix (plan : Plan) (total : Float) (flights : List Flight) :
    plan.course total flights <+: flights := by
  induction flights generalizing total with
  | nil => exact List.prefix_refl []
  | cons flight flights hypothesis =>
    cases halted : plan.halts flight (total + flight.record.cost) with
    | true =>
      rw [course_of_halts halted]
      exact ⟨flights, rfl⟩
    | false =>
      rw [course_of_going halted]
      exact (List.prefix_cons_inj flight).mpr (hypothesis _)

theorem timely_prefix (limit elapsed : Nat) (flights : List Flight) :
    Flight.timely limit elapsed flights <+: flights := by
  induction flights generalizing elapsed with
  | nil => exact List.prefix_refl []
  | cons flight flights hypothesis =>
    by_cases late : limit < elapsed + flight.seen.delay
    · rw [Flight.timely_of_late late]
      exact List.nil_prefix
    · rw [Flight.timely_of_inTime late]
      exact (List.prefix_cons_inj flight).mpr (hypothesis _)

theorem kept_prefix_course (plan : Plan) (progress : Progress) (flights : List Flight) :
    plan.kept progress flights <+: plan.course progress.chain.totalCost flights :=
  timely_prefix _ _ _

theorem kept_prefix (plan : Plan) (progress : Progress) (flights : List Flight) :
    plan.kept progress flights <+: flights :=
  (plan.kept_prefix_course progress flights).trans (plan.course_prefix _ _)

/-! ### The end of a course -/

/-- A hop in the course that is not the last one lets the run go on. -/
theorem not_halts_of_lt (plan : Plan) (total : Float) (flights : List Flight) {place : Nat}
    {flight : Flight} (found : (plan.course total flights)[place]? = some flight)
    (notLast : place + 1 < (plan.course total flights).length) :
    plan.halts flight
      (HopRecord.costFrom total ((flights.take (place + 1)).map Flight.record)) = false := by
  induction flights generalizing total place with
  | nil => cases found
  | cons first flights hypothesis =>
    cases halted : plan.halts first (total + first.record.cost) with
    | true =>
      rw [course_of_halts halted, List.length_singleton] at notLast
      omega
    | false =>
      rw [course_of_going halted] at found notLast
      cases place with
      | zero =>
        cases found
        exact halted
      | succ place =>
        rw [List.getElem?_cons_succ] at found
        exact hypothesis _ found (Nat.lt_of_succ_lt_succ notLast)

/-- The hop that ends a course before the tour does so by the rules. -/
theorem halts_of_lt (plan : Plan) (total : Float) (flights : List Flight)
    (shorter : (plan.course total flights).length < flights.length) :
    ∃ last, (plan.course total flights).getLast? = some last ∧
      plan.halts last
        (HopRecord.costFrom total ((plan.course total flights).map Flight.record)) = true := by
  induction flights generalizing total with
  | nil => cases shorter
  | cons first flights hypothesis =>
    cases halted : plan.halts first (total + first.record.cost) with
    | true =>
      rw [course_of_halts halted]
      exact ⟨first, rfl, halted⟩
    | false =>
      rw [course_of_going halted] at shorter ⊢
      obtain ⟨last, isLast, ends⟩ := hypothesis _ (Nat.lt_of_succ_lt_succ shorter)
      refine ⟨last, ?_, ends⟩
      rw [List.getLast?_cons, isLast]
      rfl

end Plan

end PromptRelay
