/-
**All hops at once.**

Every hop's prompt holds the question alone. The hops start in the order of the pattern; one that
needs no time ends before the next one starts. The others end in the order of their times, and their
records arrive in that order; in the end the records are put in the order of the pattern. Neither
the budget nor the policy stops a hop that is under way.

Hops that end at the same time are taken in turns. A turn takes so many of them in the order of the
pattern, the next turn starts from the other end of those that are left, and so on; between two
turns the run looks at its time limit. A run that begins in a full turn has its hops wait for the
next one, so they stand in line from the other end as well.

* `Flight.inTurns`: the order in which hops that end at the same time are taken;
* `Flight.turnAfter`, `Flight.turnAtLimit`: whether the last turn of a run is full;
* `parallel`: all hops of a list of providers.
-/

import PromptRelay.Run.Progress

namespace PromptRelay

/-- A hop under way with what will come of it. -/
structure Flight where
  call : HopCall
  seen : Reply

namespace Flight

/-- The hop ends as it starts. -/
def isInstant (flight : Flight) : Bool :=
  flight.seen.delay = 0

/-- How many hops a turn takes. -/
def turnSize : Nat := 128

/-- Hops that end at the same time, in the order in which they are taken. -/
def inTurns (flights : List Flight) : List Flight :=
  if flights.length ≤ turnSize then flights
  else flights.take turnSize ++ inTurns (flights.drop turnSize).reverse
  termination_by flights.length
  decreasing_by
    simp only [List.length_reverse, List.length_drop, turnSize] at *
    omega

/-- Hops in the order in which they are taken. -/
def inOrderOfEnd (flights : List Flight) : List Flight :=
  let sorted := flights.mergeSort fun first second => first.seen.delay ≤ second.seen.delay
  (sorted.splitBy fun first second => first.seen.delay = second.seen.delay).flatMap inTurns

/-- Hops that are taken before a time limit stops the run: those that end before it, and one turn of
those that end with it. -/
def inTime (limit : Nat) (flights : List Flight) : List Flight :=
  inOrderOfEnd (flights.filter fun flight => flight.seen.delay < limit) ++
    (flights.filter fun flight => flight.seen.delay = limit).take turnSize

/-- The waiting hops as they stand in line for their turns. -/
def inLine (turn : Turn) (flights : List Flight) : List Flight :=
  match turn with
  | .free => flights
  | .full => flights.reverse

/-- How many hops end at a time. -/
def endingAt (time : Nat) (flights : List Flight) : Nat :=
  flights.countP fun flight => flight.seen.delay = time

/-- The last turn of a run whose hops have all ended, in this order: it is full when its hops and
those of the turns just before it fill their turns exactly. -/
def turnAfter (before : Turn) (flights : List Flight) : Turn :=
  match flights.getLast? with
  | none => before
  | some last => if endingAt last.seen.delay flights % turnSize = 0 then .full else .free

/-- The last turn of a run that its time limit stops. The limit takes a place in it, if one is left,
and so fills it when one place is left. -/
def turnAtLimit (limit : Nat) (flights : List Flight) : Turn :=
  if turnSize ≤ endingAt limit flights + 1 then .full else .free

end Flight

namespace Progress

/-- Starts the hops in order, and ends at once those that need no time. -/
def launchAll (progress : Progress) : List Flight → Except ChainError Progress
  | [] => .ok progress
  | flight :: flights =>
    let launched := progress.launch flight.call
    if flight.isInstant then
      match launched.settle flight.call flight.seen with
      | .ok settled => settled.launchAll flights
      | .error error => .error error
    else launched.launchAll flights

/-- Ends hops one after the other, each at its time. -/
def landAll (progress : Progress) : List Flight → Except ChainError Progress
  | [] => .ok progress
  | flight :: flights =>
    match { progress with elapsed := flight.seen.delay }.settle flight.call flight.seen with
    | .ok settled => settled.landAll flights
    | .error error => .error error

/-- What follows when every hop has ended: the records in order, and word of an exceeded budget. -/
def gather (progress : Progress) (plan : Plan) : Progress :=
  let sorted := { progress with chain := progress.chain.sortHops }
  if plan.settings.budget < sorted.chain.totalCost then
    sorted.tell (.budgetExceeded sorted.chain.totalCost plan.settings.budget 0)
  else sorted

/-- The whole flight of hops, cut where the chain's time limit comes first. -/
def fly (progress : Progress) (plan : Plan) (flights : List Flight) : Progress × Ending :=
  match progress.launchAll flights with
  | .error error => (progress, .failed error)
  | .ok launched =>
    let limit := plan.settings.chainTimeout
    let waiting := Flight.inLine progress.turn (flights.filter fun flight => !flight.isInstant)
    let landing := Flight.inTime limit waiting
    match launched.landAll landing with
    | .error error => (launched, .failed error)
    | .ok landed =>
      if landing.length < waiting.length then
        ({ landed with turn := Flight.turnAtLimit limit landing }, .timedOut)
      else
        ({ landed with turn := Flight.turnAfter progress.turn landing }.gather plan, .settled)

end Progress

/-- All hops of a list of providers, from the question alone. -/
def parallel (plan : Plan) (providers : List String) (progress : Progress) :
    Dialogue (Progress × Ending) :=
  let prompt := plan.templates.render .first progress.chain.input []
  let calls := providers.mapIdx fun index provider => plan.call index provider prompt
  .askAll calls fun replies =>
    let flights := calls.zipWith
      (fun call reply => ⟨call, reply.within plan.settings.hopTimeout⟩) replies
    .done (progress.fly plan flights)

end PromptRelay
