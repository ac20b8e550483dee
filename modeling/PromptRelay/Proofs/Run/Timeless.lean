/-
**What does not depend on time.**

A record has a duration, and so has the word that tells of it. Score and answer of a chain do not
look at durations, and replies that are alike leave the same records but for these.

* `HopRecord.untimed`, `Event.untimed`: a record and a word without what depends on time;
* `score_congr`, `synthesize_congr`: score and answer do not depend on durations;
* `Progress.concluded_alike`: settled runs with the same records come to the same result;
* `Plan.Alike`: replies with the same result, on the same side of a hop's time limit;
* `Plan.records_alike`, `Plan.arrivals_alike`: the records that they leave, and what is told of
  them.
-/

import Mathlib.Data.List.Forall2
import PromptRelay.Proofs.Chain.Scoring
import PromptRelay.Proofs.Run.Conclusion
import PromptRelay.Proofs.Run.Hearing
import PromptRelay.Proofs.Run.Passage

namespace PromptRelay

/-! ### What does not depend on time -/

/-- The record without its duration. -/
def HopRecord.untimed (record : HopRecord) : HopRecord :=
  { record with duration := 0 }

/-- The word without a duration or a total cost. -/
def Event.untimed : Event → Event
  | .hopCompleted index provider succeeded cost _ => .hopCompleted index provider succeeded cost 0
  | .chainCompleted _ tier => .chainCompleted 0.0 tier
  | event => event

theorem filter_succeeded_untimed (hops : List HopRecord) :
    (hops.map HopRecord.untimed).filter HopRecord.succeeded =
      (hops.filter HopRecord.succeeded).map HopRecord.untimed :=
  List.filter_map

section Congruence

variable {hops other : List HopRecord}

theorem successes_congr (same : hops.map HopRecord.untimed = other.map HopRecord.untimed) :
    (hops.filter HopRecord.succeeded).map HopRecord.untimed =
      (other.filter HopRecord.succeeded).map HopRecord.untimed := by
  rw [← filter_succeeded_untimed, ← filter_succeeded_untimed, same]

/-- What is read of each record, but not its duration, is the same. -/
theorem map_congr_untimed {Field : Type} (field : HopRecord → Field)
    (timeless : ∀ record : HopRecord, field record.untimed = field record)
    (same : hops.map HopRecord.untimed = other.map HopRecord.untimed) :
    hops.map field = other.map field := by
  have read : ∀ records : List HopRecord,
      records.map field = (records.map HopRecord.untimed).map field := by
    intro records
    rw [List.map_map]
    exact List.map_congr_left fun record _ => (timeless record).symm
  rw [read hops, same, ← read other]

/-- The score does not depend on durations. -/
theorem score_congr (same : hops.map HopRecord.untimed = other.map HopRecord.untimed)
    (catalog : Catalog) : score hops catalog = score other catalog :=
  score_eq_of_providers
    (map_congr_untimed HopRecord.provider (fun _ => rfl) (successes_congr same)) catalog

/-- The answer does not depend on durations. -/
theorem synthesize_congr (same : hops.map HopRecord.untimed = other.map HopRecord.untimed)
    (mode : ExecutionMode) (catalog : Catalog) :
    synthesize hops mode catalog = synthesize other mode catalog := by
  let answered (record : HopRecord) : Option (String × String) :=
    record.content.map (record.provider, ·)
  have contents := map_congr_untimed answered (fun _ => rfl) (successes_congr same)
  have read : ∀ records : List HopRecord,
      answers records = ((records.filter HopRecord.succeeded).map answered).filterMap id := by
    intro records
    rw [List.filterMap_map]
    rfl
  have sameAnswers : answers hops = answers other := by
    rw [read, contents, ← read]
  unfold synthesize
  rw [sameAnswers]

end Congruence

namespace Progress

variable {plan : Plan} {first second : Progress} {execution other : Execution}

/-- **Settled runs with the same records** but for durations come to the same result. -/
theorem concluded_alike (concluded : first.Concluded plan .settled execution)
    (otherConcluded : second.Concluded plan .settled other)
    (running : first.chain.status = .running) (otherRunning : second.chain.status = .running)
    (same : first.chain.hops.map HopRecord.untimed = second.chain.hops.map HopRecord.untimed)
    (sameMetadata : first.chain.metadata = second.chain.metadata)
    (sameResponse : first.chain.finalResponse = second.chain.finalResponse) :
    execution.outcome = other.outcome ∧ execution.chain.status = other.chain.status ∧
      execution.chain.metadata = other.chain.metadata ∧
      execution.chain.finalResponse = other.chain.finalResponse := by
  have noneAlike : first.chain.successes = [] ↔ second.chain.successes = [] := by
    have successes := successes_congr same
    unfold Chain.successes
    rw [← List.map_eq_nil_iff, successes, List.map_eq_nil_iff]
  have count : first.chain.hops.length = second.chain.hops.length := by
    simpa using congrArg List.length same
  have response : first.response plan = second.response plan := synthesize_congr same _ _
  have metadata := score_congr same plan.catalog
  cases concluded with
  | barren noSuccess =>
    cases otherConcluded with
    | barren _ =>
      rw [failWith_chain first running, failWith_chain second otherRunning]
      refine ⟨?_, rfl, sameMetadata, sameResponse⟩
      unfold failWith
      rw [count]
    | fruitful someSuccess => exact absurd (noneAlike.mp noSuccess) someSuccess
  | fruitful someSuccess =>
    cases otherConcluded with
    | barren noSuccess => exact absurd (noneAlike.mpr noSuccess) someSuccess
    | fruitful _ =>
      exact ⟨congrArg Except.ok response, rfl, congrArg some metadata, congrArg some response⟩

end Progress

/-! ### Replies that are alike -/

theorem HopRecord.untimed_ofResult (index : Nat) (provider prompt : String)
    (result : Except HopError HopOutput) (duration : Nat) :
    (HopRecord.ofResult index provider prompt result duration).untimed =
      .ofResult index provider prompt result 0 := by
  cases result <;> rfl

theorem Flight.untimed_arrival (flight : Flight) :
    flight.arrival.untimed = flight.record.untimed.arrival := by
  rw [flight.arrival_eq]
  rfl

/-- The last word depends on the outcome and the score. -/
theorem Execution.ClosedBy.untimed_congr {execution other : Execution} {last otherLast : Event}
    (closed : execution.ClosedBy last) (otherClosed : other.ClosedBy otherLast)
    (outcome : execution.outcome = other.outcome)
    (metadata : execution.chain.metadata = other.chain.metadata) :
    last.untimed = otherLast.untimed := by
  cases closed with
  | completed ok scored =>
    cases otherClosed with
    | completed _ otherScored =>
      rw [scored, otherScored] at metadata
      rw [Option.some.inj metadata]
      rfl
    | failed otherFailed =>
      rw [ok, otherFailed] at outcome
      cases outcome
  | failed failed =>
    cases otherClosed with
    | completed otherOk _ =>
      rw [failed, otherOk] at outcome
      cases outcome
    | failed otherFailed =>
      rw [failed, otherFailed] at outcome
      rw [Except.error.inj outcome]

namespace Plan

/-- Replies to a hop with the same result, on the same side of the hop's time limit. -/
structure Alike (plan : Plan) (exchange other : Exchange) : Prop where
  result : exchange.reply.result = other.reply.result
  side : exchange.reply.delay ≤ plan.settings.hopTimeout ↔
    other.reply.delay ≤ plan.settings.hopTimeout

instance (plan : Plan) (exchange other : Exchange) : Decidable (plan.Alike exchange other) :=
  decidable_of_iff
    (exchange.reply.result = other.reply.result ∧
      (exchange.reply.delay ≤ plan.settings.hopTimeout ↔
        other.reply.delay ≤ plan.settings.hopTimeout))
    ⟨fun ⟨result, side⟩ => ⟨result, side⟩, fun ⟨result, side⟩ => ⟨result, side⟩⟩

variable {plan : Plan}

/-- Replies that are alike are seen with the same result. -/
theorem Alike.seen {exchange other : Exchange} (alike : plan.Alike exchange other) :
    (plan.flight exchange).seen.result = (plan.flight other).seen.result := by
  unfold flight
  by_cases inTime : exchange.reply.delay ≤ plan.settings.hopTimeout
  · rw [Reply.within_eq_self inTime, Reply.within_eq_self (alike.side.mp inTime)]
    exact alike.result
  · have otherLate := mt alike.side.mpr inTime
    unfold Reply.within
    rw [if_pos (Nat.not_le.mp inTime), if_pos (Nat.not_le.mp otherLate)]

/-- Calls with replies that are alike leave the same records but for their durations. -/
theorem Alike.record {exchange other : Exchange} (alike : plan.Alike exchange other)
    (sameCall : exchange.call = other.call) :
    (plan.flight exchange).record.untimed = (plan.flight other).record.untimed := by
  unfold Flight.record Progress.recordOf
  rw [HopRecord.untimed_ofResult, HopRecord.untimed_ofResult, alike.seen]
  unfold flight
  rw [sameCall]

variable {heard other : List Exchange}

/-- The records of runs that are alike are the same but for their durations. -/
theorem records_alike (alike : List.Forall₂ plan.Alike heard other)
    (sameCalls : heard.map Exchange.call = other.map Exchange.call) :
    ((heard.map plan.flight).map Flight.record).map HopRecord.untimed =
      ((other.map plan.flight).map Flight.record).map HopRecord.untimed := by
  induction alike with
  | nil => rfl
  | cons first rest hypothesis =>
    rw [List.map_cons, List.map_cons, List.cons.injEq] at sameCalls
    simp only [List.map_cons, List.cons.injEq]
    exact ⟨first.record sameCalls.1, hypothesis sameCalls.2⟩

theorem departures_congr (plan : Plan)
    (sameCalls : heard.map Exchange.call = other.map Exchange.call) :
    (heard.map plan.flight).map Flight.departure =
      (other.map plan.flight).map Flight.departure := by
  have read : ∀ exchanges : List Exchange, (exchanges.map plan.flight).map Flight.departure =
      (exchanges.map Exchange.call).map fun call => .hopStarted call.index call.provider := by
    intro exchanges
    rw [List.map_map, List.map_map]
    rfl
  rw [read, sameCalls, ← read]

/-- Of replies that are alike the same is told but for durations. -/
theorem arrivals_alike (alike : List.Forall₂ plan.Alike heard other)
    (sameCalls : heard.map Exchange.call = other.map Exchange.call) :
    ((heard.map plan.flight).map Flight.arrival).map Event.untimed =
      ((other.map plan.flight).map Flight.arrival).map Event.untimed := by
  have read : ∀ flights : List Flight, (flights.map Flight.arrival).map Event.untimed =
      ((flights.map Flight.record).map HopRecord.untimed).map HopRecord.arrival := by
    intro flights
    rw [List.map_map, List.map_map, List.map_map]
    exact List.map_congr_left fun flight _ => flight.untimed_arrival
  rw [read, records_alike alike sameCalls, ← read]

end Plan

end PromptRelay
