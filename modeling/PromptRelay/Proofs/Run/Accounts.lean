/-
**The accounts of a run.**

A hop is told to be under way, handed on to a client, told to have ended and recorded. Where the
registry covers the catalog these four views agree: each start stands for one delivery, each end for
one record that the chain has taken, and each record says what came of its delivery. No hop is lost,
none is recorded twice and none is billed for what it did not deliver.

* `Plan.Hands`: a hop whose start is told is handed on to the client of its provider's kind;
* `Plan.Accounts`, `Plan.accounts_flight`: a record says what came of a delivery;
* `Registry.forall₂_deliveries`: what is heard and what is delivered, one for one;
* `Registry.exists_taken`: the life of the chain, with the records that it has taken;
* `Registry.hops_accounted`: the four views of every run.
-/

import PromptRelay.Proofs.Chain.History
import PromptRelay.Proofs.Run.Context

namespace PromptRelay

variable {World : Type}

namespace Plan

/-! ### One hop -/

/-- The hop whose start is told is handed on to the client of its provider's kind, with its prompt
and the time limit of a hop. -/
def Hands (plan : Plan) (prompt : Nat → String) (started : Event) (delivery : Delivery) : Prop :=
  ∃ index provider, started = .hopStarted index provider ∧
    plan.pattern.providers[index]? = some provider ∧
    plan.catalog.find? provider = some delivery.call.provider ∧
    delivery.kind = delivery.call.provider.kind ∧
    delivery.call.prompt = prompt index ∧
    delivery.call.timeout = plan.settings.hopTimeout

/-- The record says what came of the delivery: what the client has answered by the time limit of a
hop, with its price, or why there is no answer, and then it is free. -/
structure Accounts (plan : Plan) (delivery : Delivery) (record : HopRecord) : Prop where
  prompt : record.prompt = delivery.call.prompt
  duration : record.duration = min delivery.reply.delay plan.settings.hopTimeout
  succeeded : record.succeeded = true → ∃ output, delivery.reply.result = .ok output ∧
    delivery.reply.delay ≤ plan.settings.hopTimeout ∧ record.content = some output.content ∧
    record.tokens = output.tokens ∧ record.cost = output.cost ∧ record.failureReason = none ∧
    record.failureKind = none
  failed : record.succeeded = false → record.content = none ∧ record.tokens = 0 ∧
    record.cost = 0.0 ∧ ∃ error, record.failureReason = some error.message ∧
      record.failureKind = some error.kind ∧
      (delivery.reply.delay ≤ plan.settings.hopTimeout ∧ delivery.reply.result = .error error ∨
        plan.settings.hopTimeout < delivery.reply.delay ∧
          error = .timeout plan.settings.hopTimeout)

/-- The record of a hop says what came of its delivery. -/
theorem accounts_flight (plan : Plan) {exchange : Exchange} {delivery : Delivery}
    (prompt : delivery.call.prompt = exchange.call.prompt)
    (reply : delivery.reply = exchange.reply) :
    plan.Accounts delivery (plan.flight exchange).record := by
  have records := plan.records_flight exchange
  refine ⟨?_, ?_, fun succeeded => ?_, fun failed => ?_⟩
  · rw [prompt]
    exact Flight.record_prompt _
  · rw [reply]
    exact records.duration
  · obtain ⟨output, seen⟩ := (Flight.record_succeeded_iff _).mp succeeded
    rw [reply]
    by_cases inTime : exchange.reply.delay ≤ plan.settings.hopTimeout
    · have answered : exchange.reply.result = .ok output := by
        unfold flight at seen
        rw [Reply.within_eq_self inTime] at seen
        exact seen
      rw [records.inTime inTime, answered]
      exact ⟨output, rfl, inTime, rfl, rfl, rfl, rfl, rfl⟩
    · rw [(records.late (Nat.not_le.mp inTime)).1] at succeeded
      cases succeeded
  · rw [reply]
    by_cases inTime : exchange.reply.delay ≤ plan.settings.hopTimeout
    · rw [records.inTime inTime] at failed ⊢
      cases result : exchange.reply.result with
      | ok output =>
        rw [result] at failed
        cases failed
      | error error => exact ⟨rfl, rfl, rfl, error, rfl, rfl, .inl ⟨inTime, rfl⟩⟩
    · have late := Nat.not_le.mp inTime
      obtain ⟨_, kind, reason, content, cost, tokens⟩ := records.late late
      exact ⟨content, tokens, cost, _, reason, kind, .inr ⟨late, rfl⟩⟩

end Plan

/-! ### The life of the chain -/

namespace Chain

/-- A running chain takes records in turn. -/
theorem after_records {chain : Chain} (running : chain.status = .running)
    (records : List HopRecord) :
    chain.after (records.map Operation.record) = chain.withHops records := by
  induction records generalizing chain with
  | nil => exact (withHops_nil chain).symm
  | cons record records hypothesis =>
    show (chain.respond (.record record)).2.after (records.map Operation.record) = _
    have stillRunning : (chain.withHops [record]).status = .running := running
    rw [respond_record, if_pos running]
    show (chain.withHops [record]).after (records.map Operation.record) = _
    rw [hypothesis stillRunning, ← withHops_append]
    rfl

theorem after_append (chain : Chain) (first second : List Operation) :
    chain.after (first ++ second) = (chain.after first).after second :=
  List.foldl_append

end Chain

namespace Progress.Concluded

variable {progress : Progress} {plan : Plan} {ending : Ending} {execution : Execution}

/-- The chain of a run that has stopped is completed or made to fail. -/
theorem exists_after (concluded : progress.Concluded plan ending execution)
    (running : progress.chain.status = .running) :
    ∃ last, (∀ record, last ≠ .record record) ∧
      execution.chain = progress.chain.after [last] := by
  have forced : ∀ now, progress.chain.forceFail now = progress.chain.after [.forceFail now] :=
    fun now => (Chain.respond_forceFail_snd progress.chain now).symm
  cases concluded with
  | failed error => exact ⟨_, fun _ => Operation.noConfusion, forced _⟩
  | timedOut => exact ⟨_, fun _ => Operation.noConfusion, forced _⟩
  | barren noSuccess => exact ⟨_, fun _ => Operation.noConfusion, forced _⟩
  | fruitful someSuccess =>
    refine ⟨.complete progress.now (score progress.chain.hops plan.catalog)
      (progress.response plan), fun _ => Operation.noConfusion, ?_⟩
    show _ = (progress.chain.respond _).2
    rw [Chain.respond_complete, if_pos running]
    rfl

/-- A chain takes no record after its run has stopped, whether it was sorted by then or not. -/
theorem exists_closing (concluded : progress.Concluded plan ending execution)
    (running : progress.chain.status = .running) {chain : Chain}
    {operations sorting : List Operation}
    (stands : progress.chain = chain.after (operations ++ sorting))
    (sorts : ∀ operation ∈ sorting, operation = .sortHops) :
    ∃ closing, execution.chain = chain.after (operations ++ closing) ∧
      ∀ record, .record record ∉ closing := by
  obtain ⟨last, notRecord, ends⟩ := concluded.exists_after running
  refine ⟨sorting ++ [last], ?_, fun record member => ?_⟩
  · rw [ends, stands, ← Chain.after_append, List.append_assoc]
  · rcases List.mem_append.mp member with sorted | isLast
    · cases sorts _ sorted
    · exact notRecord record (List.mem_singleton.mp isLast).symm

end Progress.Concluded

namespace Registry

variable (registry : Registry (StateM World)) {plan : Plan} {chain : Chain}

/-- **The life of a run's chain**: it is started, takes records in the order in which their hops are
told to have ended, and takes no more. Its records are these and its total cost is theirs. -/
theorem exists_taken (sound : plan.fault? = none) (fresh : chain.IsFresh) (turn : Turn)
    (world : World) :
    let execution := registry.perform plan chain turn world
    ∃ taken closing, execution.chain =
        chain.after ([.start] ++ taken.map Operation.record ++ closing) ∧
      (∀ record, .record record ∉ closing) ∧
      execution.events.filter Event.isHopCompleted = taken.map HopRecord.arrival ∧
      execution.chain.hops.Perm taken ∧
      execution.chain.totalCost = HopRecord.costFrom 0.0 taken := by
  have opened : (plan.opened chain turn).chain.status = .running := rfl
  have started : chain.after [.start] = (plan.opened chain turn).chain := by
    show (chain.respond .start).2 = _
    rw [Chain.respond_start, if_pos fresh.status]
    rfl
  have took : ∀ taken : List HopRecord, (plan.opened chain turn).chain.withHops taken =
      chain.after ([.start] ++ taken.map Operation.record) := by
    intro taken
    rw [Chain.after_append, started, Chain.after_records opened]
  cases mode : plan.settings.mode with
  | sequential =>
    obtain ⟨stopped, run⟩ := registry.sequentialRun mode sound fresh turn world
    have stands := run.stops.chain.trans (took _)
    rw [← run.hops, ← List.append_nil ([Operation.start] ++ _)] at stands
    obtain ⟨closing, ends, noRecord⟩ := run.concluded.exists_closing run.running stands
      fun _ member => by cases member
    exact ⟨_, closing, ends, noRecord, run.completed, List.Perm.refl _, run.totalCost⟩
  | parallel =>
    obtain ⟨stopped, run⟩ := registry.parallelRun mode sound fresh turn world
    let taken := (Flight.arrivals plan.settings.chainTimeout turn
      (registry.fan plan chain.input world)).map Flight.record
    have arrived : ((plan.opened chain turn).chain.withHops taken).status = .running := opened
    -- a run of all hops at once has sorted its records if it has settled
    obtain ⟨sorting, stands, sorts⟩ : ∃ sorting, stopped.1.chain =
        chain.after ([.start] ++ taken.map Operation.record ++ sorting) ∧
        ∀ operation ∈ sorting, operation = .sortHops := by
      rcases run.stoppedChain with ⟨_, stays⟩ | ⟨_, sorted⟩
      · refine ⟨[], ?_, fun _ member => by cases member⟩
        rw [List.append_nil, ← took]
        exact stays
      · refine ⟨[.sortHops], ?_, fun _ member => List.mem_singleton.mp member⟩
        rw [Chain.after_append, ← took, sorted]
        exact (Chain.sortHops_of_running arrived).symm
    obtain ⟨closing, ends, noRecord⟩ := run.concluded.exists_closing run.running stands sorts
    have arrives := (Flight.arrivals_perm run.positive turn run.numbered).map Flight.record
    rw [← run.hops] at arrives
    exact ⟨taken, closing, ends, noRecord, run.completed, arrives.symm, run.totalCost⟩

/-! ### Deliveries -/

theorem forall₂_delivered {catalog : Catalog} {related : Exchange → Delivery → Prop}
    {heard : List Exchange} (handed : ∀ exchange ∈ heard, ∃ delivery,
      registry.delivered? catalog exchange = some delivery ∧ related exchange delivery) :
    List.Forall₂ related heard (heard.filterMap (registry.delivered? catalog)) := by
  induction heard with
  | nil => exact .nil
  | cons exchange heard hypothesis =>
    obtain ⟨delivery, delivered, relates⟩ := handed exchange List.mem_cons_self
    rw [List.filterMap_cons_some delivered]
    exact .cons relates (hypothesis fun other member =>
      handed other (List.mem_cons_of_mem exchange member))

/-- **What is heard is delivered**, one for one, where the registry covers the catalog. -/
theorem forall₂_deliveries (sound : plan.fault? = none)
    (covers : registry.uncovered? plan.catalog = none) (fresh : chain.IsFresh) (turn : Turn)
    (world : World) :
    let heard := registry.heard plan chain turn world
    List.Forall₂ (fun exchange delivery =>
        plan.Hands (plan.promptAt chain.input heard) (plan.flight exchange).departure delivery ∧
          delivery.call.prompt = exchange.call.prompt ∧ delivery.reply = exchange.reply)
      heard (registry.deliveries plan chain turn world) := by
  have handed : ∀ exchange ∈ registry.heard plan chain turn world, ∃ delivery,
      registry.delivered? plan.catalog exchange = some delivery ∧
      plan.Hands (plan.promptAt chain.input (registry.heard plan chain turn world))
        (plan.flight exchange).departure delivery ∧
      delivery.call.prompt = exchange.call.prompt ∧ delivery.reply = exchange.reply := by
    intro exchange member
    obtain ⟨place, asked⟩ := List.mem_iff_getElem?.mp member
    obtain ⟨index, named⟩ := registry.numbered_heard sound fresh.status turn world place _
      (plan.getElem?_flight asked)
    have call := registry.heard_call sound fresh turn world asked
    obtain ⟨provider, found, delivered⟩ :=
      delivered?_of_covers sound covers (List.mem_of_getElem? named)
    refine ⟨_, delivered, ⟨place, exchange.call.provider, ?_, named, found, rfl, ?_, ?_⟩, rfl, rfl⟩
    · rw [← index]
      rfl
    · exact congrArg HopCall.prompt call
    · exact congrArg HopCall.timeout call
  rw [deliveries_eq]
  exact registry.forall₂_delivered handed

/-- The hops that are told to start are handed on, in this order. -/
theorem forall₂_hands (sound : plan.fault? = none) (covers : registry.uncovered? plan.catalog = none)
    (fresh : chain.IsFresh) (turn : Turn) (world : World) :
    List.Forall₂ (plan.Hands (plan.promptAt chain.input (registry.heard plan chain turn world)))
      ((registry.perform plan chain turn world).events.filter Event.isHopStarted)
      (registry.deliveries plan chain turn world) := by
  have delivers := registry.forall₂_deliveries sound covers fresh turn world
  rw [registry.departures sound fresh.status, List.map_map, List.forall₂_map_left_iff]
  exact delivers.imp fun _ _ handed => handed.1

/-- Each record says what came of the delivery at the place of its index. -/
theorem exists_delivery (sound : plan.fault? = none)
    (covers : registry.uncovered? plan.catalog = none) (fresh : chain.IsFresh) (turn : Turn)
    (world : World) {record : HopRecord}
    (member : record ∈ (registry.perform plan chain turn world).chain.hops) :
    plan.pattern.providers[record.index]? = some record.provider ∧
      ∃ delivery, (registry.deliveries plan chain turn world)[record.index]? = some delivery ∧
        plan.Accounts delivery record := by
  obtain ⟨exchange, asked, rfl⟩ := registry.exists_heard sound fresh turn world member
  have numbered := registry.numbered_heard sound fresh.status turn world _ _
    (plan.getElem?_flight asked)
  have delivers := registry.forall₂_deliveries sound covers fresh turn world
  obtain ⟨inside, same⟩ := List.getElem?_eq_some_iff.mp asked
  have delivered := Nat.lt_of_lt_of_eq inside delivers.length_eq
  obtain ⟨_, prompt, reply⟩ := delivers.get inside delivered
  rw [show (registry.heard plan chain turn world).get ⟨_, inside⟩ = exchange from same]
    at prompt reply
  refine ⟨?_, _, List.getElem?_eq_getElem delivered, plan.accounts_flight prompt reply⟩
  rw [Flight.record_provider]
  exact numbered.2

/-- **No hop is lost, recorded twice or billed for nothing.** Where the registry covers the catalog,
the hops that are told to start are handed on in this order, each to the client of its provider's
kind, with its prompt and its time limit. The hops that are told to end are those whose records the
chain has taken, in this order; its records are these in the order of the pattern, its total cost is
theirs. Each record says what came of its delivery, and every delivery has a record unless the
chain's time limit stops the run. -/
theorem hops_accounted (registry : Registry (StateM World)) (plan : Plan) (chain : Chain)
    (turn : Turn) (world : World) (sound : plan.fault? = none)
    (covers : registry.uncovered? plan.catalog = none) (reachable : chain.Reachable)
    (pending : chain.status = .pending) :
    let execution := registry.perform plan chain turn world
    let deliveries := registry.deliveries plan chain turn world
    let prompt := plan.promptAt chain.input (registry.heard plan chain turn world)
    let hops := execution.chain.hops
    List.Forall₂ (plan.Hands prompt) (execution.events.filter Event.isHopStarted) deliveries ∧
    (∃ taken closing, execution.chain =
        chain.after ([.start] ++ taken.map Operation.record ++ closing) ∧
      (∀ record, .record record ∉ closing) ∧
      execution.events.filter Event.isHopCompleted = taken.map HopRecord.arrival ∧
      hops.Perm taken ∧ execution.chain.totalCost = HopRecord.costFrom 0.0 taken) ∧
    hops.Pairwise (fun first second => first.index < second.index) ∧
    (∀ record ∈ hops, record.index < plan.pattern.hopCount ∧
      plan.pattern.providers[record.index]? = some record.provider ∧
      ∃ delivery, deliveries[record.index]? = some delivery ∧ plan.Accounts delivery record) ∧
    hops.length ≤ deliveries.length ∧
    (execution.outcome ≠ .error (.chainTimeoutExceeded plan.settings.chainTimeout) →
      hops.length = deliveries.length) := by
  have fresh := reachable.isFresh pending
  have delivers := registry.forall₂_deliveries sound covers fresh turn world
  have recorded := registry.length_hops sound fresh turn world
  dsimp only at recorded
  rw [delivers.length_eq] at recorded
  refine ⟨?_, registry.exists_taken sound fresh turn world,
    registry.increasing_hops sound fresh turn world, fun record member => ?_, recorded⟩
  · rw [registry.departures sound pending, List.map_map, List.forall₂_map_left_iff]
    exact delivers.imp fun _ _ handed => handed.1
  · obtain ⟨named, delivery⟩ :=
      registry.exists_delivery sound covers fresh turn world member
    exact ⟨(List.getElem?_eq_some_iff.mp named).1, named, delivery⟩

/-- Of three hops the second fails; all of them are delivered and recorded, and the second is
free. -/
theorem hops_accounted_solo :
    let hops := (rehearsed.perform (.solo 3 {}) .solo .free .faltering).chain.hops
    hops.length = 3 ∧ (rehearsed.deliveries (.solo 3 {}) .solo .free .faltering).length = 3 ∧
      ∀ record ∈ hops, record.index = 1 → record.cost = 0.0 := by
  intro hops
  obtain ⟨_, _, _, accounts, _, whole⟩ := hops_accounted rehearsed (.solo 3 {}) .solo .free
    .faltering (by decide +kernel) rfl Chain.solo_reachable rfl
  have length : hops.length = 3 := by
    decide +kernel
  have lost : ∀ record ∈ hops, record.index = 1 → record.succeeded = false := by
    decide +kernel
  refine ⟨length, ?_, fun record member second => ?_⟩
  · rw [← whole (by decide +kernel)]
    exact length
  · obtain ⟨_, _, delivery, _, account⟩ := accounts record member
    exact (account.failed (lost record member second)).2.2.1

end Registry

end PromptRelay
