/-
**What a hop is asked.**

One hop after the other, a prompt holds the question and the answers of the hops before it that
have succeeded, in their order. A hop that fails, or is waited for in vain, leaves nothing for those
behind it and still takes its place in the pattern, from which the template is chosen. With all hops
at once every prompt holds the question alone.

* `Plan.answer?`: what a hop leaves for those behind it;
* `Plan.positionAt`, `Plan.promptAt`: the position and the prompt that belong to a place;
* `Registry.heard_call`: each hop is asked for with the prompt of its place;
* `Registry.context_propagated`: so it is handed on to the clients, and recorded.
-/

import PromptRelay.Proofs.Run.Delivery
import PromptRelay.Proofs.Run.Records

namespace PromptRelay

variable {World : Type}

namespace Plan

/-! ### The prompt of a place -/

/-- What a hop leaves for those behind it: its answer, if this came by the hop's time limit. -/
def answer? (plan : Plan) (exchange : Exchange) : Option String :=
  if exchange.reply.delay ≤ plan.settings.hopTimeout then
    match exchange.reply.result with
    | .ok output => some output.content
    | .error _ => none
  else none

/-- The position of the hop at a place of the pattern, whatever came of the hops before it. -/
def positionAt (plan : Plan) (place : Nat) : HopPosition :=
  if place = 0 then .first
  else if place = plan.pattern.hopCount - 1 then .last
  else .middle

/-- The prompt of the hop at a place, made of the question and of what was heard before it. -/
def promptAt (plan : Plan) (question : String) (heard : List Exchange) (place : Nat) : String :=
  match plan.settings.mode with
  | .sequential =>
    plan.templates.render (plan.positionAt place) question
      ((heard.take place).filterMap plan.answer?)
  | .parallel => plan.templates.render .first question []

theorem positionAt_eq_ofIndex (plan : Plan) {place : Nat} (inside : place < plan.pattern.hopCount) :
    plan.positionAt place = .ofIndex place plan.pattern.hopCount := by
  unfold positionAt HopPosition.ofIndex
  by_cases first : place = 0
  · rw [if_pos first, if_pos first]
  · rw [if_neg first, if_neg first]
    by_cases last : place = plan.pattern.hopCount - 1
    · rw [if_pos last, if_pos (by omega)]
    · rw [if_neg last, if_neg (by omega)]

/-- A place of the pattern has a successor among the numbers of any width that can count its
hops. -/
theorem uaddOverflow_eq_false (plan : Plan) {place width : Nat}
    (inside : place < plan.pattern.hopCount) (fits : plan.pattern.hopCount < 2 ^ width) :
    (BitVec.ofNat width place).uaddOverflow (BitVec.ofNat width 1) = false := by
  have small : place % 2 ^ width = place := Nat.mod_eq_of_lt (by omega)
  have one : 1 % 2 ^ width = 1 := Nat.mod_eq_of_lt (by omega)
  unfold BitVec.uaddOverflow
  rw [BitVec.toNat_ofNat, BitVec.toNat_ofNat, small, one]
  exact decide_eq_false (by omega)

/-- A record has the answer of its hop, if the hop has succeeded. -/
theorem content_of_succeeded (plan : Plan) (exchange : Exchange) :
    (if (plan.flight exchange).record.succeeded = true then (plan.flight exchange).record.content
      else none) = plan.answer? exchange := by
  have records := plan.records_flight exchange
  unfold answer?
  by_cases inTime : exchange.reply.delay ≤ plan.settings.hopTimeout
  · rw [if_pos inTime, records.inTime inTime]
    cases exchange.reply.result with
    | error source => rfl
    | ok output => rfl
  · obtain ⟨failed, _⟩ := records.late (Nat.not_le.mp inTime)
    rw [if_neg inTime, failed]
    rfl

/-- The successful records of hops have the answers that these leave. -/
theorem contents_of_records (plan : Plan) (heard : List Exchange) :
    ((((heard.map plan.flight).map Flight.record).filter HopRecord.succeeded).filterMap
      HopRecord.content) = heard.filterMap plan.answer? := by
  rw [List.filterMap_filter, List.filterMap_map, List.filterMap_map]
  exact List.filterMap_congr fun exchange _ => plan.content_of_succeeded exchange

/-- The prompt that follows on what was heard, when its records are on the chain. -/
theorem promptAfter_withHops (plan : Plan) {chain : Chain} (fresh : chain.IsFresh) {place : Nat}
    (inside : place < plan.pattern.hopCount) (heard : List Exchange) :
    plan.promptAfter place (chain.withHops ((heard.map plan.flight).map Flight.record)) =
      plan.templates.render (plan.positionAt place) chain.input
        (heard.filterMap plan.answer?) := by
  unfold promptAfter Chain.contents Chain.successes
  rw [Chain.withHops_hops, fresh.hops, List.nil_append, plan.contents_of_records,
    plan.positionAt_eq_ofIndex inside]
  rfl

end Plan

namespace Registry

variable (registry : Registry (StateM World)) {plan : Plan} {chain : Chain}

/-! ### Calls and their prompts -/

/-- **Each hop is asked for with the prompt of its place.** -/
theorem heard_call (sound : plan.fault? = none) (fresh : chain.IsFresh) (turn : Turn)
    (world : World) {place : Nat} {exchange : Exchange}
    (asked : (registry.heard plan chain turn world)[place]? = some exchange) :
    exchange.call = plan.call place exchange.call.provider
      (plan.promptAt chain.input (registry.heard plan chain turn world) place) := by
  unfold Plan.promptAt
  cases mode : plan.settings.mode with
  | sequential =>
    obtain ⟨⟨rest, split⟩, _⟩ := registry.heard_sequential mode sound fresh.status turn world
    have inside : place < (registry.heard plan chain turn world).length :=
      (List.getElem?_eq_some_iff.mp asked).1
    have inTour : (registry.tour plan chain world)[place]? = some exchange := by
      rw [← split, List.getElem?_append_left inside]
      exact asked
    have before : (registry.tour plan chain world).take place =
        (registry.heard plan chain turn world).take place := by
      rw [← split, List.take_append_of_le_length (Nat.le_of_lt inside)]
    obtain ⟨named, call⟩ := plan.tour_call _ _ 0 chain world inTour
    have inPattern : place < plan.pattern.hopCount := (List.getElem?_eq_some_iff.mp named).1
    have prompt := plan.promptAfter_withHops fresh inPattern
      ((registry.tour plan chain world).take place)
    rw [Nat.zero_add] at call
    rw [← before]
    exact call.trans (congrArg (plan.call place _) prompt)
  | parallel =>
    have call : (plan.calls chain.input)[place]? = some exchange.call := by
      rw [← registry.map_call_asked plan chain.input world,
        ← heard_parallel mode sound fresh.status turn world, List.getElem?_map, asked]
      rfl
    unfold Plan.calls at call
    rw [List.getElem?_mapIdx] at call
    obtain ⟨provider, _, same⟩ := Option.map_eq_some_iff.mp call
    rw [← same]
    rfl

/-- One hop after the other, the answers of the hops before a place are those of the successful
records before it. -/
theorem answers_of_records (inTurn : plan.settings.mode = .sequential) (sound : plan.fault? = none)
    (fresh : chain.IsFresh) (turn : Turn) (world : World) {place : Nat}
    (asked : place < (registry.heard plan chain turn world).length) :
    ((registry.heard plan chain turn world).take place).filterMap plan.answer? =
      (((registry.perform plan chain turn world).chain.hops.take place).filter
        HopRecord.succeeded).filterMap HopRecord.content := by
  obtain ⟨recorded, count⟩ := registry.hops_sequential_eq inTurn sound fresh turn world
  have within : place ≤ (registry.perform plan chain turn world).chain.hops.length := by omega
  rw [recorded, ← List.map_take, List.take_take, Nat.min_eq_left within, ← List.map_take,
    plan.contents_of_records]

/-- **A prompt holds what came before it.** One hop after the other, each hop is asked with the
template of its place, the question and the answers of the hops before it that have succeeded, which
are those of their records. With all hops at once each is asked with the first template and the
question alone. The clients are handed these prompts and the records keep them. The place of a hop
has a successor in all numbers that can count the hops. -/
theorem context_propagated (registry : Registry (StateM World)) (plan : Plan) (chain : Chain)
    (turn : Turn) (world : World) (sound : plan.fault? = none) (reachable : chain.Reachable)
    (pending : chain.status = .pending) :
    let hops := (registry.perform plan chain turn world).chain.hops
    let heard := registry.heard plan chain turn world
    let prompt := plan.promptAt chain.input heard
    (∀ place exchange, heard[place]? = some exchange → exchange.call.index = place ∧
      plan.pattern.providers[place]? = some exchange.call.provider ∧
      exchange.call.prompt = prompt place) ∧
    registry.deliveries plan chain turn world =
      heard.filterMap (registry.delivered? plan.catalog) ∧
    (∀ place exchange delivery, heard[place]? = some exchange →
      registry.delivered? plan.catalog exchange = some delivery →
      delivery.call.prompt = prompt place) ∧
    (∀ record ∈ hops, record.prompt = prompt record.index) ∧
    (plan.settings.mode = .sequential →
      hops.map HopRecord.index = List.range hops.length ∧
      ∀ place < heard.length, (heard.take place).filterMap plan.answer? =
        ((hops.take place).filter HopRecord.succeeded).filterMap HopRecord.content) ∧
    (∀ place < plan.pattern.hopCount, ∀ width, plan.pattern.hopCount < 2 ^ width →
      (BitVec.ofNat width place).uaddOverflow (BitVec.ofNat width 1) = false) := by
  have fresh := reachable.isFresh pending
  have prompts : ∀ place exchange,
      (registry.heard plan chain turn world)[place]? = some exchange → exchange.call.prompt =
        plan.promptAt chain.input (registry.heard plan chain turn world) place := by
    intro place exchange asked
    exact congrArg HopCall.prompt (registry.heard_call sound fresh turn world asked)
  refine ⟨fun place exchange asked => ?_, registry.deliveries_eq plan chain turn world,
    fun place exchange delivery asked handed => ?_, fun record member => ?_, fun inTurn => ?_,
    fun place inside width => plan.uaddOverflow_eq_false inside⟩
  · obtain ⟨index, named⟩ := registry.numbered_heard sound pending turn world place _
      (plan.getElem?_flight asked)
    exact ⟨index, named, prompts place exchange asked⟩
  · rw [← prompts place exchange asked]
    exact registry.prompt_of_delivered handed
  · obtain ⟨exchange, asked, same⟩ := registry.exists_heard sound fresh turn world member
    rw [← prompts _ exchange asked, same]
    exact Flight.record_prompt _
  · obtain ⟨stopped, run⟩ := registry.sequentialRun inTurn sound fresh turn world
    exact ⟨run.hops_index, fun place asked =>
      registry.answers_of_records inTurn sound fresh turn world asked⟩

/-- Of three hops the second fails; the third is asked with the answer of the first alone, and as
the last one of its pattern. -/
theorem context_propagated_solo :
    ∃ exchange, (rehearsed.heard (.solo 3 {}) .solo .free .faltering)[2]? = some exchange ∧
      exchange.call.prompt = PromptTemplates.render {} .last "Who is there?" ["It is I."] := by
  obtain ⟨prompts, _⟩ := context_propagated rehearsed (.solo 3 {}) .solo .free .faltering
    (by decide +kernel) Chain.solo_reachable rfl
  have inside : 2 < (rehearsed.heard (.solo 3 {}) .solo .free .faltering).length := by
    decide +kernel
  have asked := List.getElem?_eq_getElem inside
  have before : ((rehearsed.heard (.solo 3 {}) .solo .free .faltering).take 2).filterMap
      (Plan.solo 3 {}).answer? = ["It is I."] := by
    decide +kernel
  refine ⟨_, asked, (prompts 2 _ asked).2.2.trans ?_⟩
  exact congrArg (PromptTemplates.render {} .last "Who is there?") before

end Registry

end PromptRelay
