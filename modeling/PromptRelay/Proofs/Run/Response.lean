/-
**The response of a run.**

A run that ends well answers with what its backends have answered, and with nothing else. A client
contributes to the response when it answers by the hop's time limit. One hop after the other the
response is the last contribution. With all hops at once it is the only contribution, or all of them
one below the other, each under its provider's name. The apology has no place in it, as a run without
a contribution does not end well.

* `Contribution`, `Plan.contribution?`, `Registry.contributions`: what the clients of a run have
  contributed, each for its hop, in the order in which they were handed their calls;
* `Dialogue.exists_answer`: every reply of a run is that of a client from some world;
* `Plan.Credits`, `Registry.forall₂_credits`: each successful record stands for one contribution;
* `Registry.hops_of_ok`: a run that ends well has a record of each hop that was heard;
* `synthesize_sequential`, `synthesize_parallel`: the text that is made of contributions;
* `Registry.response_assembled`: the response of every run that ends well.
-/

import PromptRelay.Proofs.Run.Attempts
import PromptRelay.Proofs.Run.Records

namespace PromptRelay

variable {World Result : Type}

/-- The answer of a provider, for the hop of an index. -/
structure Contribution where
  index : Nat
  provider : Provider
  content : String

/-- A contribution under the display name of its provider. -/
def Contribution.titled (contribution : Contribution) : String :=
  "## " ++ contribution.provider.displayName ++ "\n\n" ++ contribution.content

namespace Plan

/-- What a client contributes to a hop with its reply: its answer, if this comes by the hop's time
limit. -/
def contribution? (plan : Plan) (index : Nat) (delivery : Delivery) : Option Contribution :=
  (delivery.reply.within plan.settings.hopTimeout).result.toOption.map fun output =>
    ⟨index, delivery.call.provider, output.content⟩

/-- The record is that of the hop with this contribution: it has its content and its provider, which
the catalog knows. -/
structure Credits (plan : Plan) (record : HopRecord) (contribution : Contribution) : Prop where
  index : record.index = contribution.index
  provider : record.provider = contribution.provider.id
  known : plan.catalog.find? record.provider = some contribution.provider
  content : record.content = some contribution.content

end Plan

/-! ### Replies and contributions -/

namespace Dialogue

theorem exists_answer_mapM (answer : HopCall → StateM World Reply) (calls : List HopCall)
    (world : World) :
    ∀ exchange ∈ calls.zipWith Exchange.mk (calls.mapM answer world).1,
      ∃ before, exchange.reply = (answer exchange.call before).1 := by
  induction calls generalizing world with
  | nil =>
    intro exchange member
    cases member
  | cons call calls hypothesis =>
    rw [List.mapM_cons]
    intro exchange member
    rcases List.mem_cons.mp member with rfl | later
    · exact ⟨world, rfl⟩
    · exact hypothesis (answer call world).2 exchange later

/-- **Every reply that is heard is an answer** to its call, from the world that it has found. -/
theorem exists_answer (answer : HopCall → StateM World Reply) (dialogue : Dialogue Result)
    (world : World) :
    ∀ exchange ∈ dialogue.heard answer world,
      ∃ before, exchange.reply = (answer exchange.call before).1 := by
  induction dialogue generalizing world with
  | done result =>
    intro exchange member
    cases member
  | ask call next hypothesis =>
    intro exchange member
    rcases List.mem_cons.mp member with rfl | later
    · exact ⟨world, rfl⟩
    · exact hypothesis _ _ exchange later
  | askAll calls next hypothesis =>
    intro exchange member
    rcases List.mem_append.mp member with asked | later
    · exact exists_answer_mapM answer calls world exchange asked
    · exact hypothesis _ _ exchange later

end Dialogue

namespace Registry

/-- What a hop that was heard has contributed, if a client was handed its call. -/
def contributed? (registry : Registry (StateM World)) (plan : Plan) (exchange : Exchange) :
    Option Contribution :=
  (registry.delivered? plan.catalog exchange).bind (plan.contribution? exchange.call.index)

/-- What the clients contribute while a plan is run. -/
def contributions (registry : Registry (StateM World)) (plan : Plan) (chain : Chain) (turn : Turn)
    (world : World) : List Contribution :=
  (registry.heard plan chain turn world).filterMap (registry.contributed? plan)

variable (registry : Registry (StateM World)) {plan : Plan} {chain : Chain}

/-- A hop that has succeeded was answered by a client, which has contributed to the response. -/
theorem exists_contribution {exchange : Exchange}
    (answered : ∃ before, exchange.reply = (registry.answer plan.catalog exchange.call before).1)
    (succeeded : (plan.flight exchange).record.succeeded = true) :
    ∃ contribution, registry.contributed? plan exchange = some contribution ∧
      plan.Credits (plan.flight exchange).record contribution := by
  obtain ⟨output, seen⟩ := (Flight.record_succeeded_iff _).mp succeeded
  obtain ⟨before, reply⟩ := answered
  cases handed : registry.delivery? plan.catalog exchange.call with
  | none =>
    -- a call that no client serves is refused at once
    obtain ⟨error, refused⟩ := answer_of_no_delivery handed
    have refusal : exchange.reply = .refused error := by
      rw [reply, refused]
      rfl
    unfold Plan.flight at seen
    rw [refusal, Reply.within_eq_self (Nat.zero_le _)] at seen
    cases seen
  | some call =>
    obtain ⟨provider, client, found, _, rfl⟩ := delivery?_eq_some_iff.mp handed
    have named : (plan.flight exchange).record.provider = exchange.call.provider :=
      Flight.record_provider _
    refine ⟨⟨exchange.call.index, provider, output.content⟩, ?_, Flight.record_index _, ?_, ?_, ?_⟩
    · show ((registry.delivery? _ _).map _).bind _ = _
      rw [handed]
      show (plan.flight exchange).seen.result.toOption.map _ = _
      rw [seen]
      rfl
    · rw [named]
      exact (Catalog.id_of_find? found).symm
    · rw [named]
      exact found
    · unfold Flight.record Progress.recordOf
      rw [seen]
      rfl

/-- A hop that has failed contributes nothing. -/
theorem no_contribution {exchange : Exchange}
    (failed : ¬ (plan.flight exchange).record.succeeded = true) :
    registry.contributed? plan exchange = none := by
  rw [Flight.record_succeeded_iff] at failed
  unfold contributed? delivered?
  cases registry.delivery? plan.catalog exchange.call with
  | none => rfl
  | some call =>
    show (plan.flight exchange).seen.result.toOption.map _ = none
    cases seen : (plan.flight exchange).seen.result with
    | error error => rfl
    | ok output => exact absurd ⟨output, seen⟩ failed

/-- **Each successful record stands for one contribution**, in their order. -/
theorem forall₂_credits {heard : List Exchange}
    (answered : ∀ exchange ∈ heard,
      ∃ before, exchange.reply = (registry.answer plan.catalog exchange.call before).1) :
    List.Forall₂ plan.Credits
      (((heard.map plan.flight).map Flight.record).filter HopRecord.succeeded)
      (heard.filterMap (registry.contributed? plan)) := by
  induction heard with
  | nil => exact .nil
  | cons exchange heard hypothesis =>
    have later := hypothesis fun other member =>
      answered other (List.mem_cons_of_mem exchange member)
    rw [List.map_cons, List.map_cons]
    by_cases succeeded : (plan.flight exchange).record.succeeded = true
    · obtain ⟨contribution, contributed, credits⟩ :=
        registry.exists_contribution (answered exchange List.mem_cons_self) succeeded
      rw [List.filter_cons_of_pos succeeded, List.filterMap_cons_some contributed]
      exact .cons credits later
    · rw [List.filter_cons_of_neg succeeded,
        List.filterMap_cons_none (registry.no_contribution succeeded)]
      exact later

/-! ### Runs that end well -/

/-- A run that ends well has a record of each hop that was heard. -/
theorem hops_of_ok (sound : plan.fault? = none) (fresh : chain.IsFresh) (turn : Turn)
    (world : World) {text : String}
    (ok : (registry.perform plan chain turn world).outcome = .ok text) :
    (registry.perform plan chain turn world).chain.hops =
      ((registry.heard plan chain turn world).map plan.flight).map Flight.record := by
  cases mode : plan.settings.mode with
  | sequential =>
    obtain ⟨recorded, ⟨timeUp, _⟩ | ⟨_, count⟩⟩ :=
      registry.hops_sequential_eq mode sound fresh turn world
    · rw [ok] at timeUp
      cases timeUp
    · rw [recorded, List.take_of_length_le]
      rw [List.length_map, count]
  | parallel =>
    obtain ⟨stopped, run⟩ := registry.parallelRun mode sound fresh turn world
    rw [run.hops_of_settled (run.concluded.settled_of_ok ok), heard_parallel mode sound fresh.status]
    rfl

end Registry

/-- A run that ends well answers with the text that is made of its records. -/
theorem Progress.Concluded.text_of_ok {progress : Progress} {plan : Plan} {ending : Ending}
    {execution : Execution} (concluded : progress.Concluded plan ending execution) {text : String}
    (ok : execution.outcome = .ok text) :
    text = synthesize execution.chain.hops plan.settings.mode plan.catalog := by
  cases concluded with
  | failed error => cases ok
  | timedOut => cases ok
  | barren noSuccess => cases ok
  | fruitful someSuccess => exact (Except.ok.inj ok).symm

theorem Registry.text_of_ok (registry : Registry (StateM World)) {plan : Plan} {chain : Chain}
    (sound : plan.fault? = none) (pending : chain.status = .pending) (turn : Turn) (world : World)
    {text : String} (ok : (registry.perform plan chain turn world).outcome = .ok text) :
    text = synthesize (registry.perform plan chain turn world).chain.hops plan.settings.mode
      plan.catalog := by
  cases mode : plan.settings.mode with
  | sequential =>
    obtain ⟨stopped, _, concluded⟩ := registry.perform_sequential mode sound pending turn world
    rw [← mode]
    exact concluded.text_of_ok ok
  | parallel =>
    obtain ⟨stopped, _, concluded⟩ := registry.perform_parallel mode sound pending turn world
    rw [← mode]
    exact concluded.text_of_ok ok

/-! ### The last of the records -/

/-- The last of records in the order of the pattern has the greatest index. -/
theorem Chain.Increasing.index_le {records : List HopRecord} (increasing : Chain.Increasing records)
    {last : HopRecord} (isLast : records.getLast? = some last) :
    ∀ other ∈ records, other.index ≤ last.index := by
  obtain ⟨earlier, rfl⟩ := List.getLast?_eq_some_iff.mp isLast
  intro other member
  rcases List.mem_append.mp member with before | same
  · have less := (List.pairwise_append.mp increasing).2.2 other before last
      (List.mem_singleton_self last)
    exact Nat.le_of_lt less
  · rw [List.mem_singleton.mp same]

/-- The last record stands for the last contribution. -/
theorem exists_last_credits {plan : Plan} {records : List HopRecord}
    {contributions : List Contribution}
    (credits : List.Forall₂ plan.Credits records contributions) (someone : contributions ≠ []) :
    ∃ record contribution, records.getLast? = some record ∧
      contributions.getLast? = some contribution ∧ plan.Credits record contribution := by
  induction credits with
  | nil => exact absurd rfl someone
  | cons first rest hypothesis =>
    cases rest with
    | nil => exact ⟨_, _, rfl, rfl, first⟩
    | cons second rest =>
      obtain ⟨record, contribution, isLast, isLastOfAll, last⟩ := hypothesis (List.cons_ne_nil _ _)
      refine ⟨record, contribution, ?_, ?_, last⟩
      · rw [List.getLast?_cons_cons]
        exact isLast
      · rw [List.getLast?_cons_cons]
        exact isLastOfAll

/-! ### The text of contributions -/

section Text

variable {plan : Plan} {hops : List HopRecord} {contributions : List Contribution}

/-- The answers of records are what these are credited with. -/
theorem answers_of_credits
    (credits : List.Forall₂ plan.Credits (hops.filter HopRecord.succeeded) contributions) :
    answers hops = contributions.map fun contribution =>
      (contribution.provider.id, contribution.content) := by
  unfold answers
  generalize hops.filter HopRecord.succeeded = records at credits ⊢
  induction credits with
  | nil => rfl
  | cons first _ hypothesis =>
    rw [List.map_cons, ← hypothesis, ← first.provider]
    refine List.filterMap_cons_some ?_
    rw [first.content]
    rfl

/-- The catalog knows every provider that has contributed. -/
theorem known_of_credits
    (credits : List.Forall₂ plan.Credits (hops.filter HopRecord.succeeded) contributions) :
    ∀ contribution ∈ contributions,
      plan.catalog.find? contribution.provider.id = some contribution.provider := by
  generalize hops.filter HopRecord.succeeded = records at credits
  induction credits with
  | nil =>
    intro contribution member
    cases member
  | cons first _ hypothesis =>
    intro contribution member
    rcases List.mem_cons.mp member with rfl | later
    · rw [← first.provider]
      exact first.known
    · exact hypothesis contribution later

/-- A contribution without others is the text, in either mode. -/
theorem synthesize_single {only : Contribution}
    (credits : List.Forall₂ plan.Credits (hops.filter HopRecord.succeeded) [only])
    (mode : ExecutionMode) : synthesize hops mode plan.catalog = only.content := by
  unfold synthesize
  rw [answers_of_credits credits]
  rfl

/-- **One hop after the other** the text is the last contribution. -/
theorem synthesize_sequential {last : Contribution}
    (credits : List.Forall₂ plan.Credits (hops.filter HopRecord.succeeded) contributions)
    (isLast : contributions.getLast? = some last) :
    synthesize hops .sequential plan.catalog = last.content := by
  cases contributions with
  | nil => cases isLast
  | cons first contributions =>
    cases contributions with
    | nil =>
      obtain rfl : first = last := Option.some.inj isLast
      exact synthesize_single credits .sequential
    | cons second contributions =>
      rw [List.getLast?_cons_cons, List.getLast?_eq_some_getLast (List.cons_ne_nil _ _)] at isLast
      unfold synthesize
      rw [answers_of_credits credits, ← Option.some.inj isLast]
      show (List.getLast ((second :: contributions).map fun contribution : Contribution =>
        (contribution.provider.id, contribution.content)) (List.cons_ne_nil _ _)).2 = _
      rw [List.getLast_map]

/-- **With all hops at once** several contributions stand one below the other, each under its
provider's name. -/
theorem synthesize_parallel
    (credits : List.Forall₂ plan.Credits (hops.filter HopRecord.succeeded) contributions)
    (several : 2 ≤ contributions.length) :
    synthesize hops .parallel plan.catalog =
      String.intercalate "\n\n" (contributions.map Contribution.titled) := by
  have known := known_of_credits credits
  have labels : (contributions.map fun contribution =>
      (contribution.provider.id, contribution.content)).map (titled plan.catalog) =
        contributions.map Contribution.titled := by
    rw [List.map_map]
    apply List.map_congr_left
    intro contribution member
    show titled plan.catalog (contribution.provider.id, contribution.content) = _
    unfold titled Catalog.labelOf
    rw [known contribution member]
    rfl
  rw [← labels]
  unfold synthesize
  rw [answers_of_credits credits]
  cases contributions with
  | nil => cases several
  | cons first contributions =>
    cases contributions with
    | nil => exact absurd several (by simp)
    | cons second contributions => rfl

end Text

namespace Registry

/-- **The response of a run that ends well** is what its clients have contributed. Each successful
record stands for the contribution to its hop: it has the content that the client of its provider
has answered by the hop's time limit, and the catalog knows the provider. One hop after the other
the response is the contribution of the successful hop with the greatest index. With all hops at
once it is the only contribution, or all of them in the order of the pattern, each under its
provider's name. There is at least one, and the chain keeps the response. -/
theorem response_assembled (registry : Registry (StateM World)) (plan : Plan) (chain : Chain)
    (reachable : chain.Reachable) (turn : Turn) (world : World) (text : String)
    (ok : (registry.perform plan chain turn world).outcome = .ok text) :
    let execution := registry.perform plan chain turn world
    let answered := execution.chain.hops.filter HopRecord.succeeded
    let contributions := registry.contributions plan chain turn world
    execution.chain.finalResponse = some text ∧
    answered.Pairwise (fun first second => first.index < second.index) ∧
    (∀ record ∈ answered, plan.pattern.providers[record.index]? = some record.provider) ∧
    List.Forall₂ plan.Credits answered contributions ∧
    contributions ≠ [] ∧
    (plan.settings.mode = .sequential → ∃ record contribution,
      answered.getLast? = some record ∧ contributions.getLast? = some contribution ∧
      plan.Credits record contribution ∧ (∀ other ∈ answered, other.index ≤ record.index) ∧
      text = contribution.content) ∧
    (plan.settings.mode = .parallel →
      (∀ only, contributions = [only] → text = only.content) ∧
      (contributions.length ≠ 1 →
        text = String.intercalate "\n\n" (contributions.map Contribution.titled))) := by
  intro execution answered contributions
  obtain ⟨sound, pending⟩ := registry.started_of_ok plan turn world ok
  have fresh := reachable.isFresh pending
  have increasing : Chain.Increasing answered :=
    (registry.increasing_hops sound fresh turn world).sublist List.filter_sublist
  have assembled := registry.text_of_ok sound pending turn world ok
  obtain ⟨_, response, _, someSuccess⟩ := (registry.ends sound pending turn world).well text ok
  have credits : List.Forall₂ plan.Credits answered contributions := by
    have answers := Dialogue.exists_answer (registry.answer plan.catalog) (execute plan chain turn)
      world
    show List.Forall₂ _ (execution.chain.hops.filter _) (registry.contributions _ _ _ _)
    rw [registry.hops_of_ok sound fresh turn world ok]
    exact registry.forall₂_credits answers
  have someone : contributions ≠ [] := by
    intro nobody
    rw [nobody, List.forall₂_nil_right_iff] at credits
    exact someSuccess credits
  refine ⟨response, increasing, ?_, credits, someone, fun inTurn => ?_, fun together => ?_⟩
  · intro record member
    obtain ⟨exchange, asked, same⟩ :=
      registry.exists_heard sound fresh turn world (List.mem_of_mem_filter member)
    have named := (registry.numbered_heard sound pending turn world _ _
      (plan.getElem?_flight asked)).2
    rw [same, Flight.record_provider, ← same]
    exact named
  · obtain ⟨record, contribution, isLast, isLastOfAll, last⟩ := exists_last_credits credits someone
    rw [inTurn, synthesize_sequential credits isLastOfAll] at assembled
    exact ⟨record, contribution, isLast, isLastOfAll, last, increasing.index_le isLast, assembled⟩
  · rw [together] at assembled
    refine ⟨fun only single => ?_, fun notSingle => ?_⟩
    · rw [single] at credits
      rw [assembled, synthesize_single credits]
    · have several : 2 ≤ contributions.length := by
        have positive := List.length_pos_iff.mpr someone
        omega
      rw [assembled, synthesize_parallel credits several]

/-- Of three hops the second fails, and the response names the two others. -/
theorem response_assembled_solo :
    (rehearsed.perform (.solo 3 { mode := .parallel }) .solo .free .faltering).outcome =
      .ok "## Solo\n\nIt is I.\n\n## Solo\n\nAnd who are you?" := by
  let plan : Plan := .solo 3 { mode := .parallel }
  have parallel : plan.settings.mode = .parallel := rfl
  obtain ⟨stopped, run⟩ := rehearsed.parallelRun parallel (by decide +kernel)
    (Chain.solo_reachable.isFresh rfl) .free .faltering
  have all : Flight.AllLand plan.settings.chainTimeout
      (rehearsed.fan plan Chain.solo.input .faltering) :=
    (plan.allLand_iff _).mpr (by decide +kernel)
  have settled := run.settled_iff.mpr all
  have success : stopped.1.chain.successes ≠ [] := by
    unfold Chain.successes
    rw [run.stoppedHops settled, Flight.filter_lands_of_allLand run.positive run.numbered all]
    decide +kernel
  have ok := run.concluded.ok_of_success settled success
  obtain ⟨_, _, _, _, _, _, together⟩ := response_assembled rehearsed plan .solo
    Chain.solo_reachable .free .faltering _ ok
  have contributed : (rehearsed.contributions plan .solo .free .faltering).map
      Contribution.titled = ["## Solo\n\nIt is I.", "## Solo\n\nAnd who are you?"] := by
    decide +kernel
  have several : (rehearsed.contributions plan .solo .free .faltering).length ≠ 1 := by
    decide +kernel
  refine ok.trans (congrArg Except.ok ?_)
  rw [(together parallel).2 several, contributed]
  decide +kernel

end Registry

end PromptRelay
