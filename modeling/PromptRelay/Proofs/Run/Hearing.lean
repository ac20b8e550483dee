/-
**What a run hears.**

The clients of a registry answer from a world that each of their answers may change, so they may do
anything from one call to the next. A run of a plan against them takes one way through the tree of
its dialogue.

* `Dialogue.heard`: the calls along this way with their replies;
* `Plan.flight`, `Plan.span`: a hop as a run sees it, and how long it waits for it;
* `Plan.start_of_pending`, `Plan.start_of_refused`: when a plan starts, and why it does not;
* `Registry.perform`: the execution that a plan comes to, `Registry.heard` what was heard meanwhile;
* `Registry.delivery?`: what is handed on to a client for a call, `Registry.delivery?_eq_some_iff`
  when it is;
* `Registry.perform_eq`: a plan without a fault runs its hops and concludes from where they end;
* `Registry.rehearsed`, `Plan.solo`, `Rehearsal.after`, `Rehearsal.faltering`: runs that are easily
  rehearsed, with one provider for all hops.
-/

import PromptRelay.Proofs.Chain.Life
import PromptRelay.Proofs.Run.Faults
import PromptRelay.Rehearsal.Script
import PromptRelay.Run.Registry

namespace PromptRelay

/-- A hop that was asked for, with what came back. -/
structure Exchange where
  call : HopCall
  reply : Reply

variable {World First Result : Type}

namespace Dialogue

/-! ### One way through the tree -/

/-- What is asked along a run, with what comes back, in the order of the calls. -/
def heard (answer : HopCall → StateM World Reply) : Dialogue Result → World → List Exchange
  | .done _, _ => []
  | .ask call next, world =>
    let answered := answer call world
    ⟨call, answered.1⟩ :: (next answered.1).heard answer answered.2
  | .askAll calls next, world =>
    let answered := calls.mapM answer world
    calls.zipWith Exchange.mk answered.1 ++ (next answered.1).heard answer answered.2

theorem length_mapM (answer : HopCall → StateM World Reply) (calls : List HopCall)
    (world : World) : (calls.mapM answer world).1.length = calls.length := by
  induction calls generalizing world with
  | nil => rfl
  | cons call calls hypothesis =>
    rw [List.mapM_cons]
    exact congrArg (· + 1) (hypothesis (answer call world).2)

theorem run_map (answer : HopCall → StateM World Reply) (change : First → Result)
    (dialogue : Dialogue First) (world : World) :
    (dialogue.map change).run answer world =
      (change (dialogue.run answer world).1, (dialogue.run answer world).2) := by
  induction dialogue generalizing world with
  | done result => rfl
  | ask call next hypothesis => exact hypothesis (answer call world).1 (answer call world).2
  | askAll calls next hypothesis =>
    exact hypothesis (calls.mapM answer world).1 (calls.mapM answer world).2

/-- What is heard does not depend on what is made of the result. -/
theorem heard_map (answer : HopCall → StateM World Reply) (change : First → Result)
    (dialogue : Dialogue First) (world : World) :
    (dialogue.map change).heard answer world = dialogue.heard answer world := by
  induction dialogue generalizing world with
  | done result => rfl
  | ask call next hypothesis =>
    exact congrArg _ (hypothesis (answer call world).1 (answer call world).2)
  | askAll calls next hypothesis =>
    exact congrArg _ (hypothesis (calls.mapM answer world).1 (calls.mapM answer world).2)

end Dialogue

namespace Plan

/-- A hop as it is seen by a run that waits for it no longer than the hop's time limit. -/
def flight (plan : Plan) (exchange : Exchange) : Flight :=
  ⟨exchange.call, exchange.reply.within plan.settings.hopTimeout⟩

/-- How many milliseconds a run waits for a hop. -/
def span (plan : Plan) (exchange : Exchange) : Nat :=
  min exchange.reply.delay plan.settings.hopTimeout

@[simp]
theorem flight_delay (plan : Plan) (exchange : Exchange) :
    (plan.flight exchange).seen.delay = plan.span exchange :=
  exchange.reply.within_delay plan.settings.hopTimeout

/-- A hop that was heard is seen at the same place. -/
theorem getElem?_flight (plan : Plan) {heard : List Exchange} {place : Nat} {exchange : Exchange}
    (asked : heard[place]? = some exchange) :
    (heard.map plan.flight)[place]? = some (plan.flight exchange) := by
  rw [List.getElem?_map, asked]
  rfl

/-- The chain of a plan that was just started, its observer told so. -/
def opened (plan : Plan) (chain : Chain) (turn : Turn) : Progress :=
  ⟨{ chain with status := .running }, [plan.opening], 0, turn⟩

/-- A fresh chain that was just started has no other records than those that it takes. -/
theorem opened_withHops_hops (plan : Plan) {chain : Chain} (fresh : chain.IsFresh) (turn : Turn)
    (records : List HopRecord) :
    ((plan.opened chain turn).chain.withHops records).hops = records := by
  show chain.hops ++ records = records
  rw [fresh.hops, List.nil_append]

theorem start_of_pending {plan : Plan} {chain : Chain} (sound : plan.fault? = none)
    (pending : chain.status = .pending) :
    plan.start chain = .ok { chain with status := .running } := by
  unfold start
  rw [sound]
  exact Chain.start_eq_ok_iff.mpr ⟨pending, rfl⟩

/-- Why the plan does not start on a chain that is not pending: what is wrong with the plan, if
anything, and else the chain's status. -/
def refusal (plan : Plan) (chain : Chain) : ChainError :=
  plan.fault?.getD (.invalidTransition chain.status.word ChainStatus.running.word)

/-- A plan with a fault does not start, and no plan starts on a chain that is not pending. -/
theorem start_of_refused {plan : Plan} {chain : Chain}
    (refused : plan.fault? ≠ none ∨ chain.status ≠ .pending) :
    plan.start chain = .error (plan.refusal chain) := by
  unfold start refusal
  cases fault : plan.fault? with
  | some error => rfl
  | none =>
    have notPending : chain.status ≠ .pending := refused.resolve_left fun faulty => faulty fault
    unfold Chain.start Chain.requireStatus
    rw [if_neg notPending]
    rfl

end Plan

namespace Registry

/-! ### Runs against a registry -/

/-- What a plan comes to on a chain, where the clients of a registry answer from a world. -/
def perform (registry : Registry (StateM World)) (plan : Plan) (chain : Chain) (turn : Turn)
    (world : World) : Execution :=
  ((execute plan chain turn).run (registry.answer plan.catalog) world).1

/-- What is heard while a plan is run. -/
def heard (registry : Registry (StateM World)) (plan : Plan) (chain : Chain) (turn : Turn)
    (world : World) : List Exchange :=
  (execute plan chain turn).heard (registry.answer plan.catalog) world

/-- What is handed on to a client for a call, if the catalog has the provider and the registry a
client of its kind. -/
def delivery? (registry : Registry (StateM World)) (catalog : Catalog) (call : HopCall) :
    Option ClientCall :=
  (catalog.find? call.provider).bind fun provider =>
    (registry.client? provider.kind).map fun _ => ⟨provider, call.prompt, call.timeout⟩

/-- What is handed on depends on which kinds of backend have a client, and not on the clients. -/
theorem delivery?_congr {Other : Type} {first : Registry (StateM World)}
    {second : Registry (StateM Other)}
    (sameKinds : ∀ kind, (first.client? kind).isSome = (second.client? kind).isSome)
    (catalog : Catalog) (call : HopCall) :
    first.delivery? catalog call = second.delivery? catalog call := by
  unfold delivery?
  cases found : catalog.find? call.provider with
  | none => rfl
  | some provider =>
    have same := sameKinds provider.kind
    dsimp only [Option.bind_some]
    cases served : first.client? provider.kind with
    | none =>
      rw [served] at same
      rw [Option.isNone_iff_eq_none.mp (Option.isSome_eq_false_iff.mp same.symm)]
      rfl
    | some client =>
      rw [served] at same
      obtain ⟨other, otherServed⟩ := Option.isSome_iff_exists.mp same.symm
      rw [otherServed]
      rfl

/-- A call is handed on when its provider is known and there is a client of the provider's kind. -/
theorem delivery?_eq_some_iff {registry : Registry (StateM World)} {catalog : Catalog}
    {call : HopCall} {delivered : ClientCall} :
    registry.delivery? catalog call = some delivered ↔ ∃ provider client,
      catalog.find? call.provider = some provider ∧
        registry.client? provider.kind = some client ∧
        ⟨provider, call.prompt, call.timeout⟩ = delivered := by
  unfold delivery?
  simp only [Option.bind_eq_some_iff, Option.map_eq_some_iff, exists_and_left]

/-- A call that is not handed on fails at once, whatever the world. -/
theorem answer_of_no_delivery {registry : Registry (StateM World)} {catalog : Catalog}
    {call : HopCall} (kept : registry.delivery? catalog call = none) :
    ∃ error, registry.answer catalog call = pure (.refused error) := by
  unfold answer Catalog.lookup lookup
  cases found : catalog.find? call.provider with
  | none => exact ⟨_, rfl⟩
  | some provider =>
    have missing : registry.client? provider.kind = none := by
      unfold delivery? at kept
      rw [found] at kept
      exact Option.map_eq_none_iff.mp kept
    simp only [missing]
    exact ⟨_, rfl⟩

variable {registry : Registry (StateM World)} {plan : Plan} {chain : Chain}

/-- **A plan without a fault runs its hops** and concludes from where they end. -/
theorem perform_eq (sound : plan.fault? = none) (pending : chain.status = .pending) (turn : Turn)
    (world : World) :
    registry.perform plan chain turn world =
      let stopped := ((plan.hops (plan.opened chain turn)).run (registry.answer plan.catalog)
        world).1
      stopped.1.conclude plan stopped.2 := by
  unfold perform execute
  rw [Plan.start_of_pending sound pending]
  exact congrArg Prod.fst (Dialogue.run_map _ _ _ world)

theorem heard_eq (sound : plan.fault? = none) (pending : chain.status = .pending) (turn : Turn)
    (world : World) :
    registry.heard plan chain turn world =
      (plan.hops (plan.opened chain turn)).heard (registry.answer plan.catalog) world := by
  unfold heard execute
  rw [Plan.start_of_pending sound pending]
  exact Dialogue.heard_map _ _ _ world

/-- Clients of all kinds that answer from a script. -/
def rehearsed : Registry (StateM Rehearsal) :=
  ⟨fun kind => some (Rehearsal.hopClient kind)⟩

end Registry

/-! ### Runs with one provider -/

/-- The provider of a rehearsed run. -/
def Provider.solo : Provider where
  id := "solo"
  displayName := "Solo"
  kind := .openAi

/-- The catalog of a rehearsed run. -/
def Catalog.solo : Catalog where
  providers := [.solo]
  index := [("solo", 0)]
  indexed :=
    have sound : Provider.solo.fault? = none := by decide +kernel
    .concat .nil sound rfl

/-- A plan that asks one provider a number of times. -/
def Plan.solo (hopCount : Nat) (settings : Settings) : Plan where
  catalog := .solo
  templates := {}
  pattern := { name := "solo", providers := List.replicate hopCount "solo" }
  settings := settings

/-- A plan that asks one provider for all hops at once, each of which may take as long as the
run. -/
def Plan.abreast (hopCount : Nat) : Plan :=
  .solo hopCount { mode := .parallel, hopTimeout := 5, chainTimeout := 5, maxHops := hopCount }

/-- The chain of a rehearsed run. -/
def Chain.solo : Chain :=
  .new (.ofRandom 0) ⟨0, 0⟩ "solo" "Who is there?"

theorem Chain.solo_reachable : Chain.solo.Reachable :=
  .new _ _ _ _

/-- The replies of a rehearsed run, the last of which is given again and again. -/
def Rehearsal.solo (replies : List Reply) : Rehearsal where
  hops := [((.openAi, "solo"), replies)]

/-- An answer that is given again and again, each time after a delay and at a cost. -/
def Rehearsal.after (delay : Nat) (cost : Float) : Rehearsal :=
  .solo [⟨delay, .ok ⟨"It is I.", 4, cost⟩⟩]

/-- Three answers of which the second is a failure. -/
def Rehearsal.faltering : Rehearsal :=
  .solo [⟨10, .ok ⟨"It is I.", 4, 0.1⟩⟩, ⟨10, .error (.upstream "solo" "away")⟩,
    ⟨10, .ok ⟨"And who are you?", 5, 0.1⟩⟩]

end PromptRelay
