/-
**What the clients of a run are handed.**

A client may note what it is handed and what it replies. This does not change the run, and what is
noted in the end are the calls that the run has made, but for those that no client serves. Where a
registry covers the catalog there are none of these.

* `Delivery`, `Registry.noting`: a call with the client that it was handed to, and clients that note
  them;
* `Dialogue.run_noting`: a run against noting clients is the run itself, with its calls as notes;
* `Registry.deliveries`, `Registry.deliveries_eq`: what the clients of a plan's run are handed, which
  are the calls that are heard;
* `HopPattern.exists_provider`: the catalog has the providers of a pattern without a fault;
* `Registry.delivered?_of_covers`: a covered catalog has a client for every call.
-/

import Mathlib.Data.List.Basic
import PromptRelay.Proofs.Run.Hearing

namespace PromptRelay

/-- A call that a client was handed, with its reply. -/
structure Delivery where
  /-- The kind that the client is registered for. -/
  kind : BackendKind
  call : ClientCall
  reply : Reply

variable {World Result : Type}

/-- The client, which also notes what it is handed and what it replies. -/
def Client.noting (kind : BackendKind) (client : Client (StateM World)) :
    Client (StateM (World × List Delivery)) :=
  fun call state =>
    let answered := client call state.1
    (answered.1, (answered.2, state.2 ++ [⟨kind, call, answered.1⟩]))

namespace Registry

/-- The clients of the registry, which also note what they are handed. -/
def noting (registry : Registry (StateM World)) :
    Registry (StateM (World × List Delivery)) :=
  ⟨fun kind => (registry.client? kind).map (Client.noting kind)⟩

/-- What is handed on of a call, and to which client, with its reply. -/
def delivered? (registry : Registry (StateM World)) (catalog : Catalog) (exchange : Exchange) :
    Option Delivery :=
  (registry.delivery? catalog exchange.call).map fun call =>
    ⟨call.provider.kind, call, exchange.reply⟩

/-- A client is handed the prompt of the call. -/
theorem prompt_of_delivered (registry : Registry (StateM World)) {catalog : Catalog}
    {exchange : Exchange} {delivery : Delivery}
    (handed : registry.delivered? catalog exchange = some delivery) :
    delivery.call.prompt = exchange.call.prompt := by
  obtain ⟨call, found, rfl⟩ := Option.map_eq_some_iff.mp handed
  obtain ⟨provider, client, _, _, rfl⟩ := delivery?_eq_some_iff.mp found
  rfl

/-- A call is answered as before, and noted if it is handed on. -/
theorem answer_noting (registry : Registry (StateM World)) (catalog : Catalog) (call : HopCall)
    (world : World) (notes : List Delivery) :
    registry.noting.answer catalog call (world, notes) =
      ((registry.answer catalog call world).1, ((registry.answer catalog call world).2,
        notes ++ (registry.delivered? catalog
          ⟨call, (registry.answer catalog call world).1⟩).toList)) := by
  unfold delivered? delivery? answer Catalog.lookup lookup
  cases found : catalog.find? call.provider with
  | none =>
    simp only [Option.bind_none, Option.map_none, Option.toList_none, List.append_nil]
    rfl
  | some provider =>
    have registered : registry.noting.client? provider.kind =
        (registry.client? provider.kind).map (Client.noting provider.kind) := rfl
    cases served : registry.client? provider.kind with
    | none =>
      rw [served] at registered
      simp only [served, registered, Option.map_none, Option.bind_some, Option.toList_none,
        List.append_nil]
      rfl
    | some client =>
      rw [served] at registered
      simp only [served, registered, Option.map_some, Option.bind_some]
      rfl

end Registry

namespace Dialogue

section Noting

variable {answer : HopCall → StateM World Reply}
  {noting : HopCall → StateM (World × List Delivery) Reply} {noted : Exchange → List Delivery}

/-- Calls that are noted one by one are noted in their order. -/
theorem mapM_noting
    (notes : ∀ call world earlier, noting call (world, earlier) = ((answer call world).1,
      ((answer call world).2, earlier ++ noted ⟨call, (answer call world).1⟩)))
    (calls : List HopCall) (world : World) (earlier : List Delivery) :
    let answered := calls.mapM answer world
    calls.mapM noting (world, earlier) = (answered.1,
      (answered.2, earlier ++ (calls.zipWith Exchange.mk answered.1).flatMap noted)) := by
  induction calls generalizing world earlier with
  | nil =>
    show (_, (_, earlier)) = (_, (_, earlier ++ []))
    rw [List.append_nil]
    rfl
  | cons call calls hypothesis =>
    have first := notes call world earlier
    have rest := hypothesis (answer call world).2 (earlier ++ noted ⟨call, (answer call world).1⟩)
    rw [List.mapM_cons, List.mapM_cons]
    show ((noting call (world, earlier)).1 ::
        (calls.mapM noting (noting call (world, earlier)).2).1,
      (calls.mapM noting (noting call (world, earlier)).2).2) = _
    rw [first, rest, List.append_assoc]
    rfl

/-- **A run that notes its calls** is the same run, and its notes are the calls that are heard. -/
theorem run_noting
    (notes : ∀ call world earlier, noting call (world, earlier) = ((answer call world).1,
      ((answer call world).2, earlier ++ noted ⟨call, (answer call world).1⟩)))
    (dialogue : Dialogue Result) (world : World) (earlier : List Delivery) :
    let ended := dialogue.run answer world
    dialogue.run noting (world, earlier) = (ended.1,
      (ended.2, earlier ++ (dialogue.heard answer world).flatMap noted)) := by
  induction dialogue generalizing world earlier with
  | done result =>
    show (_, (_, earlier)) = (_, (_, earlier ++ []))
    rw [List.append_nil]
    rfl
  | ask call next hypothesis =>
    have first := notes call world earlier
    have rest := hypothesis (answer call world).1 (answer call world).2
      (earlier ++ noted ⟨call, (answer call world).1⟩)
    show (next (noting call (world, earlier)).1).run noting (noting call (world, earlier)).2 = _
    rw [first, rest, List.append_assoc]
    rfl
  | askAll calls next hypothesis =>
    have first := mapM_noting notes calls world earlier
    have rest := hypothesis (calls.mapM answer world).1 (calls.mapM answer world).2
      (earlier ++ (calls.zipWith Exchange.mk (calls.mapM answer world).1).flatMap noted)
    show (next (calls.mapM noting (world, earlier)).1).run noting
      (calls.mapM noting (world, earlier)).2 = _
    rw [first, rest, List.append_assoc, ← List.flatMap_append]
    rfl

end Noting

end Dialogue

/-! ### Covered catalogs -/

/-- Every provider of a pattern without a fault is in the catalog. -/
theorem HopPattern.exists_provider {pattern : HopPattern} {catalog : Catalog} {maxHops : Nat}
    (sound : pattern.fault? catalog maxHops = none) {id : String}
    (member : id ∈ pattern.providers) : ∃ provider, catalog.find? id = some provider := by
  have known := (fault?_eq_none_iff.mp sound).2.2 id member
  exact Catalog.contains_iff_exists_find?.mp (Catalog.contains_iff.mpr known)

namespace Registry

variable {registry : Registry (StateM World)}

/-- A registry that covers a catalog has a client for each of its providers. -/
theorem exists_client {catalog : Catalog} (covers : registry.uncovered? catalog = none)
    {id : String} {provider : Provider} (found : catalog.find? id = some provider) :
    ∃ client, registry.client? provider.kind = some client := by
  have inUse := Catalog.kind_mem_kinds (Catalog.mem_of_find? found)
  have served := List.find?_eq_none.mp covers _ inUse
  rw [Bool.not_eq_true, Option.isNone_eq_false_iff] at served
  exact Option.isSome_iff_exists.mp served

/-- **A covered catalog has a client for every call** of a pattern's provider: neither the provider
nor the client is missing. -/
theorem delivered?_of_covers {plan : Plan} (sound : plan.fault? = none)
    (covers : registry.uncovered? plan.catalog = none) {exchange : Exchange}
    (member : exchange.call.provider ∈ plan.pattern.providers) :
    ∃ provider, plan.catalog.find? exchange.call.provider = some provider ∧
      registry.delivered? plan.catalog exchange = some ⟨provider.kind,
        ⟨provider, exchange.call.prompt, exchange.call.timeout⟩, exchange.reply⟩ := by
  obtain ⟨provider, found⟩ :=
    HopPattern.exists_provider (Plan.fault?_eq_none_iff.mp sound).2 member
  obtain ⟨client, served⟩ := exists_client covers found
  have handed : registry.delivery? plan.catalog exchange.call =
      some ⟨provider, exchange.call.prompt, exchange.call.timeout⟩ :=
    delivery?_eq_some_iff.mpr ⟨provider, client, found, served, rfl⟩
  refine ⟨provider, found, ?_⟩
  rw [delivered?, handed]
  rfl

/-! ### The deliveries of a run -/

/-- What the clients are handed while a plan is run, in the order in which they are handed it. -/
def deliveries (registry : Registry (StateM World)) (plan : Plan) (chain : Chain) (turn : Turn)
    (world : World) : List Delivery :=
  ((execute plan chain turn).run (registry.noting.answer plan.catalog) (world, [])).2.2

variable (registry) (plan : Plan) (chain : Chain) (turn : Turn) (world : World)

/-- **Clients that note what they are handed** leave the execution as it is. Their notes are what is
heard, as far as it is handed on. -/
theorem run_noting : (execute plan chain turn).run (registry.noting.answer plan.catalog)
      (world, []) = (registry.perform plan chain turn world,
        (((execute plan chain turn).run (registry.answer plan.catalog) world).2,
          (registry.heard plan chain turn world).flatMap
            fun exchange => (registry.delivered? plan.catalog exchange).toList)) :=
  Dialogue.run_noting (fun _ _ _ => registry.answer_noting plan.catalog _ _ _) _ world []

/-- The clients are handed the calls that are heard, as far as these are handed on. -/
theorem deliveries_eq : registry.deliveries plan chain turn world =
    (registry.heard plan chain turn world).filterMap (registry.delivered? plan.catalog) := by
  unfold deliveries
  rw [run_noting, List.filterMap_eq_flatMap_toList]

end Registry

end PromptRelay
