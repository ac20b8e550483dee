/-
**What a run does not look at.**

A chain has an id, the name of a pattern and a time at which it was made. A run writes times into it
that depend on these, and looks at none of them. So runs on chains that are the same but for this ask
for the same hops, tell the same and come to the same result.

* `Chain.essence`, `Execution.essence`: a chain, and a result, without what a run does not look at;
* `sequential_essence`, `parallel_essence`, `Progress.conclude_essence`: no part of a run looks at
  it, and `execute_essence`, `execute_congr`: nor does the whole;
* `Dialogue.run_congr`: dialogues that are the same but for a change of their results;
* `Registry.perform_congr`: the runs of a plan on chains that are the same but for this;
* `Chain.IsFresh.essence_congr`: fresh chains are such chains when their questions are the same.
-/

import PromptRelay.Proofs.Run.Delivery
import PromptRelay.Proofs.Run.Stop
import PromptRelay.Proofs.Run.Together

namespace PromptRelay

variable {World : Type}

theorem Dialogue.map_map {First Second Third : Type} (change : First → Second)
    (further : Second → Third) (dialogue : Dialogue First) :
    (dialogue.map change).map further = dialogue.map (further ∘ change) := by
  induction dialogue with
  | done result => rfl
  | ask call next hypothesis => exact congrArg (Dialogue.ask call) (funext hypothesis)
  | askAll calls next hypothesis => exact congrArg (Dialogue.askAll calls) (funext hypothesis)

/-- The chain without its id, the name of its pattern and its times. -/
def Chain.essence (chain : Chain) : Chain :=
  { chain with id := ⟨0⟩, patternName := "", createdAt := ⟨0, 0⟩, completedAt := none }

/-- Where a run stands, but for what it does not look at. -/
def Progress.essence (progress : Progress) : Progress :=
  { progress with chain := progress.chain.essence }

/-- The result of a run, but for what the run has not looked at. -/
def Execution.essence (execution : Execution) : Execution :=
  { execution with chain := execution.chain.essence }

namespace Chain

/-- Fresh chains differ in nothing else when their questions are the same. -/
theorem IsFresh.essence_congr {chain other : Chain} (fresh : chain.IsFresh)
    (otherFresh : other.IsFresh) (sameInput : chain.input = other.input) :
    chain.essence = other.essence := by
  unfold essence
  simp only [fresh.hops, fresh.status, fresh.totalCost, fresh.metadata, fresh.finalResponse,
    otherFresh.hops, otherFresh.status, otherFresh.totalCost, otherFresh.metadata,
    otherFresh.finalResponse, sameInput]

variable (chain : Chain)

@[simp]
theorem essence_status : chain.essence.status = chain.status := rfl

@[simp]
theorem essence_totalCost : chain.essence.totalCost = chain.totalCost := rfl

theorem sortHops_essence : chain.essence.sortHops = chain.sortHops.essence := by
  unfold sortHops
  rw [essence_status]
  split
  · rfl
  · rfl

theorem forceFail_essence (now other : Timestamp) :
    (chain.essence.forceFail now).essence = (chain.forceFail other).essence := by
  unfold forceFail forceFail?
  rw [essence_status, sortHops_essence]
  split
  · rfl
  · rfl

end Chain

namespace Progress

@[simp]
theorem essence_chain (progress : Progress) : progress.essence.chain = progress.chain.essence := rfl

/-! ### The hops of a run -/

/-- Where a run has stopped, but for what it does not look at. -/
def stoppedEssence (stopped : Progress × Ending) : Progress × Ending :=
  (stopped.1.essence, stopped.2)

theorem gather_essence (progress : Progress) (plan : Plan) :
    progress.essence.gather plan = (progress.gather plan).essence := by
  unfold gather
  simp only [essence_chain, Chain.sortHops_essence, Chain.essence_totalCost]
  split
  · rfl
  · rfl

/-- The hops fly in the same way. -/
theorem fly_essence {progress : Progress} (running : progress.chain.status = .running)
    (plan : Plan) (flights : List Flight) :
    progress.essence.fly plan flights = stoppedEssence (progress.fly plan flights) := by
  have stillRunning : progress.essence.chain.status = .running := running
  rw [fly_of_running running, fly_of_running stillRunning]
  by_cases left :
      (Flight.inTime plan.settings.chainTimeout (Flight.waiting progress.turn flights)).length <
        (Flight.waiting progress.turn flights).length
  · rw [if_pos left]
    exact if_pos left
  · let whole : Progress := { progress.arrived plan.settings.chainTimeout flights with
      turn := Flight.turnAfter progress.turn
        (Flight.inTime plan.settings.chainTimeout (Flight.waiting progress.turn flights)) }
    rw [if_neg left]
    exact (if_neg left).trans (congrArg (·, Ending.settled) (whole.gather_essence plan))

end Progress

theorem parallel_essence {progress : Progress} (running : progress.chain.status = .running)
    (plan : Plan) (providers : List String) :
    parallel plan providers progress.essence =
      (parallel plan providers progress).map Progress.stoppedEssence := by
  refine congrArg (Dialogue.askAll _) (funext fun replies => ?_)
  exact congrArg Dialogue.done (Progress.fly_essence running plan _)

theorem sequential_essence (plan : Plan) (providers : List String) (index : Nat)
    (progress : Progress) (running : progress.chain.status = .running) :
    sequential plan providers index progress.essence =
      (sequential plan providers index progress).map Progress.stoppedEssence := by
  induction providers generalizing index progress with
  | nil => rfl
  | cons provider rest hypothesis =>
    have stillRunning : progress.essence.chain.status = .running := running
    rw [Plan.sequential_cons plan provider rest index running,
      Plan.sequential_cons plan provider rest index stillRunning]
    refine congrArg (Dialogue.ask _) (funext fun reply => ?_)
    -- the hop passes in the same way, and the run goes on where it has passed
    let call := plan.call index provider (plan.promptAfter index progress.chain)
    let flight := plan.flight ⟨call, reply⟩
    have later := hypothesis (index + 1) (progress.through [flight]) running
    show plan.onward rest index progress.essence flight =
      (plan.onward rest index progress flight).map Progress.stoppedEssence
    unfold Plan.onward
    by_cases late : plan.settings.chainTimeout < progress.elapsed + flight.seen.delay
    · rw [if_pos late]
      exact if_pos late
    rw [if_neg late]
    refine (if_neg late).trans ?_
    cases flight.seen.result with
    | error source =>
      cases plan.settings.policy with
      | abort => rfl
      | «continue» => exact later
    | ok output =>
      by_cases skips : (decide (plan.settings.budget < (progress.through [flight]).chain.totalCost)
          && !rest.isEmpty) = true
      · simp only [if_pos skips]
        exact if_pos skips
      · simp only [if_neg skips]
        exact (if_neg skips).trans later

/-! ### The whole run -/

namespace Progress

theorem failWith_essence (progress : Progress) (error : ChainError) :
    (progress.essence.failWith error).essence = (progress.failWith error).essence := by
  have failed := progress.chain.forceFail_essence progress.essence.now progress.now
  unfold failWith Execution.essence
  rw [← failed]
  rfl

/-- A chain that is not running is not completed. -/
theorem conclude_of_refused {progress : Progress} {plan : Plan}
    (notRunning : progress.chain.status ≠ .running)
    (someSuccess : progress.chain.successes ≠ []) :
    progress.conclude plan .settled = progress.failWith
      (.invalidTransition progress.chain.status.word ChainStatus.completed.word) := by
  have refused : ∀ now metadata response, progress.chain.complete now metadata response =
      .error (.invalidTransition progress.chain.status.word ChainStatus.completed.word) := by
    intro now metadata response
    unfold Chain.complete Chain.requireStatus
    rw [if_neg notRunning]
    rfl
  unfold conclude finish
  simp only [List.isEmpty_eq_false_iff.mpr someSuccess, refused]
  rfl

theorem conclude_essence (progress : Progress) (plan : Plan) (ending : Ending) :
    (progress.essence.conclude plan ending).essence = (progress.conclude plan ending).essence := by
  cases ending with
  | failed error => exact progress.failWith_essence error
  | timedOut => exact (progress.atLimit plan).failWith_essence _
  | settled =>
    by_cases noSuccess : progress.chain.successes = []
    · have none : progress.essence.chain.successes = [] := noSuccess
      rw [conclude_of_no_success noSuccess, conclude_of_no_success none]
      exact progress.failWith_essence _
    have someSuccess : progress.essence.chain.successes ≠ [] := noSuccess
    by_cases running : progress.chain.status = .running
    · have stillRunning : progress.essence.chain.status = .running := running
      rw [conclude_of_success running noSuccess, conclude_of_success stillRunning someSuccess]
      rfl
    · have notRunning : progress.essence.chain.status ≠ .running := running
      rw [conclude_of_refused running noSuccess, conclude_of_refused notRunning someSuccess]
      exact progress.failWith_essence _

end Progress

theorem Plan.hops_essence (plan : Plan) (chain : Chain) (turn : Turn) :
    plan.hops (plan.opened chain.essence turn) =
      (plan.hops (plan.opened chain turn)).map Progress.stoppedEssence := by
  have running : (plan.opened chain turn).chain.status = .running := rfl
  unfold hops
  cases plan.settings.mode with
  | sequential => exact sequential_essence plan _ 0 _ running
  | parallel => exact parallel_essence running plan _

/-- **A run does not look at its chain's id, the name of its pattern and its times.** -/
theorem execute_essence (plan : Plan) (chain : Chain) (turn : Turn) :
    (execute plan chain.essence turn).map Execution.essence =
      (execute plan chain turn).map Execution.essence := by
  unfold execute
  by_cases refused : plan.fault? ≠ none ∨ chain.status ≠ .pending
  · have essenceRefused : plan.fault? ≠ none ∨ chain.essence.status ≠ .pending := refused
    rw [Plan.start_of_refused refused, Plan.start_of_refused essenceRefused]
    exact congrArg Dialogue.done (Progress.failWith_essence ⟨chain, [], 0, turn⟩ _)
  · obtain ⟨sound, pending⟩ := not_or.mp refused
    have essencePending : chain.essence.status = .pending := not_not.mp pending
    rw [Plan.start_of_pending (not_not.mp sound) (not_not.mp pending),
      Plan.start_of_pending (not_not.mp sound) essencePending]
    show ((plan.hops (plan.opened chain.essence turn)).map _).map _ =
      ((plan.hops (plan.opened chain turn)).map _).map _
    rw [plan.hops_essence, Dialogue.map_map, Dialogue.map_map, Dialogue.map_map]
    apply congrArg fun change => (plan.hops (plan.opened chain turn)).map change
    funext stopped
    exact stopped.1.conclude_essence plan stopped.2

theorem execute_congr (plan : Plan) {chain other : Chain} (same : chain.essence = other.essence)
    (turn : Turn) :
    (execute plan chain turn).map Execution.essence =
      (execute plan other turn).map Execution.essence := by
  rw [← execute_essence, same, execute_essence]

/-! ### The runs of a plan -/

/-- Dialogues that are the same once their results are changed hear the same, and their results are
the same once they are changed. -/
theorem Dialogue.run_congr {First Second Result : Type} {change : First → Result}
    {otherChange : Second → Result} {dialogue : Dialogue First} {other : Dialogue Second}
    (same : dialogue.map change = other.map otherChange) (answer : HopCall → StateM World Reply)
    (world : World) :
    change (dialogue.run answer world).1 = otherChange (other.run answer world).1 ∧
      dialogue.heard answer world = other.heard answer world := by
  constructor
  · have ended := congrArg (fun dialogue => (dialogue.run answer world).1) same
    simpa only [run_map] using ended
  · rw [← heard_map answer change, same, heard_map]

namespace Registry

/-- **Runs on chains that are the same but for what a run does not look at** hear the same and come
to the same result, but for it. -/
theorem perform_congr (registry : Registry (StateM World)) (plan : Plan) {chain other : Chain}
    (same : chain.essence = other.essence) (turn : Turn) (world : World) :
    (registry.perform plan chain turn world).essence =
        (registry.perform plan other turn world).essence ∧
      registry.heard plan chain turn world = registry.heard plan other turn world :=
  Dialogue.run_congr (execute_congr plan same turn) (registry.answer plan.catalog) world

end Registry

end PromptRelay
