/-
**Several runs on one chain.**

A chain is run once. A plan does not start on a chain that is not pending: one that has ended stays
as it is, and one that is under way fails with what it has recorded. Every run leaves a chain that
has ended, so whatever is tried on a chain, hops run at most the first time.

* `Registry.perform_of_refused`: what comes of a plan that does not start;
* `Registry.perform_isTerminal`: a chain has ended when its run is over;
* `Attempt`, `Registry.attempts`: plans that are tried on one chain, one after the other;
* `Registry.attempts_of_ended`: none of them runs a hop on a chain that has ended;
* `Registry.executed_once`: what becomes of a chain by its status, and at most one run of hops.
-/

import PromptRelay.Proofs.Chain.History
import PromptRelay.Proofs.Run.Delivery
import PromptRelay.Proofs.Run.Ends

namespace PromptRelay

variable {World : Type}

/-! ### Runs that are refused -/

namespace Registry

variable (registry : Registry (StateM World)) (plan : Plan) {chain : Chain} (turn : Turn)
  (world : World)

/-- A run that is refused makes its chain fail, if it can, and asks for nothing. -/
theorem perform_of_refused (refused : plan.fault? ≠ none ∨ chain.status ≠ .pending) :
    registry.perform plan chain turn world =
        Progress.failWith ⟨chain, [], 0, turn⟩ (plan.refusal chain) ∧
      registry.deliveries plan chain turn world = [] := by
  have silent : registry.heard plan chain turn world = [] := by
    unfold heard execute
    rw [Plan.start_of_refused refused]
    rfl
  constructor
  · unfold perform execute
    rw [Plan.start_of_refused refused]
    rfl
  · rw [deliveries_eq, silent]
    rfl

theorem perform_of_fault {error : ChainError} (fault : plan.fault? = some error) :
    registry.perform plan chain turn world = Progress.failWith ⟨chain, [], 0, turn⟩ error ∧
      registry.deliveries plan chain turn world = [] := by
  have faulty : plan.fault? ≠ none := by
    rw [fault]
    exact Option.some_ne_none error
  have refusal : plan.refusal chain = error := by
    unfold Plan.refusal
    rw [fault]
    rfl
  rw [← refusal]
  exact registry.perform_of_refused plan turn world (.inl faulty)

/-- **A chain has ended when its run is over.** -/
theorem perform_isTerminal (chain : Chain) (turn : Turn) (world : World) :
    (registry.perform plan chain turn world).chain.status.isTerminal = true := by
  by_cases refused : plan.fault? ≠ none ∨ chain.status ≠ .pending
  · rw [(registry.perform_of_refused plan turn world refused).1]
    exact chain.forceFail_isTerminal _
  · obtain ⟨sound, pending⟩ := not_or.mp refused
    have ends := registry.ends (not_not.mp sound) (not_not.mp pending) turn world
    cases outcome : (registry.perform plan chain turn world).outcome with
    | ok text =>
      rw [(ends.well text outcome).1]
      rfl
    | error error =>
      rw [(ends.badly error outcome).1]
      rfl

/-- A run that ends well was started. -/
theorem started_of_ok {text : String}
    (ok : (registry.perform plan chain turn world).outcome = .ok text) :
    plan.fault? = none ∧ chain.status = .pending := by
  have started : ¬ (plan.fault? ≠ none ∨ chain.status ≠ .pending) := by
    intro refused
    rw [(registry.perform_of_refused plan turn world refused).1] at ok
    cases ok
  obtain ⟨sound, pending⟩ := not_or.mp started
  exact ⟨not_not.mp sound, not_not.mp pending⟩

/-- Only a pending chain is run to a good end. -/
theorem completed_of_ok {text : String}
    (ok : (registry.perform plan chain turn world).outcome = .ok text) :
    chain.status = .pending ∧
      (registry.perform plan chain turn world).chain.status = .completed ∧
      (registry.perform plan chain turn world).chain.finalResponse = some text := by
  obtain ⟨sound, pending⟩ := registry.started_of_ok plan turn world ok
  obtain ⟨completed, response, _⟩ := (registry.ends sound pending turn world).well text ok
  exact ⟨pending, completed, response⟩

end Registry

/-! ### Runs in a row -/

/-- A run that was tried on a chain, with what the clients were handed. -/
structure Attempt where
  execution : Execution
  deliveries : List Delivery

/-- A hop was started, or a client was handed a call. -/
def Attempt.runsHops (attempt : Attempt) : Bool :=
  attempt.execution.events.any Event.isHopStarted || !attempt.deliveries.isEmpty

namespace Registry

/-- What a run leaves of the world. -/
def worldAfter (registry : Registry (StateM World)) (plan : Plan) (chain : Chain) (turn : Turn)
    (world : World) : World :=
  ((execute plan chain turn).run (registry.answer plan.catalog) world).2

/-- Plans that are tried on one chain, each where the one before it has left chain, turn and
world. -/
def attempts (registry : Registry (StateM World)) :
    List Plan → Chain → Turn → World → List Attempt
  | [], _, _, _ => []
  | plan :: plans, chain, turn, world =>
    let execution := registry.perform plan chain turn world
    ⟨execution, registry.deliveries plan chain turn world⟩ ::
      registry.attempts plans execution.chain execution.turn
        (registry.worldAfter plan chain turn world)

variable (registry : Registry (StateM World)) (plans : List Plan) {chain : Chain} (turn : Turn)
  (world : World)

/-- **A chain that has ended stays as it is** whatever is tried on it, and no hop is run. -/
theorem attempts_of_ended (ended : chain.status.isTerminal = true) :
    ∀ attempt ∈ registry.attempts plans chain turn world,
      attempt.runsHops = false ∧ attempt.execution.chain = chain := by
  induction plans generalizing turn world with
  | nil => exact fun attempt member => by cases member
  | cons plan plans hypothesis =>
    obtain ⟨refused, silent⟩ := registry.perform_of_refused plan turn world
      (.inr (ChainStatus.ne_pending_of_isTerminal ended))
    have stays : (registry.perform plan chain turn world).chain = chain := by
      rw [refused]
      exact Chain.forceFail_of_ended ended _
    intro attempt member
    rcases List.mem_cons.mp member with rfl | later
    · refine ⟨?_, stays⟩
      unfold Attempt.runsHops
      rw [refused, silent]
      rfl
    · -- what comes later finds the chain as it was
      rw [stays] at later
      exact hypothesis _ _ attempt later

/-- **Hops run at most once** of all that is tried on a chain. -/
theorem countP_runsHops_le (chain : Chain) :
    (registry.attempts plans chain turn world).countP Attempt.runsHops ≤ 1 := by
  cases plans with
  | nil => exact Nat.zero_le 1
  | cons plan plans =>
    have idle := registry.attempts_of_ended plans (registry.perform plan chain turn world).turn
      (registry.worldAfter plan chain turn world)
      (registry.perform_isTerminal plan chain turn world)
    have none := List.countP_eq_zero.mpr fun attempt member =>
      Bool.eq_false_iff.mp (idle attempt member).1
    unfold attempts
    rw [List.countP_cons, none]
    split
    · exact Nat.le_refl 1
    · exact Nat.zero_le 1

/-- **A chain is run once.** It has ended when its run is over. A run that ends well has found it
pending and left it completed with the response. A chain that had ended before stays as it is, in
every field, and one that was under way fails with its records in order and its total cost; in both
cases no client is handed anything. So hops run at most once of all that is tried on a chain. -/
theorem executed_once (registry : Registry (StateM World)) (plan : Plan) (chain : Chain)
    (turn : Turn) (world : World) (plans : List Plan) :
    let execution := registry.perform plan chain turn world
    execution.chain.status.isTerminal = true ∧
    (∀ text, execution.outcome = .ok text → chain.status = .pending ∧
      execution.chain.status = .completed ∧ execution.chain.finalResponse = some text) ∧
    (chain.status.isTerminal = true → execution.outcome = .error (plan.refusal chain) ∧
      registry.deliveries plan chain turn world = [] ∧
      execution.events = [.chainFailed (plan.refusal chain).message] ∧
      execution.chain = chain) ∧
    (chain.status = .running → execution.outcome = .error (plan.refusal chain) ∧
      registry.deliveries plan chain turn world = [] ∧ execution.chain.status = .failed ∧
      Chain.StablySorted chain.hops execution.chain.hops ∧
      execution.chain.totalCost = chain.totalCost) ∧
    (registry.attempts plans chain turn world).countP Attempt.runsHops ≤ 1 := by
  refine ⟨registry.perform_isTerminal plan chain turn world, fun text =>
    registry.completed_of_ok plan turn world, fun ended => ?_, fun running => ?_,
    registry.countP_runsHops_le plans turn world chain⟩
  · obtain ⟨refused, silent⟩ := registry.perform_of_refused plan turn world
      (.inr (ChainStatus.ne_pending_of_isTerminal ended))
    rw [refused]
    exact ⟨rfl, silent, rfl, Chain.forceFail_of_ended ended _⟩
  · have notPending : chain.status ≠ .pending := by
      rw [running]
      exact ChainStatus.noConfusion
    obtain ⟨refused, silent⟩ := registry.perform_of_refused plan turn world (.inr notPending)
    rw [refused, Progress.failWith_chain ⟨chain, [], 0, turn⟩ running]
    exact ⟨rfl, silent, rfl, Chain.stablySorted_sortRecords chain.hops, rfl⟩

/-- The second run on one chain leaves it completed, as the first one has. -/
theorem executed_once_solo :
    let first := rehearsed.perform (.solo 2 {}) .solo .free (.after 10 0.1)
    let second := rehearsed.perform (.solo 3 {}) first.chain first.turn (.after 10 0.1)
    (∃ text, first.outcome = .ok text) ∧ first.chain.hops.length = 2 ∧
      second.outcome = .error (.invalidTransition "completed" "running") ∧
      second.chain = first.chain := by
  intro first second
  obtain ⟨_, _, ended, _⟩ :=
    executed_once rehearsed (.solo 3 {}) first.chain first.turn (.after 10 0.1) []
  have completed : first.chain.status = .completed := by
    decide +kernel
  obtain ⟨refused, _, _, stays⟩ := ended (by rw [completed]; rfl)
  refine ⟨⟨_, rfl⟩, by decide +kernel, refused.trans ?_, stays⟩
  unfold Plan.refusal
  rw [completed]
  decide +kernel

end Registry

end PromptRelay
