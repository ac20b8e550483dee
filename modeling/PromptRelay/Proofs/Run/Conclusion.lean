/-
**What is left of a run that has stopped.**

A run that has failed makes its chain fail, and one that has settled completes it unless no hop
succeeded. Neither changes what was recorded, apart from its order, and each tells the observer one
last thing.

* `Execution.ClosedBy`: the last thing that is told of a run;
* `Progress.Concluded`: the two results of a run that has stopped, each with everything it says;
* `Progress.conclude_cases`: there is no other result;
* `Progress.Concluded.hops`, `Progress.Concluded.events`: the records and the events of either.
-/

import PromptRelay.Proofs.Run.Passage

namespace PromptRelay

namespace Execution

variable {execution : Execution} {last : Event}

/-- The last thing that is told of a run: that its chain is completed, or that it failed and why. -/
inductive ClosedBy (execution : Execution) : Event → Prop where
  | completed {text : String} {metadata : ChainMetadata} (ok : execution.outcome = .ok text)
      (scored : execution.chain.metadata = some metadata) :
      ClosedBy execution (.chainCompleted execution.chain.totalCost metadata.tier)
  | failed {error : ChainError} (failed : execution.outcome = .error error) :
      ClosedBy execution (.chainFailed error.message)

theorem ClosedBy.startedIndex? (closed : execution.ClosedBy last) : last.startedIndex? = none := by
  cases closed <;> rfl

theorem ClosedBy.isHopStarted (closed : execution.ClosedBy last) : last.isHopStarted = false := by
  cases closed <;> rfl

theorem ClosedBy.isHopCompleted (closed : execution.ClosedBy last) :
    last.isHopCompleted = false := by
  cases closed <;> rfl

theorem ClosedBy.isBudgetExceeded (closed : execution.ClosedBy last) :
    last.isBudgetExceeded = false := by
  cases closed <;> rfl

end Execution

namespace Progress

/-- The text that a run answers with. -/
def response (progress : Progress) (plan : Plan) : String :=
  synthesize progress.chain.hops plan.settings.mode plan.catalog

/-- The result of a run whose chain is completed. -/
def completion (progress : Progress) (plan : Plan) : Execution where
  outcome := .ok (progress.response plan)
  chain := { progress.chain with
    status := .completed
    metadata := some (score progress.chain.hops plan.catalog)
    finalResponse := some (progress.response plan)
    completedAt := some progress.now }
  events := progress.events ++
    [.chainCompleted progress.chain.totalCost (score progress.chain.hops plan.catalog).tier]
  elapsed := progress.elapsed
  turn := progress.turn

/-- Where a run stands when its time limit stops it. -/
def atLimit (progress : Progress) (plan : Plan) : Progress :=
  { progress with elapsed := plan.settings.chainTimeout }

variable {progress : Progress} {plan : Plan}

theorem conclude_of_no_success (noSuccess : progress.chain.successes = []) :
    progress.conclude plan .settled =
      progress.failWith (.allHopsFailed progress.chain.hops.length) := by
  unfold conclude finish
  simp only [noSuccess]
  rfl

theorem conclude_of_success (running : progress.chain.status = .running)
    (someSuccess : progress.chain.successes ≠ []) :
    progress.conclude plan .settled = progress.completion plan := by
  have taken : progress.chain.complete progress.now (score progress.chain.hops plan.catalog)
      (progress.response plan) = .ok (progress.completion plan).chain :=
    Chain.complete_eq_ok_iff.mpr ⟨running, rfl⟩
  unfold response at taken
  unfold conclude finish
  simp only [List.isEmpty_eq_false_iff.mpr someSuccess, taken]
  rfl

theorem failWith_chain (progress : Progress) (running : progress.chain.status = .running)
    (error : ChainError) :
    (progress.failWith error).chain = { progress.chain with
      hops := Chain.sortRecords progress.chain.hops
      status := .failed
      completedAt := some progress.now } :=
  Chain.forceFail_of_running running progress.now

theorem failWith_status (progress : Progress) (running : progress.chain.status = .running)
    (error : ChainError) : (progress.failWith error).chain.status = .failed := by
  rw [failWith_chain progress running]

/-- The results of a run that has stopped. -/
inductive Concluded (progress : Progress) (plan : Plan) : Ending → Execution → Prop where
  /-- The run failed before. -/
  | failed (error : ChainError) : Concluded progress plan (.failed error) (progress.failWith error)
  /-- The time limit came first. -/
  | timedOut : Concluded progress plan .timedOut
      ((progress.atLimit plan).failWith (.chainTimeoutExceeded plan.settings.chainTimeout))
  /-- Every hop failed. -/
  | barren (noSuccess : progress.chain.successes = []) : Concluded progress plan .settled
      (progress.failWith (.allHopsFailed progress.chain.hops.length))
  /-- Some hop succeeded. -/
  | fruitful (someSuccess : progress.chain.successes ≠ []) :
      Concluded progress plan .settled (progress.completion plan)

/-- **A run that has stopped has one of these results.** -/
theorem conclude_cases (running : progress.chain.status = .running) (ending : Ending) :
    Concluded progress plan ending (progress.conclude plan ending) := by
  cases ending with
  | failed error => exact .failed error
  | timedOut => exact .timedOut
  | settled =>
    by_cases noSuccess : progress.chain.successes = []
    · rw [conclude_of_no_success noSuccess]
      exact .barren noSuccess
    · rw [conclude_of_success running noSuccess]
      exact .fruitful noSuccess

namespace Concluded

variable {ending : Ending} {execution : Execution}

/-- What is recorded stays recorded, in the order of the pattern. -/
theorem hops (concluded : Concluded progress plan ending execution)
    (running : progress.chain.status = .running)
    (increasing : Chain.Increasing progress.chain.hops) :
    execution.chain.hops = progress.chain.hops := by
  have sorted := Chain.sortRecords_of_increasing increasing
  cases concluded with
  | failed error => rw [failWith_chain progress running, sorted]
  | timedOut =>
    rw [failWith_chain (progress.atLimit plan) running]
    exact sorted
  | barren noSuccess => rw [failWith_chain progress running, sorted]
  | fruitful someSuccess => rfl

/-- A run that has not settled puts its records in the order of the pattern. -/
theorem hops_of_ne_settled (concluded : Concluded progress plan ending execution)
    (running : progress.chain.status = .running) (notSettled : ending ≠ .settled) :
    execution.chain.hops = Chain.sortRecords progress.chain.hops := by
  cases concluded with
  | failed error => rw [failWith_chain progress running]
  | timedOut =>
    rw [failWith_chain (progress.atLimit plan) running]
    rfl
  | barren noSuccess => exact absurd rfl notSettled
  | fruitful someSuccess => exact absurd rfl notSettled

theorem totalCost (concluded : Concluded progress plan ending execution)
    (running : progress.chain.status = .running) :
    execution.chain.totalCost = progress.chain.totalCost := by
  cases concluded with
  | failed error => rw [failWith_chain progress running]
  | timedOut =>
    rw [failWith_chain (progress.atLimit plan) running]
    rfl
  | barren noSuccess => rw [failWith_chain progress running]
  | fruitful someSuccess => rfl

theorem events (concluded : Concluded progress plan ending execution) :
    ∃ last, execution.events = progress.events ++ [last] ∧ execution.ClosedBy last := by
  cases concluded with
  | failed error => exact ⟨_, rfl, .failed rfl⟩
  | timedOut => exact ⟨_, rfl, .failed rfl⟩
  | barren noSuccess => exact ⟨_, rfl, .failed rfl⟩
  | fruitful someSuccess => exact ⟨_, rfl, .completed rfl rfl⟩

/-- The last thing that is told is no word of a hop. -/
theorem departures (concluded : Concluded progress plan ending execution) :
    execution.events.filter Event.isHopStarted = progress.events.filter Event.isHopStarted := by
  obtain ⟨last, told, closed⟩ := concluded.events
  rw [told, List.filter_append, List.filter_cons_of_neg (by simp [closed.isHopStarted])]
  exact List.append_nil _

theorem arrivals (concluded : Concluded progress plan ending execution) :
    execution.events.filter Event.isHopCompleted =
      progress.events.filter Event.isHopCompleted := by
  obtain ⟨last, told, closed⟩ := concluded.events
  rw [told, List.filter_append, List.filter_cons_of_neg (by simp [closed.isHopCompleted])]
  exact List.append_nil _

/-- Only a settled run ends well. -/
theorem settled_of_ok (concluded : Concluded progress plan ending execution) {text : String}
    (ok : execution.outcome = .ok text) : ending = .settled := by
  cases concluded with
  | failed error => cases ok
  | timedOut => cases ok
  | barren noSuccess => cases ok
  | fruitful someSuccess => rfl

/-- The outcome names the time limit when it stops the run. -/
theorem timeUp_iff (concluded : Concluded progress plan ending execution)
    (other : ending ≠ .failed (.chainTimeoutExceeded plan.settings.chainTimeout)) :
    execution.outcome = .error (.chainTimeoutExceeded plan.settings.chainTimeout) ↔
      ending = .timedOut := by
  cases concluded with
  | failed error =>
    refine iff_of_false (fun timeUp => other ?_) Ending.noConfusion
    rw [Except.error.inj timeUp]
  | timedOut => exact iff_of_true rfl rfl
  | barren noSuccess => exact iff_of_false (by simp [failWith]) Ending.noConfusion
  | fruitful someSuccess => exact iff_of_false (by simp [completion]) Ending.noConfusion

/-- A settled run on which a hop has succeeded ends well. -/
theorem ok_of_success (concluded : Concluded progress plan ending execution)
    (settled : ending = .settled) (success : progress.chain.successes ≠ []) :
    execution.outcome = .ok (progress.response plan) := by
  cases concluded with
  | failed error => cases settled
  | timedOut => cases settled
  | barren noSuccess => exact absurd noSuccess success
  | fruitful someSuccess => rfl

end Concluded

end Progress

end PromptRelay
