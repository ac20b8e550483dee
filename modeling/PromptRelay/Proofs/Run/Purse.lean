/-
**The budget of a run of all hops at once.**

A run of all hops at once looks at its budget once, when all hops have ended, and only to tell that
it is exceeded. At its policy it does not look. So two runs that differ in nothing but these hand the
same on to their clients and come to the same result, and they tell the same but for the budget.

* `Plan.withPurse`: a plan with another budget and another policy;
* `Execution.quiet`: a result without the words of an exceeded budget;
* `execute_withPurse`: with other budget and policy a run is the same but for these words;
* `Execution.SameButBudget`: what the results of such runs have in common;
* `Execution.AllSettled`, `ParallelRun.budgetTold_iff`: the budget is told to be exceeded when all
  hops have ended and their costs exceed it;
* `Registry.purse_irrelevant`: all this for the runs of a plan.
-/

import PromptRelay.Proofs.Run.Attempts
import PromptRelay.Proofs.Run.Essence
import PromptRelay.Proofs.Run.Schedules

namespace PromptRelay

variable {World : Type}

/-- The plan with another budget and another policy. -/
def Plan.withPurse (plan : Plan) (budget : Float) (policy : FallbackPolicy) : Plan :=
  { plan with settings := { plan.settings with budget, policy } }

/-- Where a run stands, without word of an exceeded budget. -/
def Progress.quiet (progress : Progress) : Progress :=
  { progress with events := progress.events.filter fun event => !event.isBudgetExceeded }

/-- The result of a run, without word of an exceeded budget. -/
def Execution.quiet (execution : Execution) : Execution :=
  { execution with events := execution.events.filter fun event => !event.isBudgetExceeded }

/-! ### Runs that differ in budget and policy -/

namespace Progress

/-- Where a run has stopped, without word of an exceeded budget. -/
def stoppedQuiet (stopped : Progress × Ending) : Progress × Ending :=
  (stopped.1.quiet, stopped.2)

/-- Gathered hops are put in order, and beyond this there is only word of the budget. -/
theorem gather_quiet (progress : Progress) (plan : Plan) :
    (progress.gather plan).quiet =
      ({ progress with chain := progress.chain.sortHops } : Progress).quiet := by
  unfold gather quiet tell
  dsimp only
  split
  · simp [Event.isBudgetExceeded]
  · rfl

variable {progress : Progress} (plan : Plan) (budget : Float) (policy : FallbackPolicy)

theorem fly_withPurse (running : progress.chain.status = .running) (flights : List Flight) :
    stoppedQuiet (progress.fly (plan.withPurse budget policy) flights) =
      stoppedQuiet (progress.fly plan flights) := by
  rw [fly_of_running running, fly_of_running running]
  by_cases left :
      (Flight.inTime plan.settings.chainTimeout (Flight.waiting progress.turn flights)).length <
        (Flight.waiting progress.turn flights).length
  · rw [if_pos left]
    exact congrArg stoppedQuiet (if_pos left)
  · rw [if_neg left]
    refine (congrArg stoppedQuiet (if_neg left)).trans ?_
    unfold stoppedQuiet
    rw [gather_quiet, gather_quiet]
    rfl

variable (progress)

/-- Neither the budget nor the policy matters to how a run ends that has stopped. -/
theorem conclude_withPurse (ending : Ending) :
    progress.conclude (plan.withPurse budget policy) ending = progress.conclude plan ending := by
  cases ending <;> rfl

/-- Word of the budget may be left out before further words are added. -/
theorem filter_append_quiet (events later : List Event) :
    (events ++ later).filter (fun event => !event.isBudgetExceeded) =
      (events.filter (fun event => !event.isBudgetExceeded) ++ later).filter
        fun event => !event.isBudgetExceeded := by
  simp [List.filter_append, List.filter_filter]

theorem failWith_quiet (error : ChainError) :
    (progress.failWith error).quiet = (progress.quiet.failWith error).quiet := by
  have told := filter_append_quiet progress.events [.chainFailed error.message]
  unfold failWith Execution.quiet
  rw [told]
  rfl

/-- How a run ends that has stopped does not depend on what it has told of the budget. -/
theorem conclude_quiet (ending : Ending) :
    (progress.conclude plan ending).quiet = (progress.quiet.conclude plan ending).quiet := by
  cases ending with
  | failed error => exact progress.failWith_quiet error
  | timedOut => exact (progress.atLimit plan).failWith_quiet _
  | settled =>
    have same : progress.quiet.finish plan = progress.finish plan := rfl
    unfold conclude
    rw [same]
    cases progress.finish plan with
    | error error => exact progress.failWith_quiet error
    | ok completed =>
      unfold Execution.quiet
      dsimp only
      rw [filter_append_quiet]
      rfl

end Progress

section Purse

variable {plan : Plan} {budget : Float} {policy : FallbackPolicy}

theorem Plan.fault?_withPurse (valid : plan.settings.fault? = none)
    (otherValid : (plan.withPurse budget policy).settings.fault? = none) :
    (plan.withPurse budget policy).fault? = plan.fault? := by
  unfold Plan.fault?
  rw [valid, otherValid]
  rfl

/-- **With another budget and another policy** a run of all hops at once asks for the same and comes
to the same result, but for word of an exceeded budget. -/
theorem execute_withPurse (together : plan.settings.mode = .parallel)
    (valid : plan.settings.fault? = none)
    (otherValid : (plan.withPurse budget policy).settings.fault? = none) (chain : Chain)
    (turn : Turn) :
    (execute (plan.withPurse budget policy) chain turn).map Execution.quiet =
      (execute plan chain turn).map Execution.quiet := by
  have faults := Plan.fault?_withPurse valid otherValid
  unfold execute
  by_cases refused : plan.fault? ≠ none ∨ chain.status ≠ .pending
  · have otherRefused : (plan.withPurse budget policy).fault? ≠ none ∨ chain.status ≠ .pending := by
      rwa [faults]
    have reasons : (plan.withPurse budget policy).refusal chain = plan.refusal chain := by
      unfold Plan.refusal
      rw [faults]
    rw [Plan.start_of_refused refused, Plan.start_of_refused otherRefused, reasons]
  · obtain ⟨sound, pending⟩ := not_or.mp refused
    have otherTogether : (plan.withPurse budget policy).settings.mode = .parallel := together
    rw [Plan.start_of_pending (not_not.mp sound) (not_not.mp pending),
      Plan.start_of_pending (faults.trans (not_not.mp sound)) (not_not.mp pending)]
    unfold Plan.hops
    rw [together, otherTogether]
    refine congrArg (Dialogue.askAll _) (funext fun replies => congrArg Dialogue.done ?_)
    -- the same hops fly, and where they have stopped the run ends in the same way
    let flights := (plan.calls chain.input).zipWith
      (fun call reply => Flight.mk call (reply.within plan.settings.hopTimeout)) replies
    let stopped := (plan.opened chain turn).fly plan flights
    let other := (plan.opened chain turn).fly (plan.withPurse budget policy) flights
    have running : (plan.opened chain turn).chain.status = .running := rfl
    have flown : Progress.stoppedQuiet other = Progress.stoppedQuiet stopped :=
      Progress.fly_withPurse plan budget policy running flights
    calc (other.1.conclude (plan.withPurse budget policy) other.2).quiet
      _ = (other.1.quiet.conclude plan other.2).quiet := by
        rw [Progress.conclude_withPurse, Progress.conclude_quiet]
      _ = (stopped.1.quiet.conclude plan stopped.2).quiet :=
        congrArg (fun stopped => (stopped.1.conclude plan stopped.2).quiet) flown
      _ = (stopped.1.conclude plan stopped.2).quiet := (stopped.1.conclude_quiet plan _).symm

end Purse

/-! ### What such runs have in common -/

/-- Executions that differ in nothing but word of an exceeded budget, and in what a run does not
look at. -/
structure Execution.SameButBudget (execution other : Execution) : Prop where
  outcome : execution.outcome = other.outcome
  records : execution.chain.hops = other.chain.hops
  totalCost : execution.chain.totalCost = other.chain.totalCost
  status : execution.chain.status = other.chain.status
  metadata : execution.chain.metadata = other.chain.metadata
  response : execution.chain.finalResponse = other.chain.finalResponse
  told : execution.events.filter (fun event => !event.isBudgetExceeded) =
    other.events.filter fun event => !event.isBudgetExceeded
  elapsed : execution.elapsed = other.elapsed
  turn : execution.turn = other.turn

/-- Each hop of the pattern has ended, and its end was told once. -/
def Execution.AllSettled (plan : Plan) (execution : Execution) : Prop :=
  (execution.events.filterMap Event.completedIndex?).Perm (List.range plan.pattern.hopCount)

/-- The budget is told to be exceeded when each hop has ended and the total cost exceeds it. -/
def Execution.TellsBudget (plan : Plan) (execution : Execution) : Prop :=
  (∃ event ∈ execution.events, event.isBudgetExceeded = true) ↔
    execution.AllSettled plan ∧ plan.settings.budget < execution.chain.totalCost

theorem Execution.sameButBudget_of_eq {execution other : Execution}
    (same : execution.quiet.essence = other.quiet.essence) : execution.SameButBudget other where
  outcome := (congrArg Execution.outcome same :)
  records := congrArg (fun execution => execution.chain.hops) same
  totalCost := congrArg (fun execution => execution.chain.totalCost) same
  status := congrArg (fun execution => execution.chain.status) same
  metadata := congrArg (fun execution => execution.chain.metadata) same
  response := congrArg (fun execution => execution.chain.finalResponse) same
  told := congrArg Execution.events same
  elapsed := (congrArg Execution.elapsed same :)
  turn := (congrArg Execution.turn same :)

namespace ParallelRun

variable {plan : Plan} {chain : Chain} {turn : Turn} {flights : List Flight}
  {stopped : Progress × Ending} {execution : Execution}

/-- The indices of the hops whose ends are told. -/
theorem completed_index (run : ParallelRun plan chain turn flights stopped execution) :
    execution.events.filterMap Event.completedIndex? =
      (Flight.arrivals plan.settings.chainTimeout turn flights).map fun flight =>
        flight.call.index := by
  rw [Event.filterMap_completedIndex?, run.completed, ← Flight.map_arrival,
    Flight.filterMap_arrivals]

/-- **All hops have ended** when the time limit leaves none out. -/
theorem allSettled_iff (run : ParallelRun plan chain turn flights stopped execution) :
    execution.AllSettled plan ↔ Flight.AllLand plan.settings.chainTimeout flights := by
  have arrive := (Flight.arrivals_perm run.positive turn run.numbered).map
    fun flight => flight.call.index
  unfold Execution.AllSettled
  rw [run.completed_index, ← run.length]
  constructor
  · intro whole
    by_contra left
    obtain ⟨index, inside, missing⟩ :=
      (Flight.exists_not_mem_arrivals_iff run.positive turn run.numbered).mpr left
    exact missing (whole.mem_iff.mpr (List.mem_range.mpr inside))
  · intro all
    rw [Flight.filter_lands_of_allLand run.positive run.numbered all,
      run.numbered.map_call_index] at arrive
    exact arrive

/-- A run that its time limit stops tells nothing of the budget. -/
theorem budget_untold (run : ParallelRun plan chain turn flights stopped execution)
    (notSettled : stopped.2 ≠ .settled) :
    ¬ ∃ event ∈ execution.events, event.isBudgetExceeded = true := by
  rintro ⟨event, member, exceeded⟩
  obtain ⟨last, told, closed⟩ := run.told
  rw [told, if_neg notSettled, List.append_nil] at member
  rcases List.mem_append.mp member with before | atLast
  · rw [List.append_assoc] at before
    rcases List.mem_append.mp before with opening | hops
    · rw [List.mem_singleton.mp opening] at exceeded
      cases exceeded
    · rw [Flight.isBudgetExceeded_quiet hops] at exceeded
      cases exceeded
  · rw [List.mem_singleton.mp atLast, closed.isBudgetExceeded] at exceeded
    cases exceeded

/-- **Word of the budget**: it is given when all hops have ended and their costs exceed it. -/
theorem tellsBudget (run : ParallelRun plan chain turn flights stopped execution) :
    execution.TellsBudget plan := by
  unfold Execution.TellsBudget
  rw [run.allSettled_iff, ← run.settled_iff]
  by_cases settled : stopped.2 = .settled
  · rw [run.overspent_iff settled]
    simp [settled]
  · simp [settled, run.budget_untold settled]

end ParallelRun

/-! ### The runs of a plan -/

namespace Plan

/-- A budget that is none is exceeded by nothing that has cost nothing. -/
theorem not_budget_lt_zero {plan : Plan} (valid : plan.settings.fault? = none) :
    ¬ plan.settings.budget < 0.0 :=
  fun beyond => (Settings.fault?_eq_none_iff.mp valid).1 (.inr beyond)

end Plan

namespace Registry

variable (registry : Registry (StateM World)) (plan : Plan) {chain : Chain}

/-- A run of all hops at once hands on one call for each hop of the pattern whose kind of backend
has a client. -/
theorem map_call_deliveries (together : plan.settings.mode = .parallel) (sound : plan.fault? = none)
    (pending : chain.status = .pending) (turn : Turn) (world : World) :
    (registry.deliveries plan chain turn world).map Delivery.call =
      (plan.calls chain.input).filterMap (registry.delivery? plan.catalog) := by
  have read : ∀ exchanges : List Exchange,
      (exchanges.filterMap (registry.delivered? plan.catalog)).map Delivery.call =
        (exchanges.map Exchange.call).filterMap (registry.delivery? plan.catalog) := by
    intro exchanges
    rw [List.map_filterMap, List.filterMap_map]
    apply congrArg fun reading => exchanges.filterMap reading
    funext exchange
    show (Option.map _ _).map _ = _
    rw [Option.map_map]
    exact Option.map_id'
  rw [deliveries_eq, read, heard_parallel together sound pending, map_call_asked]

/-- Word of the budget is given by any run of all hops at once whose settings are valid. -/
theorem tellsBudget (together : plan.settings.mode = .parallel)
    (valid : plan.settings.fault? = none) (fresh : chain.IsFresh) (turn : Turn) (world : World) :
    (registry.perform plan chain turn world).TellsBudget plan := by
  cases fault : plan.fault? with
  | none =>
    obtain ⟨stopped, run⟩ := registry.parallelRun together fault fresh turn world
    exact run.tellsBudget
  | some error =>
    -- nothing was run, and nothing has cost anything
    rw [(registry.perform_of_fault plan turn world fault).1]
    have total : (Progress.failWith ⟨chain, [], 0, turn⟩ error).chain.totalCost = 0.0 := by
      show (chain.forceFail _).totalCost = 0.0
      rw [fresh.forceFail]
      exact fresh.totalCost
    unfold Execution.TellsBudget
    rw [total]
    refine iff_of_false ?_ fun told => Plan.not_budget_lt_zero valid told.2
    rintro ⟨event, member, exceeded⟩
    rw [List.mem_singleton.mp member] at exceeded
    cases exceeded

/-- **Budget and policy are irrelevant to a run of all hops at once.** Two runs on fresh chains with
the same question, from the same turn and against the same world, whose settings are valid and
differ in budget and policy alone, come to the same result and tell the same but for the budget. They
hand the same on to their clients, which is a call for each hop of the pattern whose kind of backend
has one, unless the pattern is at fault. The budget is told to be exceeded when all hops have ended
in time and the total cost exceeds it. -/
theorem purse_irrelevant (registry : Registry (StateM World)) (plan : Plan) (budget : Float)
    (policy : FallbackPolicy) (together : plan.settings.mode = .parallel)
    (valid : plan.settings.fault? = none)
    (otherValid : (plan.withPurse budget policy).settings.fault? = none) (chain other : Chain)
    (reachable : chain.Reachable) (pending : chain.status = .pending)
    (otherReachable : other.Reachable) (otherPending : other.status = .pending)
    (sameInput : chain.input = other.input) (turn : Turn) (world : World) :
    let otherPlan := plan.withPurse budget policy
    let execution := registry.perform plan chain turn world
    let otherExecution := registry.perform otherPlan other turn world
    let deliveries := registry.deliveries plan chain turn world
    execution.SameButBudget otherExecution ∧
      registry.deliveries otherPlan other turn world = deliveries ∧
      (plan.fault? = none → deliveries.map Delivery.call =
        (plan.calls chain.input).filterMap (registry.delivery? plan.catalog)) ∧
      (plan.fault? ≠ none → deliveries = []) ∧
      execution.TellsBudget plan ∧ otherExecution.TellsBudget otherPlan ∧
      (plan.fault? = none →
        (execution.AllSettled plan ↔ plan.InTime (registry.heard plan chain turn world))) := by
  intro otherPlan execution otherExecution deliveries
  have fresh := reachable.isFresh pending
  have otherFresh := otherReachable.isFresh otherPending
  obtain ⟨sameChain, sameHeard⟩ := registry.perform_congr plan
    (fresh.essence_congr otherFresh sameInput) turn world
  obtain ⟨samePurse, purseHeard⟩ := Dialogue.run_congr
    (execute_withPurse together valid otherValid other turn) (registry.answer plan.catalog) world
  refine ⟨?_, ?_, ?_, ?_, ?_, ?_, ?_⟩
  · refine Execution.sameButBudget_of_eq ?_
    have quiet := congrArg Execution.quiet sameChain
    have essence := congrArg Execution.essence samePurse
    exact quiet.trans essence.symm
  · show registry.deliveries _ other turn world = registry.deliveries plan chain turn world
    rw [deliveries_eq, deliveries_eq, sameHeard]
    exact congrArg (List.filterMap _) purseHeard
  · intro sound
    exact registry.map_call_deliveries plan together sound pending turn world
  · intro faulty
    exact (registry.perform_of_refused plan turn world (.inl faulty)).2
  · exact registry.tellsBudget plan together valid fresh turn world
  · exact registry.tellsBudget otherPlan together otherValid otherFresh turn world
  · intro sound
    obtain ⟨stopped, run⟩ := registry.parallelRun together sound fresh turn world
    rw [run.allSettled_iff, heard_parallel together sound pending]
    exact plan.allLand_iff _

/-- Three hops are handed on whatever the budget and the policy, and all have ended when the budget is
looked at. -/
theorem purse_irrelevant_solo :
    let plan := Plan.solo 3 { mode := .parallel }
    let execution := rehearsed.perform plan .solo .free .faltering
    execution.SameButBudget
        (rehearsed.perform (plan.withPurse 0.15 .abort) .solo .free .faltering) ∧
      (rehearsed.deliveries plan .solo .free .faltering).length = 3 ∧
      execution.AllSettled plan := by
  obtain ⟨same, _, handed, _, _, _, settled⟩ := purse_irrelevant rehearsed
    (.solo 3 { mode := .parallel }) 0.15 .abort rfl (by decide +kernel) (by decide +kernel) .solo
    .solo Chain.solo_reachable rfl Chain.solo_reachable rfl rfl .free .faltering
  have sound : (Plan.solo 3 { mode := .parallel }).fault? = none := by
    decide +kernel
  have count := congrArg List.length (handed sound)
  rw [List.length_map] at count
  refine ⟨same, count.trans (by decide +kernel), (settled sound).mpr (by decide +kernel)⟩

end Registry

end PromptRelay
