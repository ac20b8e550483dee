/-
**How a run ends that was started.**

It ends by its time limit. Where it ends well its chain is completed, with the score of what was
recorded, and else the chain has failed, for one of three reasons that only a run has. In between at
least one hop is started, and no more of them than the pattern has.

* `ChainError.isOfRun`: the errors of a run that was started;
* `Execution.Ends`: what holds of the result, well or not;
* `Flight.spent_timely_le`, `Flight.delay_le_of_mem_inTime`: the time that passes in either mode;
* `Registry.ends`: every run of a plan without a fault ends so;
* `Registry.exists_opening`, `Registry.exists_first`: it tells of its start and starts a hop;
* `Registry.length_heard_le`: it does not ask for too many.
-/

import PromptRelay.Proofs.Run.Records

namespace PromptRelay

variable {World : Type}

namespace ChainError

/-- The error ends a run that was started. -/
def isOfRun : ChainError → Bool
  | .allHopsFailed _ | .hopAborted .. | .chainTimeoutExceeded _ => true
  | _ => false

theorem not_isPreflight_of_isOfRun {error : ChainError} (ofRun : error.isOfRun = true) :
    error.isPreflight = false := by
  cases error <;> first | rfl | cases ofRun

end ChainError

/-- What holds of the result of a run that was started, whether it ends well or not. -/
structure Execution.Ends (plan : Plan) (execution : Execution) : Prop where
  inTime : execution.elapsed ≤ plan.settings.chainTimeout
  well : ∀ text, execution.outcome = .ok text →
    execution.chain.status = .completed ∧ execution.chain.finalResponse = some text ∧
      execution.chain.metadata = some (score execution.chain.hops plan.catalog) ∧
      execution.chain.successes ≠ []
  badly : ∀ error, execution.outcome = .error error →
    execution.chain.status = .failed ∧ error.isOfRun = true

/-- A run that has stopped in time, if not with an error that is none of a run, ends so. -/
theorem Progress.Concluded.ends {progress : Progress} {plan : Plan} {ending : Ending}
    {execution : Execution} (concluded : progress.Concluded plan ending execution)
    (running : progress.chain.status = .running)
    (inTime : progress.elapsed ≤ plan.settings.chainTimeout)
    (ofRun : ∀ error, ending = .failed error → error.isOfRun = true) : execution.Ends plan := by
  cases concluded with
  | failed error =>
    refine ⟨inTime, fun text ok => (by cases ok), fun other same => ?_⟩
    cases same
    exact ⟨progress.failWith_status running error, ofRun error rfl⟩
  | timedOut =>
    refine ⟨Nat.le_refl _, fun text ok => (by cases ok), fun other same => ?_⟩
    cases same
    exact ⟨(progress.atLimit plan).failWith_status running _, rfl⟩
  | barren noSuccess =>
    refine ⟨inTime, fun text ok => (by cases ok), fun other same => ?_⟩
    cases same
    exact ⟨progress.failWith_status running _, rfl⟩
  | fruitful someSuccess =>
    refine ⟨inTime, fun text ok => ?_, fun other same => by cases same⟩
    cases ok
    exact ⟨rfl, rfl, rfl, someSuccess⟩

/-! ### The time that passes -/

namespace Flight

theorem spent_timely_le (limit elapsed : Nat) (early : elapsed ≤ limit) (flights : List Flight) :
    elapsed + spent (timely limit elapsed flights) ≤ limit := by
  induction flights generalizing elapsed with
  | nil => exact early
  | cons flight flights hypothesis =>
    by_cases late : limit < elapsed + flight.seen.delay
    · rw [timely_of_late late]
      exact early
    · rw [timely_of_inTime late, spent_cons, ← Nat.add_assoc]
      exact hypothesis _ (Nat.not_lt.mp late)

theorem delay_le_of_mem_inTime {limit : Nat} {flights : List Flight} {flight : Flight}
    (member : flight ∈ inTime limit flights) : flight.seen.delay ≤ limit := by
  have taken := (inTime_perm limit flights).mem_iff.mp member
  rcases List.mem_append.mp taken with before | atLimit
  · exact Nat.le_of_lt (of_decide_eq_true (List.mem_filter.mp before).2)
  · have ends := (List.mem_filter.mp (List.mem_of_mem_take atLimit)).2
    exact Nat.le_of_eq (of_decide_eq_true ends)

end Flight

namespace Plan

variable {plan : Plan} {progress : Progress} {flights : List Flight} {stopped : Progress × Ending}

/-- **One hop after the other** a run stops by its time limit. -/
theorem Stops.elapsed_le (stops : plan.Stops progress flights stopped)
    (early : progress.elapsed ≤ plan.settings.chainTimeout) :
    stopped.1.elapsed ≤ plan.settings.chainTimeout := by
  have kept : (progress.through (plan.kept progress flights)).elapsed ≤
      plan.settings.chainTimeout :=
    Flight.spent_timely_le _ _ early _
  cases stops with
  | cut next rest course => exact kept
  | aborted last source whole isLast failed abort => exact kept
  | overspent last output whole isLast answered beyond left => exact kept
  | finished whole course goesOn => exact kept

theorem Stops.begins (stops : plan.Stops progress flights stopped) :
    progress.events <+: stopped.1.events := by
  have passed : progress.events <+: (progress.through (plan.kept progress flights)).events :=
    List.prefix_append _ _
  cases stops with
  | cut next rest course => exact passed.trans (List.prefix_append _ _)
  | aborted last source whole isLast failed abort => exact passed
  | overspent last output whole isLast answered beyond left =>
    exact passed.trans (List.prefix_append _ _)
  | finished whole course goesOn => exact passed

theorem Stops.isOfRun (stops : plan.Stops progress flights stopped) {error : ChainError}
    (failed : stopped.2 = .failed error) : error.isOfRun = true := by
  cases stops with
  | cut next rest course => cases failed
  | aborted last source whole isLast failure abort =>
    cases failed
    rfl
  | overspent last output whole isLast answered beyond left => cases failed
  | finished whole course goesOn => cases failed

/-- **All hops at once** a run stops by its time limit. -/
theorem Lands.elapsed_le (lands : plan.Lands progress flights stopped)
    (early : progress.elapsed ≤ plan.settings.chainTimeout) :
    stopped.1.elapsed ≤ plan.settings.chainTimeout := by
  have landed : (progress.arrived plan.settings.chainTimeout flights).elapsed ≤
      plan.settings.chainTimeout := by
    unfold Progress.arrived Progress.landed
    cases last : (Flight.inTime plan.settings.chainTimeout
        (Flight.waiting progress.turn flights)).getLast? with
    | none => exact early
    | some flight => exact Flight.delay_le_of_mem_inTime (List.mem_of_getLast? last)
  cases lands with
  | cut turn left => exact landed
  | gathered turn all =>
    have stays : ∀ whole : Progress, (whole.gather plan).elapsed = whole.elapsed := by
      intro whole
      unfold Progress.gather
      dsimp only
      split
      · rfl
      · rfl
    rw [stays]
    exact landed

end Plan

namespace Registry

variable (registry : Registry (StateM World)) {plan : Plan} {chain : Chain}

/-- **A run that was started ends by its time limit**, with its chain completed or failed. -/
theorem ends (sound : plan.fault? = none) (pending : chain.status = .pending) (turn : Turn)
    (world : World) : (registry.perform plan chain turn world).Ends plan := by
  have early : (plan.opened chain turn).elapsed ≤ plan.settings.chainTimeout := Nat.zero_le _
  cases mode : plan.settings.mode with
  | sequential =>
    obtain ⟨stopped, stops, concluded⟩ :=
      registry.perform_sequential mode sound pending turn world
    exact concluded.ends (stops.running rfl) (stops.elapsed_le early) fun error => stops.isOfRun
  | parallel =>
    obtain ⟨stopped, lands, concluded⟩ := registry.perform_parallel mode sound pending turn world
    have running : stopped.1.chain.status = .running := by
      obtain ⟨hops, chain⟩ := lands.chain_but_hops rfl
      rw [chain]
      rfl
    refine concluded.ends running (lands.elapsed_le early) fun error failed => ?_
    cases lands <;> cases failed

/-! ### The start of a run -/

/-- A run tells first that its chain is started. -/
theorem exists_opening (sound : plan.fault? = none) (pending : chain.status = .pending)
    (turn : Turn) (world : World) :
    ∃ later, (registry.perform plan chain turn world).events = plan.opening :: later := by
  -- in both modes the words that follow are put behind the opening
  obtain ⟨stopped, begins, ending, concluded⟩ : ∃ stopped : Progress,
      [plan.opening] <+: stopped.events ∧ ∃ ending, stopped.Concluded plan ending
        (registry.perform plan chain turn world) := by
    cases mode : plan.settings.mode with
    | sequential =>
      obtain ⟨stopped, stops, concluded⟩ :=
        registry.perform_sequential mode sound pending turn world
      exact ⟨stopped.1, stops.begins, _, concluded⟩
    | parallel =>
      obtain ⟨stopped, lands, concluded⟩ :=
        registry.perform_parallel mode sound pending turn world
      refine ⟨stopped.1, ?_, _, concluded⟩
      rw [lands.events rfl, List.append_assoc, List.append_assoc]
      exact List.prefix_append _ _
  obtain ⟨last, told, _⟩ := concluded.events
  obtain ⟨later, words⟩ := begins
  rw [← words] at told
  exact ⟨later ++ [last], told⟩

theorem heard_ne_nil (sound : plan.fault? = none) (pending : chain.status = .pending)
    (turn : Turn) (world : World) : registry.heard plan chain turn world ≠ [] := by
  cases mode : plan.settings.mode with
  | sequential =>
    obtain ⟨provider, rest, named⟩ :=
      List.exists_cons_of_length_pos (Plan.hopCount_pos sound)
    rw [heard_eq sound pending]
    unfold Plan.hops
    rw [mode, named]
    dsimp only
    rw [Plan.sequential_cons plan provider rest 0 rfl]
    exact List.cons_ne_nil _ _
  | parallel =>
    have whole := registry.length_fan plan chain.input world
    rw [heard_parallel mode sound pending]
    intro nothing
    unfold fan at whole
    rw [nothing] at whole
    exact Nat.ne_of_lt (Plan.hopCount_pos sound) whole

theorem length_heard_le (sound : plan.fault? = none) (pending : chain.status = .pending)
    (turn : Turn) (world : World) :
    (registry.heard plan chain turn world).length ≤ plan.pattern.hopCount := by
  -- a hop beyond the pattern would bear an index for which the pattern has no provider
  have numbered := registry.numbered_heard sound pending turn world
  by_contra beyond
  have inside : plan.pattern.hopCount < (registry.heard plan chain turn world).length :=
    Nat.not_le.mp beyond
  obtain ⟨_, named⟩ := numbered plan.pattern.hopCount _
    (plan.getElem?_flight (List.getElem?_eq_getElem inside))
  exact Nat.lt_irrefl _ (List.getElem?_eq_some_iff.mp named).1

/-- **The first hop of the pattern is started.** -/
theorem exists_first (sound : plan.fault? = none) (pending : chain.status = .pending)
    (turn : Turn) (world : World) :
    ∃ provider, plan.pattern.providers[0]? = some provider ∧
      .hopStarted 0 provider ∈ (registry.perform plan chain turn world).events := by
  obtain ⟨exchange, later, heard⟩ :=
    List.exists_cons_of_ne_nil (registry.heard_ne_nil sound pending turn world)
  have departed := registry.departures sound pending turn world
  have numbered := registry.numbered_heard sound pending turn world
  rw [heard] at departed numbered
  obtain ⟨index, named⟩ := numbered 0 (plan.flight exchange) rfl
  have told : (plan.flight exchange).departure ∈
      (registry.perform plan chain turn world).events.filter Event.isHopStarted := by
    rw [departed]
    exact List.mem_cons_self
  unfold Flight.departure at told
  rw [index] at told
  exact ⟨_, named, List.mem_of_mem_filter told⟩

end Registry

end PromptRelay
