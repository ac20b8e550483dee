/-
**The four ways in which a run ends.**

A run of a plan without a fault on a pending chain ends well, or because all hops failed, or because
a failure aborted it, or because its time limit came first. Each outcome says where the chain stands
and which hops it has recorded, and there is no other outcome.

* `Execution.Completes`, `Execution.Barren`, `Execution.Aborts`, `Execution.TimesOut`: what the four
  outcomes say;
* `Execution.Classified`: an execution has one of these outcomes, and is as it says;
* `SequentialRun.classified`, `ParallelRun.classified`: the runs of either mode are;
* `Registry.outcome_classified`: so is the run of every plan.
-/

import PromptRelay.Proofs.Run.Legs
import PromptRelay.Proofs.Run.Fan

namespace PromptRelay

variable {World : Type}

namespace Execution

/-! ### The outcomes -/

/-- The indices of the hops that were started and are not recorded. -/
def unrecorded (execution : Execution) : List Nat :=
  (execution.events.filterMap Event.startedIndex?).filter fun index =>
    index ∉ execution.chain.hops.map HopRecord.index

/-- The chain is completed with an answer, and some hop succeeded. -/
structure Completes (execution : Execution) (text : String) : Prop where
  status : execution.chain.status = .completed
  success : ∃ record ∈ execution.chain.hops, record.succeeded = true
  metadata : execution.chain.metadata.isSome = true
  response : execution.chain.finalResponse = some text

/-- The chain has failed with every hop of the pattern, and nothing could keep the run from going on
to the last one. -/
structure Barren (plan : Plan) (execution : Execution) (attempted : Nat) : Prop where
  status : execution.chain.status = .failed
  count : attempted = execution.chain.hops.length
  whole : attempted = plan.pattern.hopCount
  indices : execution.chain.hops.map HopRecord.index = List.range plan.pattern.hopCount
  failures : ∀ record ∈ execution.chain.hops, record.succeeded = false
  goesOn : plan.settings.mode = .parallel ∨ plan.settings.policy = .continue

/-- The chain has failed with the hop of an index, and every hop before it succeeded. -/
structure Aborts (plan : Plan) (execution : Execution) (index : Nat) (provider : String)
    (source : HopError) : Prop where
  mode : plan.settings.mode = .sequential
  policy : plan.settings.policy = .abort
  status : execution.chain.status = .failed
  indices : execution.chain.hops.map HopRecord.index = List.range (index + 1)
  successes : ∀ place < index,
    ∃ record, execution.chain.hops[place]? = some record ∧ record.succeeded = true
  answers : plan.pattern.providers[index]? = some provider
  failure : ∃ record, execution.chain.hops[index]? = some record ∧ record.succeeded = false ∧
    record.provider = provider ∧ record.failureReason = some source.message ∧
    record.failureKind = some source.kind

/-- The chain has failed with the time limit, and a hop that was started is not recorded. One hop
after the other there is one such hop. -/
structure TimesOut (plan : Plan) (execution : Execution) (milliseconds : Nat) : Prop where
  limit : milliseconds = plan.settings.chainTimeout
  status : execution.chain.status = .failed
  unrecorded : execution.unrecorded ≠ []
  single : plan.settings.mode = .sequential → execution.unrecorded.length = 1

/-- The execution has one of the four outcomes, and is as this outcome says. -/
def Classified (plan : Plan) (execution : Execution) : Prop :=
  match execution.outcome with
  | .ok text => execution.Completes text
  | .error (.allHopsFailed attempted) => execution.Barren plan attempted
  | .error (.hopAborted index provider source) => execution.Aborts plan index provider source
  | .error (.chainTimeoutExceeded milliseconds) => execution.TimesOut plan milliseconds
  | .error _ => False

end Execution

namespace Progress

variable {progress : Progress} {plan : Plan}

theorem completes_of_success (someSuccess : progress.chain.successes ≠ []) :
    (progress.completion plan).Completes (progress.response plan) := by
  obtain ⟨record, member⟩ := List.exists_mem_of_ne_nil _ someSuccess
  exact ⟨rfl, ⟨record, List.mem_of_mem_filter member, (List.mem_filter.mp member).2⟩, rfl, rfl⟩

end Progress

/-- A run that failures abort goes on after successes alone. -/
theorem Plan.succeeded_of_lt {plan : Plan} (abort : plan.settings.policy = .abort) (total : Float)
    (flights : List Flight) {place : Nat}
    (notLast : place + 1 < (plan.course total flights).length) :
    ∃ flight, flights[place]? = some flight ∧ flight.record.succeeded = true := by
  have begins := plan.course_prefix total flights
  have found := List.getElem?_eq_getElem (Nat.lt_of_succ_lt notLast)
  have going := plan.not_halts_of_lt total flights found notLast
  refine ⟨_, Flight.getElem?_of_begins begins found, (Flight.record_succeeded_iff _).mpr ?_⟩
  cases seen : (plan.course total flights)[place].seen.result with
  | ok output => exact ⟨output, rfl⟩
  | error source =>
    rw [(halts_of_error seen _).mpr abort] at going
    cases going

namespace SequentialRun

variable {plan : Plan} {chain : Chain} {turn : Turn} {legs : List Flight}
  {stopped : Progress × Ending} {execution : Execution}

/-! ### One hop after the other -/

/-- A run in which every hop failed went through the whole pattern, and its policy is to go on. -/
theorem barren (run : SequentialRun plan chain turn legs stopped execution)
    (someHop : 0 < plan.pattern.hopCount) (settled : stopped.2 = .settled)
    (noSuccess : stopped.1.chain.successes = []) :
    plan.kept (plan.opened chain turn) legs = legs ∧ plan.settings.policy = .continue := by
  rw [Chain.successes_eq_nil_iff, run.stoppedHops] at noSuccess
  cases run.stops with
  | cut next rest course => cases settled
  | aborted last source whole isLast failed abort => cases settled
  | overspent last output whole isLast answered beyond left =>
    have member := List.mem_of_getLast? isLast
    have failure := noSuccess last.record (List.mem_map_of_mem member)
    rw [Flight.record_succeeded_of_ok answered] at failure
    cases failure
  | finished whole course goesOn =>
    refine ⟨whole, ?_⟩
    rw [← run.length] at someHop
    obtain ⟨last, isLast⟩ : ∃ last, legs.getLast? = some last :=
      ⟨_, List.getLast?_eq_getLast_of_ne_nil (List.ne_nil_of_length_pos someHop)⟩
    have member := List.mem_of_getLast? isLast
    rw [whole] at noSuccess
    have failure := noSuccess last.record (List.mem_map_of_mem member)
    cases seen : last.seen.result with
    | ok output =>
      rw [Flight.record_succeeded_of_ok seen] at failure
      cases failure
    | error source => exact goesOn last source isLast seen

/-- The hop at a place of what is kept has a record at this place. -/
theorem hops_getElem? (run : SequentialRun plan chain turn legs stopped execution) {place : Nat}
    {flight : Flight} (found : legs[place]? = some flight)
    (recorded : place < execution.chain.hops.length) :
    execution.chain.hops[place]? = some flight.record := by
  obtain ⟨rest, split⟩ := plan.kept_prefix (plan.opened chain turn) legs
  rw [run.hops, List.length_map] at recorded
  rw [← split, List.getElem?_append_left recorded] at found
  rw [run.hops, List.getElem?_map, found]
  rfl

/-- **A run that a failure aborted** is as this outcome says. -/
theorem aborts (run : SequentialRun plan chain turn legs stopped execution)
    (inTurn : plan.settings.mode = .sequential) {last : Flight} {source : HopError}
    (whole : plan.kept (plan.opened chain turn) legs =
      plan.course (plan.opened chain turn).chain.totalCost legs)
    (isLast : (plan.kept (plan.opened chain turn) legs).getLast? = some last)
    (failed : last.seen.result = .error source) (abort : plan.settings.policy = .abort)
    (status : execution.chain.status = .failed) :
    execution.Aborts plan last.call.index last.call.provider source := by
  obtain ⟨earlier, split⟩ := List.getLast?_eq_some_iff.mp isLast
  have found : (plan.kept (plan.opened chain turn) legs)[earlier.length]? = some last := by
    rw [split]
    exact List.getElem?_concat_length
  obtain ⟨index, provider⟩ := run.numberedKept _ _ found
  have count : execution.chain.hops.length = last.call.index + 1 := by
    rw [run.hops, split, List.length_map, List.length_append, index]
    rfl
  have inLegs := Flight.getElem?_of_begins (plan.kept_prefix (plan.opened chain turn) legs) found
  rw [← index] at provider inLegs
  refine ⟨inTurn, abort, status, ?_, fun place before => ?_, provider, last.record, ?_, ?_⟩
  · rw [run.hops_index, count]
  · have recorded : place < execution.chain.hops.length := by omega
    have notLast : place + 1 <
        (plan.course (plan.opened chain turn).chain.totalCost legs).length := by
      rw [← whole, ← List.length_map Flight.record, ← run.hops]
      omega
    obtain ⟨flight, inside, succeeded⟩ := Plan.succeeded_of_lt abort _ legs notLast
    exact ⟨flight.record, run.hops_getElem? inside recorded, succeeded⟩
  · exact run.hops_getElem? inLegs (by omega)
  · rw [Flight.record_of_error failed]
    exact ⟨rfl, rfl, rfl, rfl⟩

/-- A run that its time limit cuts has started one hop that it does not record. -/
theorem unrecorded (run : SequentialRun plan chain turn legs stopped execution)
    (timedOut : stopped.2 = .timedOut) :
    execution.unrecorded = [execution.chain.hops.length] := by
  unfold Execution.unrecorded
  rw [run.started.1, if_pos timedOut, run.hops_index, List.range_succ, List.filter_append]
  have old : (List.range execution.chain.hops.length).filter
      (fun index => index ∉ List.range execution.chain.hops.length) = [] := by
    apply List.filter_eq_nil_iff.mpr
    intro index member
    simpa using List.mem_range.mp member
  rw [old]
  simp

/-- **A run one hop after the other** has one of the four outcomes, and is as it says. -/
theorem classified (run : SequentialRun plan chain turn legs stopped execution)
    (inTurn : plan.settings.mode = .sequential) (someHop : 0 < plan.pattern.hopCount) :
    execution.Classified plan := by
  obtain ⟨progress, ending⟩ := stopped
  have running := run.running
  cases run.concluded with
  | failed error =>
    cases run.stops with
    | aborted last source whole isLast failed abort =>
      exact run.aborts inTurn whole isLast failed abort (Progress.failWith_status _ running _)
  | timedOut =>
    have left := run.unrecorded rfl
    refine ⟨rfl, (progress.atLimit plan).failWith_status running _, ?_, ?_⟩
    · rw [left]
      exact List.cons_ne_nil _ _
    · intro _
      rw [left]
      rfl
  | barren noSuccess =>
    obtain ⟨whole, goesOn⟩ := run.barren someHop rfl noSuccess
    have count : progress.chain.hops.length = plan.pattern.hopCount := by
      rw [run.stoppedHops, whole, List.length_map, run.length]
    have hops := run.hops
    rw [← run.stoppedHops] at hops
    refine ⟨progress.failWith_status running _, ?_, count, ?_, ?_, .inr goesOn⟩
    · rw [hops]
    · rw [run.hops_index, hops, count]
    · rw [hops]
      exact Chain.successes_eq_nil_iff.mp noSuccess
  | fruitful someSuccess => exact Progress.completes_of_success someSuccess

end SequentialRun

namespace ParallelRun

variable {plan : Plan} {chain : Chain} {turn : Turn} {flights : List Flight}
  {stopped : Progress × Ending} {execution : Execution}

/-! ### All hops at once -/

/-- A run that its time limit cuts has started a hop that it does not record. -/
theorem unrecorded_ne_nil (run : ParallelRun plan chain turn flights stopped execution)
    (timedOut : stopped.2 = .timedOut) : execution.unrecorded ≠ [] := by
  obtain ⟨flight, member, left⟩ := Flight.exists_not_lands run.positive turn run.numbered
    (run.timedOut_iff.mp timedOut)
  refine List.ne_nil_of_mem (a := flight.call.index) (List.mem_filter.mpr ⟨?_, ?_⟩)
  · rw [run.started, List.mem_range, ← run.length]
    exact run.numbered.index_lt member
  · rw [run.hops, List.map_map, decide_eq_true_iff]
    intro recorded
    obtain ⟨other, landed, same⟩ := List.mem_map.mp recorded
    obtain ⟨inside, lands⟩ := List.mem_filter.mp landed
    rw [run.numbered.eq_of_index_eq inside member (by simpa using same)] at lands
    exact left lands

/-- **A run of all hops at once** has one of the four outcomes, and is as it says. -/
theorem classified (run : ParallelRun plan chain turn flights stopped execution)
    (together : plan.settings.mode = .parallel) : execution.Classified plan := by
  obtain ⟨progress, ending⟩ := stopped
  have running := run.running
  cases run.concluded with
  | failed error => cases run.lands
  | timedOut =>
    refine ⟨rfl, (progress.atLimit plan).failWith_status running _,
      run.unrecorded_ne_nil rfl, fun inTurn => ?_⟩
    rw [together] at inTurn
    cases inTurn
  | barren noSuccess =>
    have hops := run.hops_of_settled rfl
    have stays := run.hops.trans (run.stoppedHops rfl).symm
    have count : progress.chain.hops.length = plan.pattern.hopCount := by
      rw [← stays, hops, List.length_map, run.length]
    refine ⟨progress.failWith_status running _, ?_, count, ?_, ?_, .inl together⟩
    · rw [stays]
    · rw [hops, run.numbered.map_index, run.length]
    · rw [stays]
      exact Chain.successes_eq_nil_iff.mp noSuccess
  | fruitful someSuccess => exact Progress.completes_of_success someSuccess

end ParallelRun

namespace Registry

/-- **A run has one of four outcomes.** It ends well, or all hops have failed, or a failure has
aborted it, or its time limit has come first; and in each case the chain stands and has recorded
what the outcome says. -/
theorem outcome_classified (registry : Registry (StateM World)) (plan : Plan) (chain : Chain)
    (turn : Turn) (world : World) (sound : plan.fault? = none) (reachable : chain.Reachable)
    (pending : chain.status = .pending) :
    (registry.perform plan chain turn world).Classified plan := by
  have fresh := reachable.isFresh pending
  cases mode : plan.settings.mode with
  | sequential =>
    obtain ⟨stopped, run⟩ := registry.sequentialRun mode sound fresh turn world
    exact run.classified mode (Plan.hopCount_pos sound)
  | parallel =>
    obtain ⟨stopped, run⟩ := registry.parallelRun mode sound fresh turn world
    exact run.classified mode

/-- Of three hops the second one fails, and so it aborts the run. -/
theorem outcome_classified_solo :
    let plan := Plan.solo 3 { policy := .abort }
    let execution := rehearsed.perform plan .solo .free
      (.solo [⟨10, .ok ⟨"It is I.", 4, 0.1⟩⟩, ⟨5, .error (.credentialMissing "no key")⟩])
    execution.outcome = .error (.hopAborted 1 "solo" (.credentialMissing "no key")) ∧
      execution.Aborts plan 1 "solo" (.credentialMissing "no key") := by
  have classified := outcome_classified rehearsed (.solo 3 { policy := .abort }) .solo .free
    (.solo [⟨10, .ok ⟨"It is I.", 4, 0.1⟩⟩, ⟨5, .error (.credentialMissing "no key")⟩])
    (by decide +kernel) Chain.solo_reachable rfl
  have outcome : (rehearsed.perform (.solo 3 { policy := .abort }) .solo .free
      (.solo [⟨10, .ok ⟨"It is I.", 4, 0.1⟩⟩,
        ⟨5, .error (.credentialMissing "no key")⟩])).outcome =
      .error (.hopAborted 1 "solo" (.credentialMissing "no key")) := by
    rfl
  unfold Execution.Classified at classified
  rw [outcome] at classified
  exact ⟨outcome, classified⟩

end Registry

end PromptRelay
