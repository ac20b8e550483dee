/-
**Chains with a history.**

A chain is asked for operations one after the other, each with any arguments, and takes or refuses
them. Whatever it was asked for, nothing is on a pending chain, a chain has a score and an answer
when it is completed and a time of its end when it has ended, and its records and its total cost are
those of the records that it took. Nothing changes a chain that has ended.

* `Operation`, `Chain.respond`: an operation, with what a chain answers to it and what becomes of
  the chain;
* `Operation.next?`: the status that an operation leads to from each status in which it is taken;
* `Chain.respond_of_next`, `Chain.respond_of_refused`: operations are taken and refused accordingly;
* `Chain.after`, `Chain.accepted`: a chain with a history, and the records that it has taken;
* `Chain.Sound`: what holds of such a chain, kept by each operation and so by all of them;
* `Chain.StablySorted`: records in the order of their indices, those of one index as they were;
* `Chain.reachable_iff_hasHistory`: the reachable chains are those with a history;
* `Chain.history_sound`: all of it, for every history.
-/

import PromptRelay.Proofs.Chain.Life
import PromptRelay.Proofs.Chain.Order

namespace PromptRelay

/-- What a chain may be asked for. -/
inductive Operation where
  | start
  | record (hop : HopRecord)
  | sortHops
  | complete (now : Timestamp) (metadata : ChainMetadata) (response : String)
  | fail (now : Timestamp)
  | forceFail (now : Timestamp)

namespace Operation

/-- The status that the operation leads to from another one, if it is taken there. -/
def next? : Operation → ChainStatus → Option ChainStatus
  | .start, .pending => some .running
  | .record _, .running => some .running
  | .sortHops, status => some status
  | .complete .., .running => some .completed
  | .fail _, .running => some .failed
  | .forceFail _, .pending => some .failed
  | .forceFail _, .running => some .failed
  | _, _ => none

/-- What is answered where the operation is refused: an error, or of a forced failure that there was
none. -/
def refusal (status : ChainStatus) : Operation → Except ChainError Bool
  | .start => .error (.invalidTransition status.word ChainStatus.running.word)
  | .record _ => .error (.invalidTransition status.word "record hop")
  | .complete .. => .error (.invalidTransition status.word ChainStatus.completed.word)
  | .fail _ => .error (.invalidTransition status.word ChainStatus.failed.word)
  | .sortHops | .forceFail _ => .ok false

end Operation

namespace Chain

variable {chain : Chain}

/-! ### One operation -/

/-- A step that is taken or refused, as an answer and what becomes of the chain. -/
def heed (chain : Chain) : Except ChainError Chain → Except ChainError Bool × Chain
  | .ok after => (.ok true, after)
  | .error error => (.error error, chain)

/-- What a chain answers to an operation, and what becomes of it. -/
def respond (chain : Chain) : Operation → Except ChainError Bool × Chain
  | .start => chain.heed chain.start
  | .record hop => chain.heed (chain.record hop)
  | .sortHops => (.ok true, chain.sortHops)
  | .complete now metadata response => chain.heed (chain.complete now metadata response)
  | .fail now => chain.heed (chain.fail now)
  | .forceFail now =>
    match chain.forceFail? now with
    | some failed => (.ok true, failed)
    | none => (.ok false, chain)

/-- A step that asks for a status is taken in it, and refused by name in every other one. -/
theorem heed_requireStatus (chain change : Chain) (wanted : ChainStatus) (target : String) :
    chain.heed (do chain.requireStatus wanted target; return change) =
      if chain.status = wanted then (.ok true, change)
      else (.error (.invalidTransition chain.status.word target), chain) := by
  unfold requireStatus
  by_cases holds : chain.status = wanted
  · rw [if_pos holds, if_pos holds]
    rfl
  · rw [if_neg holds, if_neg holds]
    rfl

theorem respond_start (chain : Chain) :
    chain.respond .start =
      if chain.status = .pending then (.ok true, { chain with status := .running })
      else (Operation.start.refusal chain.status, chain) :=
  heed_requireStatus _ _ _ _

theorem respond_record (chain : Chain) (hop : HopRecord) :
    chain.respond (.record hop) =
      if chain.status = .running then (.ok true, chain.withHops [hop])
      else ((Operation.record hop).refusal chain.status, chain) :=
  heed_requireStatus _ _ _ _

theorem respond_complete (chain : Chain) (now : Timestamp) (metadata : ChainMetadata)
    (response : String) :
    chain.respond (.complete now metadata response) =
      if chain.status = .running then
        (.ok true, { chain with
          status := .completed
          metadata := some metadata
          finalResponse := some response
          completedAt := some now })
      else ((Operation.complete now metadata response).refusal chain.status, chain) :=
  heed_requireStatus _ _ _ _

theorem respond_fail (chain : Chain) (now : Timestamp) :
    chain.respond (.fail now) =
      if chain.status = .running then
        (.ok true, { chain with status := .failed, completedAt := some now })
      else ((Operation.fail now).refusal chain.status, chain) :=
  heed_requireStatus _ _ _ _

theorem respond_forceFail (chain : Chain) (now : Timestamp) :
    chain.respond (.forceFail now) =
      if chain.status.isTerminal then ((Operation.forceFail now).refusal chain.status, chain)
      else (.ok true, { chain.sortHops with status := .failed, completedAt := some now }) := by
  by_cases ended : chain.status.isTerminal
  · have spared : chain.forceFail? now = none := if_pos ended
    rw [if_pos ended]
    unfold respond
    simp only [spared]
    rfl
  · have forced : chain.forceFail? now =
        some { chain.sortHops with status := .failed, completedAt := some now } := if_neg ended
    rw [if_neg ended]
    unfold respond
    simp only [forced]

/-- **An operation is taken** where it leads to a status, and the chain has this status then. -/
theorem respond_of_next {operation : Operation} {status : ChainStatus}
    (next : operation.next? chain.status = some status) :
    (chain.respond operation).1 = .ok true ∧ (chain.respond operation).2.status = status := by
  cases operation with
  | start =>
    rw [respond_start]
    cases stands : chain.status <;> rw [stands] at next <;> cases next
    exact ⟨rfl, rfl⟩
  | record hop =>
    rw [respond_record]
    cases stands : chain.status <;> rw [stands] at next <;> cases next
    exact ⟨rfl, stands⟩
  | sortHops =>
    cases next
    exact ⟨rfl, sortHops_status chain⟩
  | complete now metadata response =>
    rw [respond_complete]
    cases stands : chain.status <;> rw [stands] at next <;> cases next
    exact ⟨rfl, rfl⟩
  | fail now =>
    rw [respond_fail]
    cases stands : chain.status <;> rw [stands] at next <;> cases next
    exact ⟨rfl, rfl⟩
  | forceFail now =>
    rw [respond_forceFail]
    cases stands : chain.status <;> rw [stands] at next <;> cases next
    · exact ⟨rfl, rfl⟩
    · exact ⟨rfl, rfl⟩

/-- **An operation is refused** where it leads to no status, and the chain stays as it was. -/
theorem respond_of_refused {operation : Operation}
    (refused : operation.next? chain.status = none) :
    chain.respond operation = (operation.refusal chain.status, chain) := by
  cases operation with
  | start =>
    rw [respond_start]
    refine if_neg fun pending => ?_
    rw [pending] at refused
    cases refused
  | record hop =>
    rw [respond_record]
    refine if_neg fun running => ?_
    rw [running] at refused
    cases refused
  | sortHops => cases refused
  | complete now metadata response =>
    rw [respond_complete]
    refine if_neg fun running => ?_
    rw [running] at refused
    cases refused
  | fail now =>
    rw [respond_fail]
    refine if_neg fun running => ?_
    rw [running] at refused
    cases refused
  | forceFail now =>
    rw [respond_forceFail]
    refine if_pos ?_
    cases stands : chain.status <;> rw [stands] at refused
    · cases refused
    · cases refused
    · rfl
    · rfl

/-- Nothing changes a chain that has ended. -/
theorem respond_of_ended (ended : chain.status.isTerminal = true) (operation : Operation) :
    (chain.respond operation).2 = chain := by
  cases next : operation.next? chain.status with
  | none => rw [respond_of_refused next]
  | some status =>
    -- an ended chain is only sorted, and this leaves it
    cases operation with
    | sortHops => exact if_pos ended
    | start | record | complete | fail | forceFail =>
      cases stands : chain.status <;> rw [stands] at next ended
      · cases ended
      · cases ended
      · cases next
      · cases next

/-! ### Many operations -/

/-- The chain after operations, each taken or refused in its turn. -/
def after (chain : Chain) (operations : List Operation) : Chain :=
  operations.foldl (fun chain operation => (chain.respond operation).2) chain

/-- The record that a chain takes with an operation, if any. -/
def taken (chain : Chain) : Operation → List HopRecord
  | .record hop =>
    match (chain.respond (.record hop)).1 with
    | .ok _ => [hop]
    | .error _ => []
  | _ => []

/-- The records that a chain takes with operations, in the order in which it takes them. -/
def accepted : Chain → List Operation → List HopRecord
  | _, [] => []
  | chain, operation :: later =>
    chain.taken operation ++ (chain.respond operation).2.accepted later

/-- A chain that has ended is the same after any operations. -/
theorem after_of_ended (ended : chain.status.isTerminal = true) (operations : List Operation) :
    chain.after operations = chain := by
  induction operations with
  | nil => rfl
  | cons operation later hypothesis =>
    show (chain.respond operation).2.after later = chain
    rw [respond_of_ended ended]
    exact hypothesis

/-! ### What holds of a chain with a history -/

/-- What holds of a chain that has taken these records. -/
structure Sound (chain : Chain) (records : List HopRecord) : Prop where
  pending : chain.status = .pending → chain.hops = [] ∧ chain.totalCost = 0.0
  metadata : chain.metadata.isSome = true ↔ chain.status = .completed
  finalResponse : chain.finalResponse.isSome = true ↔ chain.status = .completed
  completedAt : chain.completedAt.isSome = true ↔ chain.status.isTerminal = true
  hops : chain.hops.Perm records
  totalCost : chain.totalCost = HopRecord.costFrom 0.0 records

theorem sound_new (id : ChainId) (createdAt : Timestamp) (patternName input : String) :
    (new id createdAt patternName input).Sound [] where
  pending _ := ⟨rfl, rfl⟩
  metadata := iff_of_false Bool.false_ne_true ChainStatus.noConfusion
  finalResponse := iff_of_false Bool.false_ne_true ChainStatus.noConfusion
  completedAt := iff_of_false Bool.false_ne_true Bool.false_ne_true
  hops := List.Perm.refl []
  totalCost := rfl

section Steps

variable {records : List HopRecord}

theorem Sound.sortHops (sound : chain.Sound records) : chain.sortHops.Sound records := by
  unfold Chain.sortHops
  by_cases ended : chain.status.isTerminal
  · rw [if_pos ended]
    exact sound
  · rw [if_neg ended]
    refine ⟨fun pending => ?_, sound.metadata, sound.finalResponse, sound.completedAt,
      (sortRecords_perm chain.hops).trans sound.hops, sound.totalCost⟩
    obtain ⟨none, free⟩ := sound.pending pending
    refine ⟨?_, free⟩
    show sortRecords chain.hops = []
    rw [none]
    exact List.mergeSort_nil

/-- A chain that has not ended may be started or fail, its costs and records as they were. -/
theorem Sound.moved (sound : chain.Sound records) (going : ¬ chain.status.isTerminal)
    {status : ChainStatus} {completedAt : Option Timestamp} (notPending : status ≠ .pending)
    (notCompleted : status ≠ .completed)
    (ends : completedAt.isSome = true ↔ status.isTerminal = true) :
    ({ chain with status, completedAt } : Chain).Sound records where
  pending pending := absurd pending notPending
  metadata := by
    refine iff_of_false (fun scored => ?_) notCompleted
    rw [sound.metadata.mp scored] at going
    exact going rfl
  finalResponse := by
    refine iff_of_false (fun answered => ?_) notCompleted
    rw [sound.finalResponse.mp answered] at going
    exact going rfl
  completedAt := ends
  hops := sound.hops
  totalCost := sound.totalCost

theorem Sound.started (sound : chain.Sound records) (pending : chain.status = .pending) :
    ({ chain with status := .running } : Chain).Sound records := by
  have going : ¬ chain.status.isTerminal := by
    rw [pending]
    exact Bool.false_ne_true
  refine sound.moved going ChainStatus.noConfusion ChainStatus.noConfusion ?_
  exact iff_of_false (mt sound.completedAt.mp going) Bool.false_ne_true

theorem Sound.recorded (sound : chain.Sound records) (running : chain.status = .running)
    (hop : HopRecord) : (chain.withHops [hop]).Sound (records ++ [hop]) where
  pending pending := by
    rw [withHops_status, running] at pending
    cases pending
  metadata := sound.metadata
  finalResponse := sound.finalResponse
  completedAt := sound.completedAt
  hops := sound.hops.append_right [hop]
  totalCost := by rw [withHops_totalCost, HopRecord.costFrom_append, ← sound.totalCost]

theorem Sound.completed (sound : chain.Sound records) (now : Timestamp) (metadata : ChainMetadata)
    (response : String) :
    ({ chain with
      status := .completed
      metadata := some metadata
      finalResponse := some response
      completedAt := some now } : Chain).Sound records where
  pending := ChainStatus.noConfusion
  metadata := iff_of_true rfl rfl
  finalResponse := iff_of_true rfl rfl
  completedAt := iff_of_true rfl rfl
  hops := sound.hops
  totalCost := sound.totalCost

/-- **Each operation keeps a chain sound**, with the record that the chain has taken with it. -/
theorem Sound.respond (sound : chain.Sound records) (operation : Operation) :
    (chain.respond operation).2.Sound (records ++ chain.taken operation) := by
  have same : ∀ other : Chain, other.Sound records → other.Sound (records ++ []) := by
    intro other stays
    rwa [List.append_nil]
  cases operation with
  | start =>
    refine same _ ?_
    rw [respond_start]
    by_cases pending : chain.status = .pending
    · rw [if_pos pending]
      exact sound.started pending
    · rw [if_neg pending]
      exact sound
  | record hop =>
    unfold taken
    dsimp only
    rw [respond_record]
    by_cases running : chain.status = .running
    · rw [if_pos running]
      exact sound.recorded running hop
    · rw [if_neg running]
      exact same chain sound
  | sortHops => exact same _ sound.sortHops
  | complete now metadata response =>
    refine same _ ?_
    rw [respond_complete]
    by_cases running : chain.status = .running
    · rw [if_pos running]
      exact sound.completed now metadata response
    · rw [if_neg running]
      exact sound
  | fail now =>
    refine same _ ?_
    rw [respond_fail]
    by_cases running : chain.status = .running
    · rw [if_pos running]
      refine sound.moved ?_ ChainStatus.noConfusion ChainStatus.noConfusion (iff_of_true rfl rfl)
      rw [running]
      exact Bool.false_ne_true
    · rw [if_neg running]
      exact sound
  | forceFail now =>
    refine same _ ?_
    rw [respond_forceFail]
    by_cases ended : chain.status.isTerminal
    · rw [if_pos ended]
      exact sound
    · rw [if_neg ended]
      refine sound.sortHops.moved ?_ ChainStatus.noConfusion ChainStatus.noConfusion
        (iff_of_true rfl rfl)
      rw [sortHops_status]
      exact ended

/-- All operations together keep it sound, with all the records that it has taken. -/
theorem Sound.after (sound : chain.Sound records) (operations : List Operation) :
    (chain.after operations).Sound (records ++ chain.accepted operations) := by
  induction operations generalizing chain records with
  | nil =>
    show chain.Sound (records ++ [])
    rwa [List.append_nil]
  | cons operation later hypothesis =>
    have stays := hypothesis (sound.respond operation)
    rw [List.append_assoc] at stays
    exact stays

end Steps

/-! ### Stable sorting -/

/-- The records are sorted by their indices, and those of one index keep their order. -/
structure StablySorted (hops sorted : List HopRecord) : Prop where
  perm : sorted.Perm hops
  ordered : sorted.Pairwise fun first second => first.index ≤ second.index
  stable : ∀ index, (sorted.filter fun hop => hop.index = index) =
    hops.filter fun hop => hop.index = index

theorem stablySorted_sortRecords (hops : List HopRecord) :
    StablySorted hops (sortRecords hops) where
  perm := sortRecords_perm hops
  ordered := sortRecords_sorted hops
  stable index := by
    have ofIndex : (hops.filter fun hop => hop.index = index).Pairwise
        fun first second => decide (first.index ≤ second.index) = true := by
      refine List.pairwise_of_forall_mem_list fun first member second other => ?_
      rw [of_decide_eq_true (List.mem_filter.mp member).2,
        of_decide_eq_true (List.mem_filter.mp other).2]
      exact decide_eq_true (Nat.le_refl index)
    have kept : (hops.filter fun hop => hop.index = index).Sublist (sortRecords hops) :=
      List.sublist_mergeSort (fun first second third => by simpa using Nat.le_trans)
        (fun first second => by simpa using Nat.le_total first.index second.index) ofIndex
        List.filter_sublist
    have within : (hops.filter fun hop => hop.index = index).Sublist
        ((sortRecords hops).filter fun hop => hop.index = index) := by
      simpa using kept.filter fun hop => hop.index = index
    have count := ((sortRecords_perm hops).filter fun hop => hop.index = index).length_eq
    exact (within.eq_of_length count.symm).symm

/-- Sorting changes nothing of a chain but the order of its records. -/
theorem sortHops_eq (chain : Chain) :
    chain.sortHops = { chain with hops := chain.sortHops.hops } := by
  unfold sortHops
  split
  · rfl
  · rfl

/-! ### Histories and reachable chains -/

/-- The chain comes of a new one by operations that it takes or refuses. -/
def HasHistory (chain : Chain) : Prop :=
  ∃ id createdAt patternName input operations,
    chain = (new id createdAt patternName input).after operations

/-- A chain with a history still has one after another operation. -/
theorem HasHistory.respond (history : chain.HasHistory) (operation : Operation) :
    (chain.respond operation).2.HasHistory := by
  obtain ⟨id, createdAt, patternName, input, operations, rfl⟩ := history
  refine ⟨id, createdAt, patternName, input, operations ++ [operation], ?_⟩
  unfold after
  rw [List.foldl_append]
  rfl

theorem HasHistory.heed {step : Except ChainError Chain} {after : Chain}
    (history : chain.HasHistory) (operation : Operation)
    (heeded : chain.respond operation = chain.heed step) (taken : step = .ok after) :
    after.HasHistory := by
  have becomes := history.respond operation
  rw [heeded, taken] at becomes
  exact becomes

/-- A step that is heeded leads to a reachable chain. -/
theorem Reachable.heed {step : Except ChainError Chain} (reached : chain.Reachable)
    (taken : ∀ after, step = .ok after → after.Reachable) : (chain.heed step).2.Reachable := by
  cases made : step with
  | ok after => exact taken after made
  | error error => exact reached

theorem respond_forceFail_snd (chain : Chain) (now : Timestamp) :
    (chain.respond (.forceFail now)).2 = chain.forceFail now := by
  unfold respond forceFail
  cases made : chain.forceFail? now <;> simp only [made] <;> rfl

theorem Reachable.respond (reached : chain.Reachable) (operation : Operation) :
    (chain.respond operation).2.Reachable := by
  cases operation with
  | start => exact reached.heed fun _ taken => reached.start taken
  | record hop => exact reached.heed fun _ taken => reached.record hop taken
  | sortHops => exact reached.sortHops
  | complete now metadata response =>
    exact reached.heed fun _ taken => reached.complete now metadata response taken
  | fail now => exact reached.heed fun _ taken => reached.fail now taken
  | forceFail now =>
    rw [respond_forceFail_snd]
    exact reached.forceFail now

theorem Reachable.after (reached : chain.Reachable) (operations : List Operation) :
    (chain.after operations).Reachable := by
  induction operations generalizing chain with
  | nil => exact reached
  | cons operation later hypothesis => exact hypothesis (reached.respond operation)

/-- **The reachable chains are those with a history.** -/
theorem reachable_iff_hasHistory : chain.Reachable ↔ chain.HasHistory := by
  constructor
  · intro reached
    induction reached with
    | new id createdAt patternName input =>
      exact ⟨id, createdAt, patternName, input, [], rfl⟩
    | start _ taken history => exact history.heed .start rfl taken
    | record _ hop taken history => exact history.heed (.record hop) rfl taken
    | sortHops _ history => exact history.respond .sortHops
    | complete _ now metadata response taken history =>
      exact history.heed (.complete now metadata response) rfl taken
    | fail _ now taken history => exact history.heed (.fail now) rfl taken
    | forceFail _ now history =>
      rw [← respond_forceFail_snd]
      exact history.respond (.forceFail now)
  · rintro ⟨id, createdAt, patternName, input, operations, rfl⟩
    exact (Reachable.new id createdAt patternName input).after operations

/-- **A chain with any history** holds what it has taken: its records are those in some order, its
total cost is theirs in the order in which it took them, nothing is on it while it is pending, it is
scored and answers when it is completed and has a time of its end when it has ended. It is sorted
stably unless it has ended, which changes nothing else. It takes the operations that lead on from
its status and has the status that they lead to; it refuses the others and stays as it was. Once it
has ended it stays as it is. -/
theorem history_sound (id : ChainId) (createdAt : Timestamp) (patternName input : String)
    (operations : List Operation) :
    let fresh := new id createdAt patternName input
    let chain := fresh.after operations
    chain.Sound (fresh.accepted operations) ∧
    chain.sortHops = { chain with hops := chain.sortHops.hops } ∧
    (chain.status.isTerminal = false → StablySorted chain.hops chain.sortHops.hops) ∧
    (∀ operation status, operation.next? chain.status = some status →
      (chain.respond operation).1 = .ok true ∧ (chain.respond operation).2.status = status) ∧
    (∀ operation, operation.next? chain.status = none →
      chain.respond operation = (operation.refusal chain.status, chain)) ∧
    (chain.status.isTerminal = true → ∀ later, chain.after later = chain) := by
  refine ⟨(sound_new id createdAt patternName input).after operations, sortHops_eq _,
    fun going => ?_, fun operation status => respond_of_next, fun operation => respond_of_refused,
    after_of_ended⟩
  unfold sortHops
  rw [going]
  exact stablySorted_sortRecords _

end Chain

end PromptRelay
