/-
**The life of a chain.**

Each step of a chain's life asks for one status and is refused in every other one. What a step makes
of a chain is said once here, together with the chains that the steps lead to:

* `Chain.withHops`: a chain with further records, whose costs are added one after the other;
* `Chain.start_eq_ok_iff`, `Chain.record_eq_ok_iff`, `Chain.complete_eq_ok_iff`,
  `Chain.fail_eq_ok_iff`: when a step is taken, and what it makes of the chain;
* `Chain.Reachable`: the chains that come of a new one by steps in any order;
* `Chain.Reachable.isFresh`: such a chain is as it was made for as long as it is pending.
-/

import PromptRelay.Chain.Basic

namespace PromptRelay

theorem ChainStatus.ne_pending_of_isTerminal {status : ChainStatus}
    (ended : status.isTerminal = true) : status ≠ .pending := by
  rintro rfl
  cases ended

namespace HopRecord

/-- A total cost after the costs of further records were added to it, one after the other. -/
def costFrom (total : Float) (hops : List HopRecord) : Float :=
  hops.foldl (fun total hop => total + hop.cost) total

theorem costFrom_append (total : Float) (first second : List HopRecord) :
    costFrom total (first ++ second) = costFrom (costFrom total first) second :=
  List.foldl_append

end HopRecord

namespace Chain

/-! ### Further records -/

/-- The chain with further records, their costs added to the total in their order. -/
def withHops (chain : Chain) (hops : List HopRecord) : Chain :=
  { chain with
    hops := chain.hops ++ hops
    totalCost := HopRecord.costFrom chain.totalCost hops }

@[simp]
theorem withHops_nil (chain : Chain) : chain.withHops [] = chain := by
  simp [withHops, HopRecord.costFrom]

theorem withHops_append (chain : Chain) (first second : List HopRecord) :
    chain.withHops (first ++ second) = (chain.withHops first).withHops second := by
  simp [withHops, HopRecord.costFrom_append]

@[simp]
theorem withHops_hops (chain : Chain) (hops : List HopRecord) :
    (chain.withHops hops).hops = chain.hops ++ hops := rfl

@[simp]
theorem withHops_totalCost (chain : Chain) (hops : List HopRecord) :
    (chain.withHops hops).totalCost = HopRecord.costFrom chain.totalCost hops := rfl

@[simp]
theorem withHops_status (chain : Chain) (hops : List HopRecord) :
    (chain.withHops hops).status = chain.status := rfl

/-- A chain on which no hop has succeeded has failures alone. -/
theorem successes_eq_nil_iff {chain : Chain} :
    chain.successes = [] ↔ ∀ record ∈ chain.hops, record.succeeded = false := by
  unfold successes
  rw [List.filter_eq_nil_iff]
  constructor
  · intro none record member
    exact Bool.eq_false_iff.mpr (none record member)
  · intro failures record member
    exact Bool.eq_false_iff.mp (failures record member)

/-! ### The steps -/

/-- A step is taken by the chains of the status it asks for. -/
theorem requireStatus_eq_ok_iff {chain change after : Chain} {wanted : ChainStatus}
    {target : String} :
    (do chain.requireStatus wanted target; return change) = Except.ok after ↔
      chain.status = wanted ∧ after = change := by
  unfold requireStatus
  by_cases holds : chain.status = wanted
  · rw [if_pos holds]
    constructor
    · intro taken
      exact ⟨holds, (Except.ok.inj taken).symm⟩
    · rintro ⟨_, rfl⟩
      rfl
  · rw [if_neg holds]
    constructor
    · intro taken
      cases taken
    · rintro ⟨same, _⟩
      exact absurd same holds

/-- A pending chain starts, and no other one does. -/
theorem start_eq_ok_iff {chain after : Chain} :
    chain.start = .ok after ↔
      chain.status = .pending ∧ after = { chain with status := .running } :=
  requireStatus_eq_ok_iff

/-- A running chain takes a record, and no other one does. -/
theorem record_eq_ok_iff {chain after : Chain} {hop : HopRecord} :
    chain.record hop = .ok after ↔
      chain.status = .running ∧ after = chain.withHops [hop] :=
  requireStatus_eq_ok_iff

theorem complete_eq_ok_iff {chain after : Chain} {now : Timestamp} {metadata : ChainMetadata}
    {response : String} :
    chain.complete now metadata response = .ok after ↔
      chain.status = .running ∧ after = { chain with
        status := .completed
        metadata := some metadata
        finalResponse := some response
        completedAt := some now } :=
  requireStatus_eq_ok_iff

theorem fail_eq_ok_iff {chain after : Chain} {now : Timestamp} :
    chain.fail now = .ok after ↔
      chain.status = .running ∧
        after = { chain with status := .failed, completedAt := some now } :=
  requireStatus_eq_ok_iff

theorem sortHops_of_running {chain : Chain} (running : chain.status = .running) :
    chain.sortHops = { chain with hops := sortRecords chain.hops } := by
  unfold sortHops
  rw [running]
  rfl

theorem forceFail_of_running {chain : Chain} (running : chain.status = .running)
    (now : Timestamp) :
    chain.forceFail now = { chain with
      hops := sortRecords chain.hops
      status := .failed
      completedAt := some now } := by
  unfold forceFail forceFail?
  rw [sortHops_of_running running, running]
  rfl

/-- A chain that has ended is not made to fail. -/
theorem forceFail_of_ended {chain : Chain} (ended : chain.status.isTerminal = true)
    (now : Timestamp) : chain.forceFail now = chain := by
  unfold forceFail forceFail?
  rw [if_pos ended]
  rfl

theorem forceFail_isTerminal (chain : Chain) (now : Timestamp) :
    (chain.forceFail now).status.isTerminal = true := by
  by_cases ended : chain.status.isTerminal = true
  · rw [forceFail_of_ended ended]
    exact ended
  · unfold forceFail forceFail?
    rw [if_neg ended]
    rfl

/-! ### The chains that the steps lead to -/

/-- The chains that come of a new one by steps in any order. -/
inductive Reachable : Chain → Prop where
  | new (id : ChainId) (createdAt : Timestamp) (patternName input : String) :
      Reachable (.new id createdAt patternName input)
  | start {chain after : Chain} (reached : Reachable chain) (taken : chain.start = .ok after) :
      Reachable after
  | record {chain after : Chain} (reached : Reachable chain) (hop : HopRecord)
      (taken : chain.record hop = .ok after) : Reachable after
  | sortHops {chain : Chain} (reached : Reachable chain) : Reachable chain.sortHops
  | complete {chain after : Chain} (reached : Reachable chain) (now : Timestamp)
      (metadata : ChainMetadata) (response : String)
      (taken : chain.complete now metadata response = .ok after) : Reachable after
  | fail {chain after : Chain} (reached : Reachable chain) (now : Timestamp)
      (taken : chain.fail now = .ok after) : Reachable after
  | forceFail {chain : Chain} (reached : Reachable chain) (now : Timestamp) :
      Reachable (chain.forceFail now)

/-- A pending chain on which nothing is recorded yet. -/
structure IsFresh (chain : Chain) : Prop where
  status : chain.status = .pending
  hops : chain.hops = []
  totalCost : chain.totalCost = 0.0
  completedAt : chain.completedAt = none
  metadata : chain.metadata = none
  finalResponse : chain.finalResponse = none

theorem isFresh_of_eq_new {chain : Chain} {id : ChainId} {createdAt : Timestamp}
    {patternName input : String} (made : chain = .new id createdAt patternName input) :
    chain.IsFresh := by
  subst made
  exact ⟨rfl, rfl, rfl, rfl, rfl, rfl⟩

theorem IsFresh.sortHops {chain : Chain} (fresh : chain.IsFresh) : chain.sortHops = chain := by
  have sorted : sortRecords chain.hops = chain.hops := by
    rw [fresh.hops]
    exact List.mergeSort_nil
  unfold Chain.sortHops
  rw [sorted, ite_self]

theorem IsFresh.forceFail {chain : Chain} (fresh : chain.IsFresh) (now : Timestamp) :
    chain.forceFail now = { chain with status := .failed, completedAt := some now } := by
  unfold Chain.forceFail forceFail?
  rw [fresh.sortHops, fresh.status]
  rfl

theorem sortHops_status (chain : Chain) : chain.sortHops.status = chain.status := by
  unfold sortHops
  split <;> rfl

/-- No chain is pending once it was made to fail. -/
theorem forceFail_status_ne_pending (chain : Chain) (now : Timestamp) :
    (chain.forceFail now).status ≠ .pending :=
  ChainStatus.ne_pending_of_isTerminal (chain.forceFail_isTerminal now)

/-- **Pending chains are fresh**: no step leads back to a pending chain, and none but putting in
order leaves it one. -/
theorem Reachable.isFresh {chain : Chain} (reachable : chain.Reachable)
    (pending : chain.status = .pending) : chain.IsFresh := by
  induction reachable with
  | new id createdAt patternName input => exact ⟨rfl, rfl, rfl, rfl, rfl, rfl⟩
  | start _ taken _ =>
    rw [(start_eq_ok_iff.mp taken).2] at pending
    cases pending
  | record _ hop taken _ =>
    obtain ⟨running, rfl⟩ := record_eq_ok_iff.mp taken
    rw [withHops_status, running] at pending
    cases pending
  | sortHops _ hypothesis =>
    have fresh := hypothesis (by rwa [sortHops_status] at pending)
    rw [fresh.sortHops]
    exact fresh
  | complete _ now metadata response taken _ =>
    rw [(complete_eq_ok_iff.mp taken).2] at pending
    cases pending
  | fail _ now taken _ =>
    rw [(fail_eq_ok_iff.mp taken).2] at pending
    cases pending
  | forceFail _ now _ => exact absurd pending (forceFail_status_ne_pending _ now)

end Chain

end PromptRelay
