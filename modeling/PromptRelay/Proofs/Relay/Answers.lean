/-
**What comes of a request.**

A request is halted by the first thing in its way, or a plan is run for it. Either way it is settled
what is answered, what the clients are handed, and why the request has failed, if it has.

* `Registry.answered`, `Registry.handed`, `Registry.cause?`: the three of them;
* `Relay.Obstacle`, `Relay.Obstacle.unique`: the first thing that is in the way of a request, its
  pattern's name or its plan;
* `Relay.Serves`: the two ways in which a request comes out;
* `Registry.serves`: there is no other way;
* `Relay.Serves.cause_cases`: a request is halted by an obstacle, or fails with an error of a run.
-/

import PromptRelay.Proofs.Pattern.Selection
import PromptRelay.Proofs.Run.Attempts
import PromptRelay.Relay.Basic

namespace PromptRelay

variable {World : Type}

namespace Execution

/-- Why a run has failed, if it has. -/
def cause? (execution : Execution) : Option ChainError :=
  match execution.outcome with
  | .error error => some error
  | .ok _ => none

variable {execution : Execution}

theorem cause?_eq_some_iff {error : ChainError} :
    execution.cause? = some error ↔ execution.outcome = .error error := by
  unfold cause?
  cases execution.outcome with
  | ok text => exact iff_of_false (Option.some_ne_none error).symm fun same => by cases same
  | error other => simp only [Option.some.injEq, Except.error.injEq]

theorem cause?_eq_none_iff : execution.cause? = none ↔ ∃ text, execution.outcome = .ok text := by
  unfold cause?
  cases execution.outcome with
  | ok text => exact iff_of_true rfl ⟨text, rfl⟩
  | error error =>
    exact iff_of_false (Option.some_ne_none error) fun ⟨text, same⟩ => by cases same

end Execution

namespace Relay

/-! ### What is in the way of a request -/

/-- What is in the way of a request: there is no pattern of the name that it gives, or else
something is wrong with the plan of the pattern that was picked. -/
inductive Obstacle (relay : Relay) (request : RelayRequest) : ChainError → Prop where
  | unknownPattern {name : String} (named : request.patternName = some name)
      (unknown : ∀ pattern ∈ relay.selector.patterns.patterns, pattern.name ≠ name) :
      Obstacle relay request (.unknownPatternName name)
  | flaw {pattern : HopPattern} {error : ChainError}
      (selected : relay.selector.select request.wish = .ok pattern)
      (flaw : (relay.plan request pattern).Flaw error) : Obstacle relay request error

namespace Obstacle

variable {relay : Relay} {request : RelayRequest} {error : ChainError}

theorem isPreflight (obstacle : relay.Obstacle request error) : error.isPreflight = true := by
  cases obstacle with
  | unknownPattern named unknown => rfl
  | flaw selected flaw => exact flaw.isPreflight

/-- What is in the way of a request is found when its pattern is picked, or is the fault of its
plan. -/
theorem cases_select (obstacle : relay.Obstacle request error) :
    relay.selector.select request.wish = .error error ∨
      ∃ pattern, relay.selector.select request.wish = .ok pattern ∧
        (relay.plan request pattern).fault? = some error := by
  cases obstacle with
  | unknownPattern named unknown =>
    exact .inl (Selector.select_eq_error_iff.mpr ⟨_, named, unknown, rfl⟩)
  | flaw selected flaw => exact .inr ⟨_, selected, Plan.fault?_eq_some_iff.mpr flaw⟩

theorem fault?_of_selected {pattern : HopPattern}
    (selected : relay.selector.select request.wish = .ok pattern)
    (obstacle : relay.Obstacle request error) :
    (relay.plan request pattern).fault? = some error := by
  rcases obstacle.cases_select with unselected | ⟨other, same, fault⟩
  · rw [selected] at unselected
    cases unselected
  · rw [selected] at same
    cases same
    exact fault

/-- Nothing is in the way of a request whose pattern was picked and whose plan has no fault. -/
theorem not_of_sound {pattern : HopPattern}
    (selected : relay.selector.select request.wish = .ok pattern)
    (sound : (relay.plan request pattern).fault? = none) : ¬ relay.Obstacle request error := by
  intro obstacle
  have fault := obstacle.fault?_of_selected selected
  rw [sound] at fault
  cases fault

/-- **Only one thing is in the way** of a request, the first one. -/
theorem unique {other : ChainError} (first : relay.Obstacle request error)
    (second : relay.Obstacle request other) : error = other := by
  rcases first.cases_select with unselected | ⟨pattern, selected, fault⟩
  · rcases second.cases_select with same | ⟨pattern, selected, _⟩
    · exact Except.error.inj (unselected.symm.trans same)
    · rw [unselected] at selected
      cases selected
  · exact Option.some.inj (fault.symm.trans (second.fault?_of_selected selected))

end Obstacle

end Relay

/-- A request is answered by its error alone: no hop was started or recorded. -/
structure Answered.Halts (answered : Answered) (error : ChainError) : Prop where
  response : answered.response = .failed answered.chain error
  hops : answered.chain.hops = []
  started : answered.events.filter Event.isHopStarted = []
  completed : answered.events.filter Event.isHopCompleted = []

/-! ### The ways in which a request comes out -/

namespace Registry

section Request

variable (registry : Registry (StateM World)) (relay : Relay) (id : ChainId) (now : Timestamp)
  (request : RelayRequest) (turn : Turn) (world : World)

/-- What a request is answered, where the clients of a registry answer from a world. -/
def answered : Answered :=
  ((relay.answer id now request turn).run (registry.answer relay.catalog) world).1

/-- What the clients are handed for a request, in the order in which they are handed it. -/
def handed : List Delivery :=
  ((relay.answer id now request turn).run (registry.noting.answer relay.catalog) (world, [])).2.2

/-- Why a request fails, if it does: there is no pattern for it, or the run of its plan has
failed. -/
def cause? : Option ChainError :=
  match relay.selector.select request.wish with
  | .error error => some error
  | .ok pattern =>
    (registry.perform (relay.plan request pattern) (.new id now pattern.name request.text) turn
      world).cause?

end Request

end Registry

namespace Relay

/-- The ways in which a request comes out: what it is answered, what the clients are handed, and why
it has failed, if it has. -/
inductive Serves (relay : Relay) (registry : Registry (StateM World)) (id : ChainId)
    (now : Timestamp) (request : RelayRequest) (turn : Turn) (world : World) :
    Answered → List Delivery → Option ChainError → Prop where
  /-- An obstacle halts it. -/
  | halted {error : ChainError} {answered : Answered} (obstacle : relay.Obstacle request error)
      (halts : answered.Halts error) :
      Serves relay registry id now request turn world answered [] (some error)
  /-- The plan of its pattern is run. -/
  | started {pattern : HopPattern} {plan : Plan} {chain : Chain}
      (selected : relay.selector.select request.wish = .ok pattern)
      (planned : plan = relay.plan request pattern)
      (made : chain = .new id now pattern.name request.text) (sound : plan.fault? = none) :
      Serves relay registry id now request turn world
        (.ofExecution (registry.perform plan chain turn world))
        (registry.deliveries plan chain turn world)
        (registry.perform plan chain turn world).cause?

end Relay

namespace Registry

variable (registry : Registry (StateM World)) (relay : Relay) (id : ChainId) (now : Timestamp)
  (request : RelayRequest) (turn : Turn) (world : World)

variable {relay request} in
/-- A request whose pattern was picked comes out as the run of its plan does. -/
theorem answered_of_selected {pattern : HopPattern}
    (selected : relay.selector.select request.wish = .ok pattern) :
    let plan := relay.plan request pattern
    let chain := Chain.new id now pattern.name request.text
    registry.answered relay id now request turn world =
        .ofExecution (registry.perform plan chain turn world) ∧
      registry.handed relay id now request turn world =
        registry.deliveries plan chain turn world ∧
      registry.cause? relay id now request turn world =
        (registry.perform plan chain turn world).cause? := by
  unfold answered handed cause? Relay.answer
  rw [selected]
  dsimp only
  rw [Dialogue.run_map, Dialogue.run_map]
  exact ⟨rfl, rfl, rfl⟩

/-- **A request comes out** in one of these ways. -/
theorem serves : relay.Serves registry id now request turn world
    (registry.answered relay id now request turn world)
    (registry.handed relay id now request turn world)
    (registry.cause? relay id now request turn world) := by
  have noHops : ∀ (name : String) (later : Timestamp),
      ((Chain.new id now name request.text).forceFail later).hops = [] := by
    intro name later
    rw [(Chain.isFresh_of_eq_new rfl).forceFail]
    rfl
  cases selected : relay.selector.select request.wish with
  | error error =>
    obtain ⟨name, named, unknown, rfl⟩ := Selector.select_eq_error_iff.mp selected
    unfold answered handed cause? Relay.answer
    rw [selected]
    exact .halted (.unknownPattern named unknown) ⟨rfl, noHops _ _, rfl, rfl⟩
  | ok pattern =>
    obtain ⟨answered, handed, cause⟩ :=
      registry.answered_of_selected id now turn world selected
    rw [answered, handed, cause]
    cases fault : (relay.plan request pattern).fault? with
    | none => exact .started selected rfl rfl fault
    | some error =>
      obtain ⟨refused, silent⟩ :=
        registry.perform_of_fault (relay.plan request pattern) turn world fault
      rw [refused, silent]
      exact .halted (.flaw selected (Plan.fault?_eq_some_iff.mp fault)) ⟨rfl, noHops _ _, rfl, rfl⟩

end Registry

/-- **A request is halted by an obstacle, or fails with an error of a run.** -/
theorem Relay.Serves.cause_cases {relay : Relay} {registry : Registry (StateM World)}
    {id : ChainId} {now : Timestamp} {request : RelayRequest} {turn : Turn} {world : World}
    {answered : Answered} {handed : List Delivery} {cause : Option ChainError} {error : ChainError}
    (serves : relay.Serves registry id now request turn world answered handed cause)
    (failed : cause = some error) :
    (relay.Obstacle request error ∧ answered.Halts error ∧ handed = []) ∨
      error.isOfRun = true := by
  cases serves with
  | halted obstacle halts =>
    cases failed
    exact .inl ⟨obstacle, halts, rfl⟩
  | started selected planned made sound =>
    have ends := registry.ends sound (Chain.isFresh_of_eq_new made).status turn world
    exact .inr (ends.badly error (Execution.cause?_eq_some_iff.mp failed)).2

end PromptRelay
