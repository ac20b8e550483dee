/-
**Status and options of a chain.**

* `ChainStatus`: where a chain stands in its life;
* `ExecutionMode`: one hop after the other, or all at once;
* `FallbackPolicy`: what a failed hop does to the chain.
-/

namespace PromptRelay

/-- Where a chain stands in its life. -/
inductive ChainStatus where
  | pending
  | running
  | completed
  | failed
  deriving DecidableEq, Repr, Inhabited

namespace ChainStatus

/-- All statuses, in the order of a chain's life. -/
def all : List ChainStatus :=
  [.pending, .running, .completed, .failed]

/-- The word for a status. -/
def word : ChainStatus → String
  | .pending => "pending"
  | .running => "running"
  | .completed => "completed"
  | .failed => "failed"

/-- Nothing changes a chain any more. -/
def isTerminal : ChainStatus → Bool
  | .completed | .failed => true
  | .pending | .running => false

end ChainStatus

/-- How the hops of a pattern are issued. -/
inductive ExecutionMode where
  /-- One hop after the other, each with the answers before it. -/
  | sequential
  /-- All hops at once, each with the question alone. -/
  | parallel
  deriving DecidableEq, Repr, Inhabited

namespace ExecutionMode

/-- Both modes. -/
def all : List ExecutionMode :=
  [.sequential, .parallel]

/-- The word for a mode. -/
def word : ExecutionMode → String
  | .sequential => "sequential"
  | .parallel => "parallel"

end ExecutionMode

/-- What a failed hop does to a sequential chain. -/
inductive FallbackPolicy where
  /-- The failure is recorded and the next hop goes on without it. -/
  | continue
  /-- The chain fails with the hop. -/
  | abort
  deriving DecidableEq, Repr, Inhabited

namespace FallbackPolicy

/-- Both policies. -/
def all : List FallbackPolicy :=
  [.continue, .abort]

/-- The word for a policy. -/
def word : FallbackPolicy → String
  | .continue => "continue"
  | .abort => "abort"

end FallbackPolicy

/-- A coarse label for a chain, from its hop count, quality and diversity. -/
inductive RarityTier where
  | normal
  | rare
  | legendary
  deriving DecidableEq, Repr, Inhabited

namespace RarityTier

/-- All tiers, the commonest first. -/
def all : List RarityTier :=
  [.normal, .rare, .legendary]

/-- The word for a tier. -/
def word : RarityTier → String
  | .normal => "normal"
  | .rare => "rare"
  | .legendary => "legendary"

/-- The tier of a number of successful hops with their quality and diversity, which have to exceed
the marks. -/
def classify (successes : Nat) (quality diversity : Float) : RarityTier :=
  if 6 ≤ successes && 0.9 < quality && 0.7 < diversity then .legendary
  else if 4 ≤ successes && 0.8 < quality && 0.5 < diversity then .rare
  else .normal

end RarityTier

end PromptRelay
