/-
**What the caller is told of a chain.**

* `HopView`: a record without its prompt;
* `ChainResponse`: the whole answer, successful or not;
* `ChainResponse.completed`, `ChainResponse.failed`: the answer for a chain that ended either way.
-/

import PromptRelay.Chain.Synthesis

namespace PromptRelay

/-- What the caller sees of a hop. -/
structure HopView where
  index : Nat
  provider : String
  content : Option String
  tokens : Nat
  cost : Float
  duration : Nat
  succeeded : Bool
  failureReason : Option String
  deriving DecidableEq, Inhabited

/-- The view of a record. -/
def HopRecord.view (hop : HopRecord) : HopView where
  index := hop.index
  provider := hop.provider
  content := hop.content
  tokens := hop.tokens
  cost := hop.cost
  duration := hop.duration
  succeeded := hop.succeeded
  failureReason := hop.failureReason

/-- The answer to one request. -/
structure ChainResponse where
  success : Bool
  chainId : String
  response : String
  quality : Float
  diversity : Float
  tier : RarityTier
  hops : List HopView
  totalCost : Float
  duration : Nat
  error : Option String
  deriving DecidableEq, Inhabited

namespace ChainResponse

/-- The answer for a chain that completed. -/
def completed (chain : Chain) (response : String) (duration : Nat) : ChainResponse :=
  let metadata := chain.metadata.getD {}
  { success := true
    chainId := chain.id.text
    response
    quality := metadata.quality
    diversity := metadata.diversity
    tier := metadata.tier
    hops := chain.hops.map HopRecord.view
    totalCost := chain.totalCost
    duration
    error := none }

/-- The answer for a chain that failed: an apology, nothing billed, and the hops recorded. -/
def failed (chain : Chain) (cause : ChainError) : ChainResponse where
  success := false
  chainId := chain.id.text
  response := apology
  quality := 0.0
  diversity := 0.0
  tier := .normal
  hops := chain.hops.map HopRecord.view
  totalCost := 0.0
  duration := 0
  error := some cause.message

/-- The number of hops that succeeded. -/
def successCount (response : ChainResponse) : Nat :=
  (response.hops.filter HopView.succeeded).length

end ChainResponse

end PromptRelay
