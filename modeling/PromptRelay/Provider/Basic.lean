/-
**Providers.**

A provider is one model that can answer a hop: what it is called, which kind of backend serves it,
what it costs and how good it is reckoned to be.

* `Provider.fault?`: what is wrong with a provider, the first of five causes;
* `Provider.costOf`: the cost of a call.
-/

import PromptRelay.Decimal.Layout
import PromptRelay.Provider.Id

namespace PromptRelay

/-- Which kind of backend serves a provider. -/
inductive BackendKind where
  | localServer
  | openAi
  | anthropic
  deriving DecidableEq, Repr, Inhabited

namespace BackendKind

/-- All kinds, in the order in which they are listed to a reader. -/
def all : List BackendKind :=
  [.localServer, .openAi, .anthropic]

/-- The word for a kind. -/
def word : BackendKind → String
  | .localServer => "local"
  | .openAi => "openai"
  | .anthropic => "anthropic"

end BackendKind

/-- One model that can answer a hop. -/
structure Provider where
  id : String
  displayName : String
  kind : BackendKind
  costPerToken : Float := 0.0
  maxTokens : Nat := 4096
  quality : Float := 0.5
  specialty : String := ""
  /-- The model's name at the backend, where it is not the id. -/
  model : Option String := none
  deriving DecidableEq, Inhabited

/-- What is wrong with a provider, alone or among others. -/
inductive ProviderFault where
  | badId (cause : IdFault)
  | badCost (id : String) (cost : Float)
  | noTokens (id : String)
  | badQuality (id : String) (quality : Float)
  | duplicateId (id : String)
  deriving DecidableEq

namespace ProviderFault

open Decimal

/-- The wording of a fault. -/
def message : ProviderFault → String
  | .badId cause => cause.message
  | .badCost id cost =>
    s!"Provider '{id}' has invalid cost_per_token {amountText cost}: must be >= 0"
  | .noTokens id => s!"Provider '{id}' has max_tokens 0: must be greater than 0"
  | .badQuality id quality =>
    s!"Provider '{id}' has quality_score {amountText quality} outside [0.0, 1.0]"
  | .duplicateId id => s!"Duplicate provider ID '{id}'"

end ProviderFault

namespace Provider

/-- The name under which the backend knows the model. -/
def modelName (provider : Provider) : String :=
  provider.model.getD provider.id

/-- The cost of a call that used a number of tokens. -/
def costOf (provider : Provider) (tokens : Nat) : Float :=
  Float.ofNat tokens * provider.costPerToken

/-- What is wrong with a provider on its own, if anything. -/
def fault? (provider : Provider) : Option ProviderFault :=
  match IdFault.of? provider.id with
  | some cause => some (.badId cause)
  | none =>
    if !provider.costPerToken.isFinite || provider.costPerToken < 0.0 then
      some (.badCost provider.id provider.costPerToken)
    else if provider.maxTokens = 0 then some (.noTokens provider.id)
    else if !(0.0 ≤ provider.quality && provider.quality ≤ 1.0) then
      some (.badQuality provider.id provider.quality)
    else none

end Provider

end PromptRelay
