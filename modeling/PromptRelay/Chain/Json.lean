/-
**Chains and responses as JSON.**

* `Chain.toJson`, `Chain.ofJson`: a chain with all its records;
* `ChainMetadata.toJson`, `ChainMetadata.ofJson`: its score;
* `HopView.toJson`, `ChainResponse.toJson` and their readers: what the caller is told; here a field
  without a value is left out.
-/

import PromptRelay.Chain.Response
import PromptRelay.Hop.Json

namespace PromptRelay

/-- The statuses by their words. -/
def ChainStatus.choice : Choice ChainStatus :=
  ⟨"ChainStatus", ChainStatus.all.map fun status => (status.word, status)⟩

/-- The tiers by their words. -/
def RarityTier.choice : Choice RarityTier :=
  ⟨"RarityTier", RarityTier.all.map fun tier => (tier.word, tier)⟩

/-- The modes by their words. -/
def ExecutionMode.choice : Choice ExecutionMode :=
  ⟨"ExecutionMode", ExecutionMode.all.map fun mode => (mode.word, mode)⟩

/-- The policies by their words. -/
def FallbackPolicy.choice : Choice FallbackPolicy :=
  ⟨"FallbackPolicy", FallbackPolicy.all.map fun policy => (policy.word, policy)⟩

/-- The id that a JSON value stands for. -/
def ChainId.ofJson : Json → Except Json.Fault ChainId
  | .text written =>
    (ChainId.read written).mapError fun fault =>
      .malformed ("UUID parsing failed: " ++ fault.message)
  | other => Json.refuse other "a formatted UUID string"

/-- The point in time that a JSON value stands for. -/
def Timestamp.ofJson : Json → Except Json.Fault Timestamp
  | .text written => (Timestamp.read written).mapError fun fault => .malformed fault.message
  | other => Json.refuse other "an RFC 3339 formatted date and time string"

namespace ChainMetadata

/-- The JSON value of a score. -/
def toJson (metadata : ChainMetadata) : Json :=
  .object [
    ("quality_score", .ofFloat metadata.quality),
    ("diversity_score", .ofFloat metadata.diversity),
    ("rarity_tier", .text metadata.tier.word)]

/-- The fields of a score. -/
def form : Form Json Json.Fault ChainMetadata :=
  ChainMetadata.mk
    <$> .field "quality_score" Json.strict.number
    <*> .field "diversity_score" Json.strict.number
    <*> .field "rarity_tier" (Json.strict.choice RarityTier.choice)

/-- The score that a JSON value stands for. -/
def ofJson (value : Json) : Except Json.Fault ChainMetadata :=
  Json.strict.record "ChainMetadata" form value

end ChainMetadata

namespace Chain

/-- The JSON value of a chain. -/
def toJson (chain : Chain) : Json :=
  .object [
    ("id", .text chain.id.text),
    ("pattern_name", .text chain.patternName),
    ("original_input", .text chain.input),
    ("hops", .list (chain.hops.map HopRecord.toJson)),
    ("status", .text chain.status.word),
    ("total_cost", .ofFloat chain.totalCost),
    ("created_at", .text chain.createdAt.text),
    ("completed_at", .ofOption (.text ·.text) chain.completedAt),
    ("metadata", .ofOption ChainMetadata.toJson chain.metadata),
    ("final_response", .ofOption .text chain.finalResponse)]

/-- The fields of a chain. -/
def form : Form Json Json.Fault Chain :=
  Chain.mk
    <$> .field "id" ChainId.ofJson
    <*> .field "pattern_name" Json.strict.text
    <*> .field "original_input" Json.strict.text
    <*> .field "hops" (Json.strict.list HopRecord.ofJson)
    <*> .field "status" (Json.strict.choice ChainStatus.choice)
    <*> .field "total_cost" Json.strict.number
    <*> .field "created_at" Timestamp.ofJson
    <*> .optional "completed_at" (Json.strict.nullable Timestamp.ofJson)
    <*> .optional "metadata" (Json.strict.nullable ChainMetadata.ofJson)
    <*> .optional "final_response" (Json.strict.nullable Json.strict.text)

/-- The chain that a JSON value stands for. -/
def ofJson (value : Json) : Except Json.Fault Chain :=
  Json.strict.record "Chain" form value

end Chain

namespace HopView

/-- The JSON value of a view. -/
def toJson (view : HopView) : Json :=
  .objectOfPresent [
    ("hopIndex", some (.ofNat view.index)),
    ("providerId", some (.text view.provider)),
    ("responseContent", view.content.map .text),
    ("tokensUsed", some (.ofNat view.tokens)),
    ("cost", some (.ofFloat view.cost)),
    ("durationMs", some (.ofNat view.duration)),
    ("succeeded", some (.bool view.succeeded)),
    ("failureReason", view.failureReason.map .text)]

/-- The fields of a view. -/
def form : Form Json Json.Fault HopView :=
  HopView.mk
    <$> .field "hopIndex" (Json.strict.whole .size)
    <*> .field "providerId" Json.strict.text
    <*> .optional "responseContent" (Json.strict.nullable Json.strict.text)
    <*> .field "tokensUsed" (Json.strict.whole .word32)
    <*> .field "cost" Json.strict.number
    <*> .field "durationMs" (Json.strict.whole .word64)
    <*> .field "succeeded" Json.strict.flag
    <*> .optional "failureReason" (Json.strict.nullable Json.strict.text)

/-- The view that a JSON value stands for. -/
def ofJson (value : Json) : Except Json.Fault HopView :=
  Json.strict.record "HopView" form value

end HopView

namespace ChainResponse

/-- The JSON value of a response. -/
def toJson (response : ChainResponse) : Json :=
  .objectOfPresent [
    ("success", some (.bool response.success)),
    ("chainId", some (.text response.chainId)),
    ("response", some (.text response.response)),
    ("qualityScore", some (.ofFloat response.quality)),
    ("diversityScore", some (.ofFloat response.diversity)),
    ("rarityTier", some (.text response.tier.word)),
    ("hops", some (.list (response.hops.map HopView.toJson))),
    ("totalCost", some (.ofFloat response.totalCost)),
    ("durationMs", some (.ofNat response.duration)),
    ("error", response.error.map .text)]

/-- The fields of a response. -/
def form : Form Json Json.Fault ChainResponse :=
  ChainResponse.mk
    <$> .field "success" Json.strict.flag
    <*> .field "chainId" Json.strict.text
    <*> .field "response" Json.strict.text
    <*> .field "qualityScore" Json.strict.number
    <*> .field "diversityScore" Json.strict.number
    <*> .field "rarityTier" (Json.strict.choice RarityTier.choice)
    <*> .field "hops" (Json.strict.list HopView.ofJson)
    <*> .field "totalCost" Json.strict.number
    <*> .field "durationMs" (Json.strict.whole .word64)
    <*> .optional "error" (Json.strict.nullable Json.strict.text)

/-- The response that a JSON value stands for. -/
def ofJson (value : Json) : Except Json.Fault ChainResponse :=
  Json.strict.record "ChainResponse" form value

end ChainResponse

end PromptRelay
