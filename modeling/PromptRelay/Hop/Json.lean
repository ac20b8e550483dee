/-
**Outputs and records of hops as JSON.**

* `HopOutput.toJson`, `HopOutput.ofJson`: a backend's answer;
* `HopRecord.toJson`, `HopRecord.ofJson`: what a chain keeps of a hop, every field written.
-/

import PromptRelay.Hop.Record
import PromptRelay.Json.Encode
import PromptRelay.Json.Strict

namespace PromptRelay

/-- The kinds of failure by their words. -/
def FailureKind.choice : Choice FailureKind :=
  ⟨"HopFailureKind", FailureKind.all.map fun kind => (kind.word, kind)⟩

namespace HopOutput

/-- The JSON value of an output. -/
def toJson (output : HopOutput) : Json :=
  .object [
    ("content", .text output.content),
    ("tokens_used", .ofNat output.tokens),
    ("cost", .ofFloat output.cost)]

/-- The fields of an output. -/
def form : Form Json Json.Fault HopOutput :=
  HopOutput.mk
    <$> .field "content" Json.strict.text
    <*> .field "tokens_used" (Json.strict.whole .word32)
    <*> .field "cost" Json.strict.number

/-- The output that a JSON value stands for. -/
def ofJson (value : Json) : Except Json.Fault HopOutput :=
  Json.strict.record "HopOutput" form value

end HopOutput

namespace HopRecord

/-- The JSON value of a record. -/
def toJson (hop : HopRecord) : Json :=
  .object [
    ("hop_index", .ofNat hop.index),
    ("provider_id", .text hop.provider),
    ("prompt", .text hop.prompt),
    ("response_content", .ofOption .text hop.content),
    ("tokens_used", .ofNat hop.tokens),
    ("cost", .ofFloat hop.cost),
    ("duration_ms", .ofNat hop.duration),
    ("succeeded", .bool hop.succeeded),
    ("failure_reason", .ofOption .text hop.failureReason),
    ("failure_kind", .ofOption (.text ·.word) hop.failureKind)]

/-- The fields of a record. -/
def form : Form Json Json.Fault HopRecord :=
  HopRecord.mk
    <$> .field "hop_index" (Json.strict.whole .size)
    <*> .field "provider_id" Json.strict.text
    <*> .field "prompt" Json.strict.text
    <*> .optional "response_content" (Json.strict.nullable Json.strict.text)
    <*> .field "tokens_used" (Json.strict.whole .word32)
    <*> .field "cost" Json.strict.number
    <*> .field "duration_ms" (Json.strict.whole .word64)
    <*> .field "succeeded" Json.strict.flag
    <*> .optional "failure_reason" (Json.strict.nullable Json.strict.text)
    <*> .optional "failure_kind" (Json.strict.nullable (Json.strict.choice FailureKind.choice))

/-- The record that a JSON value stands for. -/
def ofJson (value : Json) : Except Json.Fault HopRecord :=
  Json.strict.record "HopRecord" form value

end HopRecord

end PromptRelay
