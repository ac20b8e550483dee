/-
**Providers in documents.**

* `BackendKind.choice`: the kinds by their words;
* `Provider.form`: the fields of a provider, for every document format;
* `Provider.toJson`: the JSON value of a provider.
-/

import PromptRelay.Document.Format
import PromptRelay.Json.Encode
import PromptRelay.Json.Strict
import PromptRelay.Provider.Basic

namespace PromptRelay

/-- The kinds of backend by their words. -/
def BackendKind.choice : Choice BackendKind :=
  ⟨"BackendKind", BackendKind.all.map fun kind => (kind.word, kind)⟩

namespace Provider

/-- The JSON value of a provider. -/
def toJson (provider : Provider) : Json :=
  .object [
    ("id", .text provider.id),
    ("display_name", .text provider.displayName),
    ("backend_kind", .text provider.kind.word),
    ("cost_per_token", .ofFloat provider.costPerToken),
    ("max_tokens", .ofNat provider.maxTokens),
    ("quality_score", .ofFloat provider.quality),
    ("specialty", .text provider.specialty),
    ("model", .ofOption .text provider.model)]

/-- The fields of a provider. -/
def form : Form Json Json.Fault Provider :=
  Provider.mk
    <$> .field "id" Json.strict.text
    <*> .field "display_name" Json.strict.text
    <*> .field "backend_kind" (Json.strict.choice BackendKind.choice)
    <*> .field "cost_per_token" Json.strict.number
    <*> .field "max_tokens" (Json.strict.whole .word32)
    <*> .field "quality_score" Json.strict.number
    <*> .fieldOr "specialty" "" Json.strict.text
    <*> .fieldOr "model" none (Json.strict.nullable Json.strict.text)

/-- The provider that a JSON value stands for. -/
def ofJson (value : Json) : Except Json.Fault Provider :=
  Json.strict.record "Provider" form value

end Provider

end PromptRelay
