/-
**The three services.**

* `Service.localServer`: a model server of one's own, which needs no key;
* `Service.openAi`: a chat completion service;
* `Service.anthropic`: a messages service;
* `Service.ofKind`: the service of a kind of backend.
-/

import PromptRelay.Backend.Service
import PromptRelay.Json.Encode

namespace PromptRelay

open Json

/-- A whole number of tokens. -/
def readTokens : Json → Except Fault Nat :=
  strict.whole .word32

/-- The header that says that the body is JSON. -/
def jsonHeader : String × String := ("Content-Type", "application/json")

/-- The one message of a chat: the prompt in the user's role. -/
def userMessages (prompt : String) : Json :=
  .list [.object [("content", .text prompt), ("role", .text "user")]]

namespace LocalServer

/-- The fields of an answer: the text and the two token counts, zero where left off. -/
def form : Form Json Fault Completion :=
  (fun content promptTokens answerTokens => ⟨some content, addTokens promptTokens answerTokens⟩)
    <$> .field "response" strict.text
    <*> .fieldOr "prompt_eval_count" 0 readTokens
    <*> .fieldOr "eval_count" 0 readTokens

end LocalServer

/-- A model server of one's own. A key is sent only where there is one. -/
def Service.localServer : Service where
  kind := .localServer
  standardUrl := "http://localhost:11434"
  path := "/api/generate"
  headers credential :=
    if credential.key.isEmpty then [jsonHeader]
    else [jsonHeader, ("Authorization", "Bearer " ++ credential.key)]
  body provider prompt :=
    .object [
      ("model", .text provider.modelName),
      ("options", .object [("num_predict", .ofNat provider.maxTokens)]),
      ("prompt", .text prompt),
      ("stream", .bool false)]
  read := strict.record "GenerateResponse" LocalServer.form

namespace OpenAi

/-- The token counts of an answer. -/
structure Usage where
  promptTokens : Nat
  answerTokens : Nat
  totalTokens : Option Nat

/-- The tokens in total: as told, or else the sum of both counts. -/
def Usage.tokens (usage : Usage) : Nat :=
  usage.totalTokens.getD (addTokens usage.promptTokens usage.answerTokens)

/-- The fields of token counts. -/
def usageForm : Form Json Fault Usage :=
  Usage.mk
    <$> .fieldOr "prompt_tokens" 0 readTokens
    <*> .fieldOr "completion_tokens" 0 readTokens
    <*> .optional "total_tokens" (strict.nullable readTokens)

/-- The content of a message. -/
def readMessage : Json → Except Fault (Option String) :=
  strict.record "OpenAiResponseMessage" (.optional "content" (strict.nullable strict.text))

/-- The content of a choice's message. -/
def readChoice : Json → Except Fault (Option String) :=
  strict.record "OpenAiChoice" (.field "message" readMessage)

/-- The fields of an answer: only the first of its choices counts. -/
def form : Form Json Fault Completion :=
  (fun contents usage =>
    ⟨contents.head?.join, (usage.map Usage.tokens).getD 0⟩)
    <$> .field "choices" (strict.list readChoice)
    <*> .optional "usage" (strict.nullable (strict.record "OpenAiUsage" usageForm))

end OpenAi

/-- A chat completion service. -/
def Service.openAi : Service where
  kind := .openAi
  standardUrl := "https://api.openai.com"
  path := "/v1/chat/completions"
  headers credential :=
    [("Authorization", "Bearer " ++ credential.key), jsonHeader] ++
      ((credential.parameter? "organization").map ("OpenAI-Organization", ·)).toList
  body provider prompt :=
    .object [
      ("max_tokens", .ofNat provider.maxTokens),
      ("messages", userMessages prompt),
      ("model", .text provider.modelName),
      ("stream", .bool false)]
  read := strict.record "OpenAiResponse" OpenAi.form

namespace Anthropic

/-- A part of an answer, of a type and with a text where it has one. -/
structure Block where
  type : String
  text : Option String

/-- The fields of a part. -/
def blockForm : Form Json Fault Block :=
  Block.mk
    <$> .field "type" strict.text
    <*> .optional "text" (strict.nullable strict.text)

/-- The texts of the parts that are texts, joined. -/
def textOf (blocks : List Block) : String :=
  String.join ((blocks.filter fun block => block.type = "text").filterMap Block.text)

/-- The sum of both token counts. -/
def usageForm : Form Json Fault Nat :=
  addTokens
    <$> .field "input_tokens" readTokens
    <*> .field "output_tokens" readTokens

/-- The fields of an answer. -/
def form : Form Json Fault Completion :=
  (fun blocks tokens => ⟨some (textOf blocks), tokens.getD 0⟩)
    <$> .field "content" (strict.list (strict.record "ContentBlock" blockForm))
    <*> .optional "usage" (strict.nullable (strict.record "AnthropicUsage" usageForm))

end Anthropic

/-- A messages service. -/
def Service.anthropic : Service where
  kind := .anthropic
  standardUrl := "https://api.anthropic.com"
  path := "/v1/messages"
  headers credential :=
    [("x-api-key", credential.key), ("anthropic-version", "2023-06-01"), jsonHeader]
  body provider prompt :=
    .object [
      ("max_tokens", .ofNat provider.maxTokens),
      ("messages", userMessages prompt),
      ("model", .text provider.modelName)]
  read := strict.record "AnthropicResponse" Anthropic.form

/-- The service of a kind of backend. -/
def Service.ofKind : BackendKind → Service
  | .localServer => .localServer
  | .openAi => .openAi
  | .anthropic => .anthropic

/-- The backend of a kind at an address, or at the service's own one. -/
def Backend.ofKind (kind : BackendKind) (baseUrl : Option String) (fallback : Bool) : Backend :=
  let service := Service.ofKind kind
  { service
    baseUrl := baseUrl.getD service.standardUrl
    fallback := kind = .localServer && fallback }

end PromptRelay
