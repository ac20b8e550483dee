/-
**Backends that are reached over HTTP.**

A service says where its prompts are posted, under which headers, in which body, and how its answer
is read; everything else is the same for all of them.

* `Service`: a service's own rules;
* `Backend`: a service at an address;
* `Backend.prepare`: the request for a prompt, none without a credential;
* `Backend.conclude`: the output of a hop, or its failure;
* `Backend.client`: both around the transport.
-/

import PromptRelay.Backend.Fallback
import PromptRelay.Credential.Basic
import PromptRelay.Http.Exchange
import PromptRelay.Json.Strict
import PromptRelay.Run.Registry
import PromptRelay.Text.Blank
import PromptRelay.Text.Pieces

namespace PromptRelay

/-- What is read from a service's answer. -/
structure Completion where
  content : Option String
  tokens : Nat
  deriving DecidableEq, Repr

/-- The rules of one kind of service. -/
structure Service where
  kind : BackendKind
  /-- The address that is used unless another one is configured. -/
  standardUrl : String
  path : String
  headers : Credential → List (String × String)
  body : Provider → String → Json
  read : Json → Except Json.Fault Completion

/-- A service at an address. -/
structure Backend where
  service : Service
  baseUrl : String
  /-- A server that cannot be reached is stood in for by a canned text. -/
  fallback : Bool

/-- The sum of two token counts, the greatest word where it does not fit. -/
def addTokens (first second : Nat) : Nat :=
  min (first + second) Width.word32.greatest

namespace Backend

/-- The address that a service's prompts are posted to. -/
def url (backend : Backend) : String :=
  Text.stripEnd '/' backend.baseUrl ++ backend.service.path

/-- The request for a prompt. -/
def prepare (backend : Backend) (credentials : Credentials) (call : ClientCall) :
    Except HopError HttpRequest :=
  match credentials backend.service.kind with
  | .error fault => .error (.credentialMissing fault.message)
  | .ok credential =>
    .ok {
      url := backend.url
      headers := backend.service.headers credential
      body := backend.service.body call.provider call.prompt
      timeout := call.timeout }

/-- The output of a completion: its content has to hold more than blanks. -/
def outputOf (provider : Provider) (completion : Completion) : Except HopError HopOutput :=
  match completion.content.filter fun content => !Text.isBlank content with
  | none => .error (.upstream provider.id "Empty completion")
  | some content => .ok ⟨content, completion.tokens, provider.costOf completion.tokens⟩

/-- The output that a service's answer stands for. -/
def interpret (backend : Backend) (provider : Provider) (answer : Json) :
    Except HopError HopOutput :=
  match backend.service.read answer with
  | .error fault =>
    .error (.upstream provider.id s!"Failed to parse response: {fault.message}")
  | .ok completion => outputOf provider completion

/-- What comes of a hop; the seed picks the canned text. -/
def conclude (backend : Backend) (seed : Nat) (call : ClientCall)
    (result : Except HttpFailure Json) : Except HopError HopOutput :=
  match result with
  | .ok answer => backend.interpret call.provider answer
  | .error failure =>
    if failure.isUnreachable && backend.fallback then .ok ⟨fallbackText seed, 0, 0.0⟩
    else .error (failure.hopError call.provider.id call.timeout)

/-- The client of a backend, around what posts its requests. -/
def client {Effect : Type → Type} [Monad Effect] (backend : Backend) (credentials : Credentials)
    (seed : Nat) (post : HttpRequest → Effect HttpReply) : Client Effect :=
  fun call =>
    match backend.prepare credentials call with
    | .error error => pure (.refused error)
    | .ok request => do
      let reply ← post request
      return ⟨reply.delay, backend.conclude seed call reply.result⟩

end Backend

end PromptRelay
