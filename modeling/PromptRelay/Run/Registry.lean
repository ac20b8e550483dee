/-
**Which client serves which kind of backend.**

* `Client`: what answers hops of one kind of backend;
* `Registry`: the clients by kind;
* `Registry.answer`: what answers a hop of a run, found by the provider's kind. A hop whose provider
  or client is missing fails at once.
-/

import PromptRelay.Pattern.Selector
import PromptRelay.Run.Dialogue

namespace PromptRelay

/-- A prompt for a provider, with a time limit in milliseconds. -/
structure ClientCall where
  provider : Provider
  prompt : String
  timeout : Nat

/-- What answers the hops of one kind of backend. -/
def Client (Effect : Type → Type) : Type :=
  ClientCall → Effect Reply

/-- The client of each kind of backend that has one. -/
structure Registry (Effect : Type → Type) where
  client? : BackendKind → Option (Client Effect)

namespace Registry

variable {Effect : Type → Type}

/-- No client at all. -/
def empty : Registry Effect := ⟨fun _ => none⟩

/-- Puts a client in the place of the former one of its kind. -/
def register (registry : Registry Effect) (kind : BackendKind) (client : Client Effect) :
    Registry Effect :=
  ⟨fun other => if other = kind then some client else registry.client? other⟩

/-- The kinds that have a client. -/
def kinds (registry : Registry Effect) : List BackendKind :=
  BackendKind.all.filter fun kind => (registry.client? kind).isSome

/-- The failure of a hop whose kind of backend has no client. -/
def noClient (kind : BackendKind) : HopError :=
  .upstream kind.word "No backend client registered for this kind"

/-- The client of a kind. -/
def lookup (registry : Registry Effect) (kind : BackendKind) :
    Except HopError (Client Effect) :=
  match registry.client? kind with
  | some client => .ok client
  | none => .error (noClient kind)

/-- The first kind that the catalog uses and no client serves. -/
def uncovered? (registry : Registry Effect) (catalog : Catalog) : Option BackendKind :=
  catalog.kinds.find? fun kind => (registry.client? kind).isNone

/-- What answers a hop of a run. -/
def answer [Monad Effect] (registry : Registry Effect) (catalog : Catalog) (call : HopCall) :
    Effect Reply :=
  match catalog.lookup call.provider with
  | .error error => pure (.refused error)
  | .ok provider =>
    match registry.lookup provider.kind with
    | .error error => pure (.refused error)
    | .ok client => client ⟨provider, call.prompt, call.timeout⟩

end Registry

end PromptRelay
