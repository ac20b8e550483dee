/-
**Credentials.**

* `Credential`: the secret for one call, `Credential.redacted` its text without the secret;
* `CredentialFault`: why there is none, `CredentialFault.message` how this is told;
* `Credentials`: what hands them out.
-/

import PromptRelay.Json.Value
import PromptRelay.Provider.Basic
import PromptRelay.Setup.Kind
import PromptRelay.Text.Quoted

namespace PromptRelay

/-- The secret for one call to a backend, with further parameters by name. -/
structure Credential where
  kind : BackendKind
  key : String
  parameters : List (String × String) := []
  deriving DecidableEq, Repr, Inhabited

namespace Credential

/-- The parameter of a name. -/
def parameter? (credential : Credential) (name : String) : Option String :=
  Json.fieldOf? name credential.parameters

/-- How a kind is named in a text for developers. -/
def kindName : BackendKind → String
  | .localServer => "Local"
  | .openAi => "OpenAi"
  | .anthropic => "Anthropic"

/-- A text for developers: neither the key nor the values of parameters stand in it. -/
def redacted (credential : Credential) : String :=
  let names := Text.quoteAll (credential.parameters.map Prod.fst)
  "Credential \x7b backend_kind: " ++ kindName credential.kind ++
    ", api_key: \"<redacted>\", params: " ++ names ++ " \x7d"

end Credential

/-- Why there is no credential. -/
inductive CredentialFault where
  | unmapped (kind : BackendKind)
  | unset (name : String) (kind : BackendKind)
  /-- A reason given in words, with the kind of error that it is. -/
  | stated (reason : String) (kind : SetupErrorKind := .credential)
  deriving DecidableEq, Repr

namespace CredentialFault

/-- The kind of error that a fault is. -/
def kind : CredentialFault → SetupErrorKind
  | .unmapped _ | .unset _ _ => .credential
  | .stated _ kind => kind

/-- What is missing, in words. -/
def reason : CredentialFault → String
  | .unmapped kind => s!"No environment mapping configured for backend '{kind.word}'"
  | .unset name kind => s!"Environment variable '{name}' not set for backend '{kind.word}'"
  | .stated reason _ => reason

/-- The wording of a fault, under the heading of its kind. -/
def message (fault : CredentialFault) : String :=
  fault.kind.message fault.reason

end CredentialFault

/-- What hands out the credential of a kind of backend. -/
abbrev Credentials : Type := BackendKind → Except CredentialFault Credential

end PromptRelay
