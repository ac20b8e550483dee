/-
**Credentials from environment variables.**

Each kind of backend is keyless, or mapped to variables, or neither; the last word on a kind counts.

* `EnvironmentStore`: what is known of each kind;
* `EnvironmentStore.credential`: the credential of a kind in an environment;
* `EnvironmentStore.supports`: whether the kind is keyless or its key's variable is set.
-/

import PromptRelay.Credential.Basic
import PromptRelay.Environment.Basic
import PromptRelay.Text.Blank

namespace PromptRelay

/-- The variables of a mapped kind: the one of the key, and those of parameters by their names. -/
structure EnvironmentMapping where
  keyVariable : String
  parameterVariables : List (String × String) := []
  deriving DecidableEq, Repr, Inhabited

/-- The kinds that are keyless and the kinds that are mapped to variables. -/
structure EnvironmentStore where
  keyless : List BackendKind := []
  mappings : List (BackendKind × EnvironmentMapping) := []
  deriving DecidableEq, Repr, Inhabited

namespace EnvironmentStore

/-- The store's name in messages. -/
def name : String := "env"

/-- The mapping of a kind. -/
def mapping? (store : EnvironmentStore) (kind : BackendKind) : Option EnvironmentMapping :=
  (store.mappings.find? fun entry => entry.1 = kind).map Prod.snd

/-- The mappings without the one of a kind. -/
def withoutMapping (store : EnvironmentStore) (kind : BackendKind) :
    List (BackendKind × EnvironmentMapping) :=
  store.mappings.filter fun entry => entry.1 ≠ kind

/-- Maps a kind to variables; it is keyless no longer. -/
def map (store : EnvironmentStore) (kind : BackendKind) (mapping : EnvironmentMapping) :
    EnvironmentStore where
  keyless := store.keyless.filter fun other => other ≠ kind
  mappings := (kind, mapping) :: store.withoutMapping kind

/-- Makes a kind keyless; it is mapped no longer. -/
def makeKeyless (store : EnvironmentStore) (kind : BackendKind) : EnvironmentStore where
  keyless := kind :: store.keyless.filter fun other => other ≠ kind
  mappings := store.withoutMapping kind

/-- The usual setting: the local server is keyless, the services have one variable each, and one of
them a second for the organization. -/
def withStandards (store : EnvironmentStore) : EnvironmentStore :=
  let withLocal := store.makeKeyless .localServer
  let withOpenAi :=
    withLocal.map .openAi ⟨"OPENAI_API_KEY", [("organization", "OPENAI_ORG_ID")]⟩
  withOpenAi.map .anthropic ⟨"ANTHROPIC_API_KEY", []⟩

/-- The parameters whose variables are set. -/
def parametersIn (environment : Environment) (mapping : EnvironmentMapping) :
    List (String × String) :=
  mapping.parameterVariables.filterMap fun (name, variableName) =>
    (environment.get? variableName).map (name, ·)

/-- The credential of a kind. A key that is blank counts as none; another is handed out as it is. -/
def credential (store : EnvironmentStore) (environment : Environment) : Credentials :=
  fun kind =>
    if kind ∈ store.keyless then .ok { kind, key := "" }
    else
      match store.mapping? kind with
      | none => .error (.unmapped kind)
      | some mapping =>
        match (environment.get? mapping.keyVariable).filter fun key => !Text.isBlank key with
        | none => .error (.unset mapping.keyVariable kind)
        | some key => .ok { kind, key, parameters := parametersIn environment mapping }

/-- The kind is keyless, or the variable of its key is set. -/
def supports (store : EnvironmentStore) (environment : Environment) (kind : BackendKind) :
    Bool :=
  if kind ∈ store.keyless then true
  else
    match store.mapping? kind with
    | none => false
    | some mapping => (environment.get? mapping.keyVariable).isSome

end EnvironmentStore

end PromptRelay
