/-
**One request for a hop, and what its failure means.**

A hop whose kind of backend has no credential fails before anything is posted. Any other hop posts
one request, and what comes of it decides what comes of the hop: no failure of a request is lost,
none is taken for another, and only a model server of one's own that cannot be reached may be stood
in for.

* `Text.IsStem`, `Text.stripEnd_eq_iff`: a text without the copies of a character at its end;
* `BackendKind.Asks`, `Service.asks_body`: a body that asks a model for an answer to a prompt;
* `CredentialFault.Told`, `CredentialFault.told_message`: how it is told that there is no credential;
* `HttpFailure.Becomes`, `HttpFailure.becomes_hopError`: which failure of a hop a failed request is;
* `Backend.prepare_of_missing`, `Backend.exists_prepare_of_handed`: when a request is made, and
  which;
* `Backend.conclude_of_unreachable`, `Backend.conclude_of_failure`,
  `Backend.conclude_ne_providerUnknown`: what comes of a failed request;
* `Backend.standsIn_iff`, `Backend.client_congr`: when a hop is stood in for, and what it depends on;
* `Backend.hops_gated`: all of it for the client of a backend.
-/

import Mathlib.Data.List.DropRight
import PromptRelay.Proofs.Backend.Completions

namespace PromptRelay

variable {World : Type}

/-! ### Addresses -/

namespace Text

/-- The text is the stem with copies of a character behind it, and the stem does not end in this
character. -/
structure IsStem (unwanted : Char) (stem text : String) : Prop where
  copies : ∃ count, text.toList = stem.toList ++ List.replicate count unwanted
  bare : stem.toList.getLast? ≠ some unwanted

theorem rdropWhile_eq_iff {unwanted : Char} {text stem : List Char} :
    text.rdropWhile (· == unwanted) = stem ↔
      (∃ count, text = stem ++ List.replicate count unwanted) ∧ stem.getLast? ≠ some unwanted := by
  constructor
  · rintro rfl
    have whole : text.rdropWhile (· == unwanted) ++ text.rtakeWhile (· == unwanted) = text :=
      List.rdropWhile_append_rtakeWhile
    have copies : text.rtakeWhile (· == unwanted) =
        List.replicate (text.rtakeWhile (· == unwanted)).length unwanted :=
      List.eq_replicate_of_mem fun character member => by
        simpa using List.mem_rtakeWhile_imp member
    refine ⟨⟨_, copies ▸ whole.symm⟩, fun last => ?_⟩
    have someLeft : text.rdropWhile (· == unwanted) ≠ [] := by
      intro none
      rw [none] at last
      cases last
    rw [List.getLast?_eq_getLast_of_ne_nil someLeft] at last
    refine List.rdropWhile_last_not (· == unwanted) text someLeft ?_
    rw [Option.some.inj last]
    exact beq_self_eq_true unwanted
  · rintro ⟨⟨count, rfl⟩, bare⟩
    induction count with
    | zero =>
      rw [List.replicate_zero, List.append_nil, List.rdropWhile_eq_self_iff]
      intro someLeft same
      rw [List.getLast?_eq_getLast_of_ne_nil someLeft, eq_of_beq same] at bare
      exact bare rfl
    | succ count hypothesis =>
      rw [List.replicate_succ', ← List.append_assoc,
        List.rdropWhile_concat_pos (· == unwanted) _ _ (beq_self_eq_true unwanted)]
      exact hypothesis

/-- **Without the copies at its end** a text is its stem. -/
theorem stripEnd_eq_iff {unwanted : Char} {text stem : String} :
    stripEnd unwanted text = stem ↔ IsStem unwanted stem text := by
  have strips : stripEnd unwanted text = stem ↔
      text.toList.rdropWhile (· == unwanted) = stem.toList := by
    rw [← String.toList_inj]
    unfold stripEnd
    rw [String.toList_ofList]
    rfl
  rw [strips, rdropWhile_eq_iff]
  exact ⟨fun ⟨copies, bare⟩ => ⟨copies, bare⟩, fun ⟨copies, bare⟩ => ⟨copies, bare⟩⟩

end Text

/-! ### Bodies -/

/-- The body asks a provider's model for an answer to a prompt that is no longer than the provider
allows, in the words of a kind of service. -/
inductive BackendKind.Asks (provider : Provider) (prompt : String) : BackendKind → Json → Prop where
  | localServer {body options : Json} (model : body.get? "model" = some (.text provider.modelName))
      (question : body.get? "prompt" = some (.text prompt))
      (limits : body.get? "options" = some options)
      (limit : options.get? "num_predict" = some (.integer provider.maxTokens)) :
      Asks provider prompt .localServer body
  | openAi {body message : Json} (model : body.get? "model" = some (.text provider.modelName))
      (messages : body.get? "messages" = some (.list [message]))
      (question : message.get? "content" = some (.text prompt))
      (limit : body.get? "max_tokens" = some (.integer provider.maxTokens)) :
      Asks provider prompt .openAi body
  | anthropic {body message : Json} (model : body.get? "model" = some (.text provider.modelName))
      (messages : body.get? "messages" = some (.list [message]))
      (question : message.get? "content" = some (.text prompt))
      (limit : body.get? "max_tokens" = some (.integer provider.maxTokens)) :
      Asks provider prompt .anthropic body

theorem Service.kind_ofKind (kind : BackendKind) : (ofKind kind).kind = kind := by
  cases kind <;> rfl

theorem Service.asks_body (kind : BackendKind) (provider : Provider) (prompt : String) :
    kind.Asks provider prompt ((ofKind kind).body provider prompt) := by
  cases kind with
  | localServer => exact .localServer rfl rfl rfl rfl
  | openAi => exact .openAi rfl rfl rfl rfl
  | anthropic => exact .anthropic rfl rfl rfl rfl

/-! ### Failures -/

/-- What is told of a fault: its reason, under the heading of its kind. -/
inductive CredentialFault.Told (fault : CredentialFault) : String → Prop where
  | notFound (isKind : fault.kind = .notFound) : Told fault s!"Not found: {fault.reason}"
  | validation (isKind : fault.kind = .validation) :
      Told fault s!"Validation error: {fault.reason}"
  | credential (isKind : fault.kind = .credential) :
      Told fault s!"Credential error: {fault.reason}"
  | configuration (isKind : fault.kind = .configuration) :
      Told fault s!"Configuration error: {fault.reason}"
  | internal (isKind : fault.kind = .internal) : Told fault s!"Internal error: {fault.reason}"

theorem CredentialFault.told_message (fault : CredentialFault) : fault.Told fault.message := by
  unfold message SetupErrorKind.message
  cases isKind : fault.kind with
  | notFound => exact .notFound isKind
  | validation => exact .validation isKind
  | credential => exact .credential isKind
  | configuration => exact .configuration isKind
  | internal => exact .internal isKind

/-- A store may fail for a reason of its own, which is told as what it is. -/
example : (CredentialFault.stated "the vault is sealed" .internal).message =
    "Internal error: the vault is sealed" := rfl

/-- The failure of a provider's hop that a failed request is. -/
inductive HttpFailure.Becomes (provider : String) (timeout : Nat) : HttpFailure → HopError → Prop where
  | timeout : Becomes provider timeout .timeout (.timeout timeout)
  | rejected {code : Nat} {body : String} (credential : code = 401 ∨ code = 403) :
      Becomes provider timeout (.status code body)
        (.credentialMissing
          s!"{provider} rejected the credential: {(HttpFailure.status code body).message}")
  | status {code : Nat} {body : String} (other : ¬ (code = 401 ∨ code = 403)) :
      Becomes provider timeout (.status code body) (.upstream provider s!"HTTP {code}: {body}")
  | connect (detail : String) :
      Becomes provider timeout (.connect detail) (.upstream provider s!"Connection failed: {detail}")
  | request (detail : String) :
      Becomes provider timeout (.request detail) (.upstream provider s!"Request failed: {detail}")
  | decode (detail : String) :
      Becomes provider timeout (.decode detail)
        (.upstream provider s!"Failed to parse response: {detail}")

theorem HttpFailure.becomes_hopError (failure : HttpFailure) (provider : String) (timeout : Nat) :
    failure.Becomes provider timeout (failure.hopError provider timeout) := by
  unfold hopError
  cases failure with
  | timeout => exact .timeout
  | connect detail => exact .connect detail
  | request detail => exact .request detail
  | decode detail => exact .decode detail
  | status code body =>
    dsimp only
    by_cases credential : code = 401 ∨ code = 403
    · rw [if_pos (by simpa using credential)]
      exact .rejected credential
    · rw [if_neg (by simpa using credential)]
      exact .status credential

/-! ### What a client does -/

namespace Backend

variable {backend : Backend} {credentials : Credentials} {seed : Nat} {call : ClientCall}

/-- Without a credential no request is made, and the reason is told. -/
theorem prepare_of_missing {fault : CredentialFault}
    (missing : credentials backend.service.kind = .error fault) :
    backend.prepare credentials call =
      .error (.credentialMissing fault.message) := by
  unfold prepare
  rw [missing]

/-- With a credential one is made, to the backend's address and under the hop's time limit. -/
theorem exists_prepare_of_handed {credential : Credential}
    (handed : credentials backend.service.kind = .ok credential) :
    ∃ request, backend.prepare credentials call = .ok request ∧ request.url = backend.url ∧
      request.body = backend.service.body call.provider call.prompt ∧
      request.timeout = call.timeout := by
  unfold prepare
  rw [handed]
  exact ⟨_, rfl, rfl, rfl, rfl⟩

/-- A server that cannot be reached is stood in for, where this is allowed. -/
theorem conclude_of_unreachable {failure : HttpFailure}
    (unreachable : failure.isUnreachable = true) (allowed : backend.fallback = true) :
    backend.conclude seed call (.error failure) = .ok ⟨fallbackText seed, 0, 0.0⟩ := by
  unfold conclude
  dsimp only
  rw [unreachable, allowed]
  rfl

/-- Any other failed request is a failure of the hop. -/
theorem conclude_of_failure {failure : HttpFailure}
    (noStandIn : ¬ (failure.isUnreachable = true ∧ backend.fallback = true)) :
    ∃ error, failure.Becomes call.provider.id call.timeout error ∧
      backend.conclude seed call (.error failure) = .error error := by
  refine ⟨_, failure.becomes_hopError call.provider.id call.timeout, ?_⟩
  unfold conclude
  dsimp only
  rw [if_neg (by simpa using noStandIn)]

theorem conclude_ne_providerUnknown (result : Except HttpFailure Json) (id : String) :
    backend.conclude seed call result ≠ .error (.providerUnknown id) := by
  intro unknown
  cases result with
  | ok answer =>
    obtain ⟨detail, same⟩ := interpret_eq_error unknown
    cases same
  | error failure =>
    by_cases stoodIn : failure.isUnreachable = true ∧ backend.fallback = true
    · rw [conclude_of_unreachable stoodIn.1 stoodIn.2] at unknown
      cases unknown
    · have failed : ∃ error, failure.Becomes call.provider.id call.timeout error ∧
          backend.conclude seed call (.error failure) = .error error :=
        conclude_of_failure stoodIn
      obtain ⟨error, becomes, same⟩ := failed
      rw [unknown] at same
      cases same
      cases becomes

/-- Only a model server of one's own that cannot be reached is stood in for, where this is
wanted. -/
theorem standsIn_iff {kind : BackendKind} {baseUrl : Option String} {fallback : Bool}
    {failure : HttpFailure} :
    failure.isUnreachable = true ∧ (ofKind kind baseUrl fallback).fallback = true ↔
      kind = .localServer ∧ fallback = true ∧ ∃ detail, failure = .connect detail := by
  have unreachable : failure.isUnreachable = true ↔ ∃ detail, failure = .connect detail := by
    unfold HttpFailure.isUnreachable
    cases failure <;> simp
  rw [unreachable]
  show _ ∧ (decide (kind = .localServer) && fallback) = true ↔ _
  rw [Bool.and_eq_true, decide_eq_true_iff, and_comm, and_assoc]

/-- Addresses with the same stem are posted to alike. -/
theorem client_congr {Effect : Type → Type} [Monad Effect] {kind : BackendKind}
    {baseUrl other stem : String} (isStem : Text.IsStem '/' stem baseUrl)
    (otherStem : Text.IsStem '/' stem other) (fallback : Bool) (credentials : Credentials)
    (seed : Nat) (post : HttpRequest → Effect HttpReply) :
    (ofKind kind (some other) fallback).client credentials seed post =
      (ofKind kind (some baseUrl) fallback).client credentials seed post := by
  have sameUrl : (ofKind kind (some other) fallback).url =
      (ofKind kind (some baseUrl) fallback).url := by
    show Text.stripEnd '/' other ++ _ = Text.stripEnd '/' baseUrl ++ _
    rw [Text.stripEnd_eq_iff.mpr isStem, Text.stripEnd_eq_iff.mpr otherStem]
    rfl
  funext call
  have sameRequest : (ofKind kind (some other) fallback).prepare credentials call =
      (ofKind kind (some baseUrl) fallback).prepare credentials call := by
    unfold prepare
    rw [sameUrl]
    rfl
  unfold client
  rw [sameRequest]
  rfl

/-- **Hops are gated by their credentials, and each failure is told as what it is.** Without a
credential nothing is posted and the hop fails for this reason. With one a single request is posted:
to the address without the slashes at its end and with the service's path, with the prompt, the model
and the limit of tokens in its body, and under the hop's time limit. If it fails the hop fails with
what the failure becomes, but for a model server of one's own that cannot be reached and may be stood
in for. No hop fails for an unknown provider, and slashes at the end of an address make no
difference. -/
theorem hops_gated (kind : BackendKind) (baseUrl : String) (fallback : Bool)
    (credentials : Credentials) (seed : Nat) (post : Transport World) (call : ClientCall)
    (world : World) :
    let backend := ofKind kind (some baseUrl) fallback
    -- the hop, with a transport that notes what it posts
    let hop := backend.client credentials seed (post.noting kind) call (world, [])
    let result := hop.1.result
    let posted := hop.2.2
    (∀ fault, credentials kind = .error fault → posted = [] ∧
      ∃ detail, fault.Told detail ∧ result = .error (.credentialMissing detail)) ∧
    (∀ credential, credentials kind = .ok credential → ∃ request, posted = [⟨kind, request⟩] ∧
      (∃ stem, Text.IsStem '/' stem baseUrl ∧ request.url = stem ++ backend.service.path) ∧
      kind.Asks call.provider call.prompt request.body ∧ request.timeout = call.timeout ∧
      ∀ failure, (post kind request world).1.result = .error failure →
        let standIn := kind = .localServer ∧ fallback = true ∧ ∃ detail, failure = .connect detail
        (standIn → result = .ok ⟨fallbackText seed, 0, 0.0⟩) ∧
        (¬ standIn → ∃ error, failure.Becomes call.provider.id call.timeout error ∧
          result = .error error)) ∧
    (∀ id, result ≠ .error (.providerUnknown id)) ∧
    (∀ other stem, Text.IsStem '/' stem baseUrl → Text.IsStem '/' stem other →
      (ofKind kind (some other) fallback).client credentials seed (post kind) =
        backend.client credentials seed (post kind)) := by
  intro backend hop result posted
  have ofService : backend.service.kind = kind := Service.kind_ofKind kind
  refine ⟨fun fault missing => ?_, fun credential handed => ?_, fun id => ?_,
    fun other stem isStem otherStem => client_congr isStem otherStem fallback credentials seed _⟩
  · rw [← ofService] at missing
    have refused : backend.prepare credentials call = .error (.credentialMissing fault.message) :=
      prepare_of_missing missing
    have isHop : hop = _ := client_of_refused refused (world, [])
    exact ⟨congrArg (fun hop => hop.2.2) isHop, _, fault.told_message,
      congrArg (fun hop => hop.1.result) isHop⟩
  · rw [← ofService] at handed
    obtain ⟨request, made, url, body, timeout⟩ :
        ∃ request, backend.prepare credentials call = .ok request ∧ request.url = backend.url ∧
          request.body = backend.service.body call.provider call.prompt ∧
          request.timeout = call.timeout :=
      exists_prepare_of_handed handed
    have isHop : hop = _ := client_of_made made (world, [])
    refine ⟨request, congrArg (fun hop => hop.2.2) isHop,
      ⟨Text.stripEnd '/' baseUrl, Text.stripEnd_eq_iff.mp rfl, url⟩, ?_, timeout, ?_⟩
    · rw [body]
      exact Service.asks_body kind _ _
    · intro failure failed standIn
      have concluded : result = backend.conclude seed call (.error failure) := by
        rw [← failed]
        exact congrArg (fun hop => hop.1.result) isHop
      have standsIn : failure.isUnreachable = true ∧ backend.fallback = true ↔ standIn :=
        standsIn_iff
      rw [concluded]
      exact ⟨fun allowed =>
          conclude_of_unreachable (standsIn.mpr allowed).1 (standsIn.mpr allowed).2,
        fun refused => conclude_of_failure (mt standsIn.mp refused)⟩
  · intro unknown
    cases stored : credentials backend.service.kind with
    | error fault =>
      have isHop : hop = _ := client_of_refused (prepare_of_missing stored) (world, [])
      cases (congrArg (fun hop => hop.1.result) isHop).symm.trans unknown
    | ok credential =>
      obtain ⟨request, made, _⟩ := exists_prepare_of_handed stored
      have isHop : hop = _ := client_of_made made (world, [])
      exact conclude_ne_providerUnknown _ id
        ((congrArg (fun hop => hop.1.result) isHop).symm.trans unknown)

/-- A model server of one's own that cannot be reached, when nothing may stand in for it. -/
theorem hops_gated_unreachable :
    let provider : Provider := { id := "llama", displayName := "Llama", kind := .localServer }
    let post : Transport Unit := fun _ _ => pure ⟨10, .error (.connect "refused")⟩
    let hop := (ofKind .localServer (some "http://localhost:11434//") false).client
      (fun kind => .ok { kind, key := "" }) 0 (post.noting .localServer) ⟨provider, "Why?", 5000⟩
      ((), [])
    hop.1.result = .error (.upstream "llama" "Connection failed: refused") ∧
      hop.2.2.map (fun dispatch => dispatch.request.url) =
        ["http://localhost:11434/api/generate"] := by
  intro provider post hop
  obtain ⟨_, handed, _⟩ := hops_gated .localServer "http://localhost:11434//" false
    (fun kind => .ok { kind, key := "" }) 0 post ⟨provider, "Why?", 5000⟩ ()
  obtain ⟨request, posted, ⟨stem, isStem, url⟩, _, _, failed⟩ := handed _ rfl
  obtain ⟨_, noStandIn⟩ := failed (.connect "refused") rfl
  obtain ⟨error, becomes, result⟩ := noStandIn fun standIn => by cases standIn.2.1
  refine ⟨?_, ?_⟩
  · rw [result]
    cases becomes
    rfl
  · rw [posted, List.map_singleton, url, ← Text.stripEnd_eq_iff.mpr isStem]
    rfl

end Backend

end PromptRelay
