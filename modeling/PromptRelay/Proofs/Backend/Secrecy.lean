/-
**Secrets stay in headers.**

The key and the parameters of a credential go into the headers of requests and nowhere else. So it
makes no difference which ones are handed out: where replies do not depend on headers, two runs with
different credentials come to the same result and post the same but for headers. What is said about
a missing or a rejected credential does not tell more.

* `Transport.Indistinct`, `Transport.IgnoresHeaders`: replies that do not depend on headers;
* `Credentials.Alike`: credentials that are handed out, or missing, for the same kinds;
* `Backend.prepare_alike`: the requests that are made with them differ in headers alone;
* `Wiring.run_alike`: so do all that are posted in a run, which comes to the same result;
* `Answered.essence`, `Relay.answer_essence`: a request, but for the id and the times of its chain;
* `Wiring.secrets_kept`: the same for the runs of a plan and for requests.
-/

import PromptRelay.Proofs.Backend.Posting
import PromptRelay.Proofs.Relay.Answers
import PromptRelay.Proofs.Run.Essence

namespace PromptRelay

variable {World Result : Type}

/-! ### Requests without their headers -/

/-- The request without its headers. -/
def HttpRequest.unheaded (request : HttpRequest) : HttpRequest :=
  { request with headers := [] }

/-- What is posted, without its headers. -/
def Dispatch.unheaded (dispatch : Dispatch) : Dispatch :=
  { dispatch with request := dispatch.request.unheaded }

namespace Transport

/-- What requests bring that are posted one after the other. -/
def replies (post : Transport World) : List Dispatch → World → List HttpReply
  | [], _ => []
  | dispatch :: dispatches, world =>
    let answered := post dispatch.kind dispatch.request world
    answered.1 :: replies post dispatches answered.2

/-- Requests that differ in headers alone bring the same, posted from the one world and from the
other. -/
def Indistinct (post : Transport World) (world other : World) : Prop :=
  ∀ first second : List Dispatch,
    first.map Dispatch.unheaded = second.map Dispatch.unheaded →
    post.replies first world = post.replies second other

/-- What requests bring from a world on does not depend on their headers. -/
def IgnoresHeaders (post : Transport World) (world : World) : Prop :=
  post.Indistinct world world

variable {post : Transport World} {world other : World}

/-- From indistinct worlds requests that differ in headers alone bring the same, and lead to such
worlds. -/
theorem Indistinct.step (indistinct : post.Indistinct world other) (kind : BackendKind)
    {request otherRequest : HttpRequest} (alike : request.unheaded = otherRequest.unheaded) :
    (post kind request world).1 = (post kind otherRequest other).1 ∧
      post.Indistinct (post kind request world).2 (post kind otherRequest other).2 := by
  have sameHead : (Dispatch.mk kind request).unheaded = (Dispatch.mk kind otherRequest).unheaded :=
    congrArg (Dispatch.mk kind) alike
  have bring : ∀ first second : List Dispatch,
      first.map Dispatch.unheaded = second.map Dispatch.unheaded →
      post.replies (⟨kind, request⟩ :: first) world =
        post.replies (⟨kind, otherRequest⟩ :: second) other := by
    intro first second same
    refine indistinct _ _ ?_
    rw [List.map_cons, List.map_cons, sameHead, same]
  constructor
  · exact (List.cons.inj (bring [] [] rfl)).1
  · intro first second same
    exact (List.cons.inj (bring first second same)).2

/-- **Worlds are indistinct** when one request leads from such worlds to such worlds. -/
theorem indistinct_of_step (related : World → World → Prop)
    (step : ∀ kind request otherRequest world other, request.unheaded = otherRequest.unheaded →
      related world other → (post kind request world).1 = (post kind otherRequest other).1 ∧
        related (post kind request world).2 (post kind otherRequest other).2)
    (start : related world other) : post.Indistinct world other := by
  intro first
  induction first generalizing world other with
  | nil =>
    intro second same
    rw [List.map_eq_nil_iff.mp same.symm]
    rfl
  | cons dispatch first hypothesis =>
    intro second same
    cases second with
    | nil => cases same
    | cons otherDispatch second =>
      obtain ⟨head, tail⟩ := List.cons.inj same
      have kinds : dispatch.kind = otherDispatch.kind := (congrArg Dispatch.kind head :)
      have requests : dispatch.request.unheaded = otherDispatch.request.unheaded :=
        (congrArg Dispatch.request head :)
      obtain ⟨reply, next⟩ := step dispatch.kind _ _ world other requests start
      show _ :: _ = _ :: _
      rw [← kinds, reply, hypothesis next second tail]

end Transport

/-- A scripted transport looks at the address of a request alone. -/
theorem Rehearsal.post_ignoresHeaders (world : Rehearsal) :
    Transport.IgnoresHeaders Rehearsal.post world := by
  refine Transport.indistinct_of_step (fun first second => first.posts = second.posts) ?_ rfl
  intro kind request otherRequest first second same scripts
  have url : request.url = otherRequest.url := (congrArg HttpRequest.url same :)
  have replies : (first.note (.post request)).posts.next? (kind, request.url) =
      (second.note (.post otherRequest)).posts.next? (kind, otherRequest.url) := by
    show first.posts.next? _ = second.posts.next? _
    rw [scripts, url]
  unfold post
  dsimp only
  rw [replies]
  cases (second.note (.post otherRequest)).posts.next? (kind, otherRequest.url) with
  | none => exact ⟨by rw [url], scripts⟩
  | some next => exact ⟨rfl, rfl⟩

/-! ### Credentials that are alike -/

namespace Credentials

/-- What two stores have for a kind: both a credential, or both none, which they tell with the same
message. -/
inductive AlikeAt : Except CredentialFault Credential → Except CredentialFault Credential → Prop where
  | handed (credential other : Credential) : AlikeAt (.ok credential) (.ok other)
  | missing {fault other : CredentialFault} (same : fault.message = other.message) :
      AlikeAt (.error fault) (.error other)

/-- Two stores have credentials for the same kinds, and the same messages for the others. -/
def Alike (credentials other : Credentials) : Prop :=
  ∀ kind, AlikeAt (credentials kind) (other kind)

end Credentials

/-- **The requests that are made differ in headers alone**, if any are made. -/
theorem Backend.prepare_alike {credentials other : Credentials} (alike : credentials.Alike other)
    (backend : Backend) (call : ClientCall) :
    SameRequests (fun request otherRequest => request.unheaded = otherRequest.unheaded)
      (backend.prepare credentials call) (backend.prepare other call) := by
  have stores := alike backend.service.kind
  unfold prepare
  generalize credentials backend.service.kind = handed at stores ⊢
  generalize other backend.service.kind = otherHanded at stores ⊢
  cases stores with
  | handed credential otherCredential => exact .made rfl
  | missing same =>
    dsimp only
    rw [same]
    exact .refused _

namespace Wiring

variable (wiring : Wiring World) {credentials other : Credentials}

/-- **With credentials that are alike** a run comes to the same result, and posts the same but for
headers. -/
theorem run_alike (alike : credentials.Alike other) {world : World}
    (ignores : wiring.post.IgnoresHeaders world) (catalog : Catalog) (dialogue : Dialogue Result) :
    (dialogue.run ((wiring.registry credentials).answer catalog) world).1 =
        (dialogue.run ((wiring.registry other).answer catalog) world).1 ∧
      (wiring.posted credentials catalog dialogue world).map Dispatch.unheaded =
        (wiring.posted other catalog dialogue world).map Dispatch.unheaded := by
  -- the worlds stay indistinct, and the notes the same but for headers
  let related (first second : World × List Dispatch) : Prop :=
    wiring.post.Indistinct first.1 second.1 ∧
      first.2.map Dispatch.unheaded = second.2.map Dispatch.unheaded
  have start : related (world, []) (world, []) := ⟨ignores, rfl⟩
  have ended := Dialogue.run_matched (wiring.noting.answer_matched wiring.noting _ related rfl rfl
    (Backend.prepare_alike alike) ?_ catalog) dialogue start
  · rw [wiring.run_noting, wiring.run_noting] at ended
    exact ⟨ended.1, ended.2.2⟩
  · rintro kind request otherRequest ⟨first, notes⟩ ⟨second, otherNotes⟩ same
      ⟨indistinct, sameNotes⟩
    obtain ⟨reply, next⟩ := indistinct.step kind same
    refine ⟨reply, next, ?_⟩
    show (notes ++ [_]).map _ = (otherNotes ++ [_]).map _
    rw [List.map_append, List.map_append, sameNotes]
    exact congrArg (fun request => otherNotes.map Dispatch.unheaded ++ [⟨kind, request⟩]) same

/-- So do runs that are the same but for a change of their results. -/
theorem run_alike_map {First : Type} (alike : credentials.Alike other) {world : World}
    (ignores : wiring.post.IgnoresHeaders world) (catalog : Catalog) {change : First → Result}
    {dialogue otherDialogue : Dialogue First}
    (same : dialogue.map change = otherDialogue.map change) :
    change (dialogue.run ((wiring.registry credentials).answer catalog) world).1 =
        change (otherDialogue.run ((wiring.registry other).answer catalog) world).1 ∧
      (wiring.posted credentials catalog dialogue world).map Dispatch.unheaded =
        (wiring.posted other catalog otherDialogue world).map Dispatch.unheaded := by
  obtain ⟨result, posts⟩ := wiring.run_alike alike ignores catalog (dialogue.map change)
  constructor
  · rw [Dialogue.run_map, same, Dialogue.run_map] at result
    exact result
  · rw [posted_map, same, posted_map] at posts
    exact posts

end Wiring

/-! ### Requests, but for the ids of their chains -/

/-- What came of a request, but for the id and the times of its chain. -/
def Answered.essence (answered : Answered) : Answered :=
  { answered with
    response := { answered.response with chainId := "" }
    chain := answered.chain.essence }

theorem Answered.essence_ofExecution (execution : Execution) :
    (ofExecution execution.essence).essence = (ofExecution execution).essence := by
  unfold ofExecution
  have outcome : execution.essence.outcome = execution.outcome := rfl
  rw [outcome]
  cases execution.outcome with
  | ok text => rfl
  | error error => rfl

/-- A request is answered in the same way whatever id its chain has and whenever it is made. -/
theorem Relay.answer_essence (relay : Relay) (id other : ChainId) (now later : Timestamp)
    (request : RelayRequest) (turn : Turn) :
    (relay.answer id now request turn).map Answered.essence =
      (relay.answer other later request turn).map Answered.essence := by
  unfold answer
  cases relay.selector.select request.wish with
  | error error => rfl
  | ok pattern =>
    -- what is made of a run does not depend on what the run has not looked at
    have forgets : ∀ dialogue : Dialogue Execution,
        (dialogue.map Answered.ofExecution).map Answered.essence =
          (dialogue.map Execution.essence).map (Answered.essence ∘ Answered.ofExecution) := by
      intro dialogue
      rw [Dialogue.map_map, Dialogue.map_map]
      apply congrArg fun change => dialogue.map change
      funext execution
      exact (Answered.essence_ofExecution execution).symm
    have same : (Chain.new id now pattern.name request.text).essence =
        (Chain.new other later pattern.name request.text).essence := rfl
    dsimp only
    rw [forgets, forgets, execute_congr _ same]

namespace Wiring

/-- **Secrets stay in headers.** Where replies do not depend on headers, stores that have credentials
for the same kinds, and the same messages for the others, are indistinguishable. The run of a
plan with the one and with the other, on chains that are the same but for their ids and times, comes
to the same result, with the same records and events, and posts the same but for headers. So does
a request, and it gets the same response but for the id of its chain. -/
theorem secrets_kept (wiring : Wiring World) (credentials other : Credentials)
    (alike : credentials.Alike other) (world : World)
    (ignores : wiring.post.IgnoresHeaders world) (turn : Turn) :
    (∀ (plan : Plan) (chain otherChain : Chain), chain.essence = otherChain.essence →
      ((wiring.registry credentials).perform plan chain turn world).essence =
          ((wiring.registry other).perform plan otherChain turn world).essence ∧
        (wiring.posted credentials plan.catalog (execute plan chain turn) world).map
            Dispatch.unheaded =
          (wiring.posted other plan.catalog (execute plan otherChain turn) world).map
            Dispatch.unheaded) ∧
    (∀ (relay : Relay) (request : RelayRequest) (id otherId : ChainId) (now otherNow : Timestamp),
      ((wiring.registry credentials).answered relay id now request turn world).essence =
          ((wiring.registry other).answered relay otherId otherNow request turn world).essence ∧
        (wiring.posted credentials relay.catalog (relay.answer id now request turn) world).map
            Dispatch.unheaded =
          (wiring.posted other relay.catalog (relay.answer otherId otherNow request turn) world).map
            Dispatch.unheaded) := by
  constructor
  · intro plan chain otherChain same
    exact wiring.run_alike_map alike ignores plan.catalog (execute_congr plan same turn)
  · intro relay request id otherId now otherNow
    exact wiring.run_alike_map alike ignores relay.catalog
      (relay.answer_essence id otherId now otherNow request turn)

/-- Two keys are posted with every prompt, and nothing else differs. -/
theorem secrets_kept_solo :
    let wiring : Wiring Rehearsal := ⟨fun kind => some (.ofKind kind none true), 0, Rehearsal.post⟩
    let first : Credentials := fun kind => .ok { kind, key := "first" }
    let second : Credentials := fun kind => .ok { kind, key := "second" }
    let world : Rehearsal := { posts := [((.openAi, "https://api.openai.com/v1/chat/completions"),
      [⟨10, .error (.status 401 "no")⟩])] }
    let run := execute (.solo 2 {}) .solo .free
    let posted := wiring.posted first .solo run world
    let otherPosted := wiring.posted second .solo run world
    posted.map Dispatch.unheaded = otherPosted.map Dispatch.unheaded ∧ posted.length = 2 ∧
      posted.map (fun dispatch => dispatch.request.headers) ≠
        otherPosted.map fun dispatch => dispatch.request.headers := by
  intro wiring first second world run posted otherPosted
  have alike : first.Alike second := fun kind => .handed _ _
  obtain ⟨runs, _⟩ := secrets_kept wiring first second alike world
    (Rehearsal.post_ignoresHeaders world) .free
  exact ⟨(runs (.solo 2 {}) .solo .solo rfl).2, by decide +kernel, by decide +kernel⟩

end Wiring

end PromptRelay
