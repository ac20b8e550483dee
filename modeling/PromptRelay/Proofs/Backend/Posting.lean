/-
**What is posted in a run.**

The clients of HTTP backends post their requests by a transport. The transport may note what it
posts. This does not change the run, as two runs come to the same result when their calls are
answered alike from worlds that match, and leave worlds that match again.

* `Dispatch`, `Transport`: a request with the kind of backend that it is posted for, and what posts
  it;
* `Wiring`, `Wiring.registry`: backends around a transport, and their clients;
* `Dialogue.run_matched`: runs in worlds that match;
* `Wiring.answer_matched`: calls are answered alike when matching requests are posted alike;
* `Wiring.posted`, `Wiring.run_noting`: what is posted in a run, and that noting it does no harm.
-/

import PromptRelay.Backend.Services
import PromptRelay.Proofs.Run.Hearing
import PromptRelay.Relay.Setup

namespace PromptRelay

variable {World First Second Result : Type}

/-- A request that is posted for a kind of backend. -/
structure Dispatch where
  kind : BackendKind
  request : HttpRequest

/-- What posts the requests of each kind of backend. -/
abbrev Transport (World : Type) : Type := BackendKind → HttpRequest → StateM World HttpReply

/-- The transport, which also notes what it posts. -/
def Transport.noting (post : Transport World) : Transport (World × List Dispatch) :=
  fun kind request state =>
    let answered := post kind request state.1
    (answered.1, (answered.2, state.2 ++ [⟨kind, request⟩]))

/-- The backend of each kind that has one, the seed of their canned texts, and what posts their
requests. -/
structure Wiring (World : Type) where
  backend? : BackendKind → Option Backend
  seed : Nat
  post : Transport World

namespace Wiring

/-- The clients of the backends, with credentials. -/
def registry (wiring : Wiring World) (credentials : Credentials) : Registry (StateM World) :=
  ⟨fun kind => (wiring.backend? kind).map fun backend =>
    backend.client credentials wiring.seed (wiring.post kind)⟩

/-- The clients of a configuration are those of its three backends, which share a transport. -/
theorem registry_ofConfig (config : Config) (credentials : Credentials) (seed : Nat)
    (post : HttpRequest → StateM World HttpReply) :
    config.registry credentials seed post =
      registry ⟨fun kind => some (config.backend kind), seed, fun _ => post⟩ credentials :=
  rfl

/-- The backends around a transport that notes what it posts. -/
def noting (wiring : Wiring World) : Wiring (World × List Dispatch) where
  backend? := wiring.backend?
  seed := wiring.seed
  post := wiring.post.noting

end Wiring

/-! ### Runs in worlds that match -/

namespace Dialogue

section Matched

variable {answer : HopCall → StateM First Reply} {other : HopCall → StateM Second Reply}
  {related : First → Second → Prop}

/-- Calls that are answered alike one by one are answered alike one after the other. -/
theorem mapM_matched
    (matched : ∀ call first second, related first second →
      (answer call first).1 = (other call second).1 ∧
        related (answer call first).2 (other call second).2)
    (calls : List HopCall) {first : First} {second : Second} (start : related first second) :
    (calls.mapM answer first).1 = (calls.mapM other second).1 ∧
      related (calls.mapM answer first).2 (calls.mapM other second).2 := by
  induction calls generalizing first second with
  | nil => exact ⟨rfl, start⟩
  | cons call calls hypothesis =>
    obtain ⟨reply, next⟩ := matched call first second start
    obtain ⟨replies, last⟩ := hypothesis next
    rw [List.mapM_cons, List.mapM_cons]
    refine ⟨?_, last⟩
    show (answer call first).1 :: (calls.mapM answer (answer call first).2).1 = _
    rw [reply, replies]
    rfl

/-- **Runs in worlds that match** come to the same result, and to worlds that match. -/
theorem run_matched
    (matched : ∀ call first second, related first second →
      (answer call first).1 = (other call second).1 ∧
        related (answer call first).2 (other call second).2)
    (dialogue : Dialogue Result) {first : First} {second : Second} (start : related first second) :
    (dialogue.run answer first).1 = (dialogue.run other second).1 ∧
      related (dialogue.run answer first).2 (dialogue.run other second).2 := by
  induction dialogue generalizing first second with
  | done result => exact ⟨rfl, start⟩
  | ask call next hypothesis =>
    obtain ⟨reply, going⟩ := matched call first second start
    show ((next (answer call first).1).run answer (answer call first).2).1 =
        ((next (other call second).1).run other (other call second).2).1 ∧
      related ((next (answer call first).1).run answer (answer call first).2).2
        ((next (other call second).1).run other (other call second).2).2
    rw [reply]
    exact hypothesis _ going
  | askAll calls next hypothesis =>
    obtain ⟨replies, going⟩ := mapM_matched matched calls start
    let answered := calls.mapM answer first
    let otherAnswered := calls.mapM other second
    show ((next answered.1).run answer answered.2).1 =
        ((next otherAnswered.1).run other otherAnswered.2).1 ∧
      related ((next answered.1).run answer answered.2).2
        ((next otherAnswered.1).run other otherAnswered.2).2
    rw [show answered.1 = otherAnswered.1 from replies]
    exact hypothesis _ going

end Matched

end Dialogue

/-! ### The client of a backend -/

namespace Backend

variable {backend : Backend} {credentials : Credentials} {seed : Nat}
  {post : HttpRequest → StateM World HttpReply} {call : ClientCall}

/-- Without a request nothing is posted. -/
theorem client_of_refused {error : HopError}
    (refused : backend.prepare credentials call = .error error) (world : World) :
    backend.client credentials seed post call world = (.refused error, world) := by
  unfold client
  rw [refused]
  rfl

/-- A request is posted, and what it brings is the answer. -/
theorem client_of_made {request : HttpRequest}
    (made : backend.prepare credentials call = .ok request) (world : World) :
    backend.client credentials seed post call world =
      let posted := post request world
      (⟨posted.1.delay, backend.conclude seed call posted.1.result⟩, posted.2) := by
  unfold client
  rw [made]
  rfl

end Backend

/-- What two clients make of a call: neither makes a request, for the same reason, or both make
requests that match. -/
inductive SameRequests (matching : HttpRequest → HttpRequest → Prop) :
    Except HopError HttpRequest → Except HopError HttpRequest → Prop where
  | refused (error : HopError) : SameRequests matching (.error error) (.error error)
  | made {request other : HttpRequest} (alike : matching request other) :
      SameRequests matching (.ok request) (.ok other)

/-- **Calls are answered alike** when matching requests are made for them and are posted alike. -/
theorem Wiring.answer_matched (wiring : Wiring First) (other : Wiring Second)
    {credentials otherCredentials : Credentials} (matching : HttpRequest → HttpRequest → Prop)
    (related : First → Second → Prop) (sameBackends : wiring.backend? = other.backend?)
    (sameSeed : wiring.seed = other.seed)
    (prepared : ∀ (backend : Backend) (call : ClientCall), SameRequests matching
      (backend.prepare credentials call) (backend.prepare otherCredentials call))
    (posted : ∀ kind request otherRequest first second, matching request otherRequest →
      related first second →
      (wiring.post kind request first).1 = (other.post kind otherRequest second).1 ∧
        related (wiring.post kind request first).2 (other.post kind otherRequest second).2)
    (catalog : Catalog) (call : HopCall) (first : First) (second : Second)
    (start : related first second) :
    let answered := (wiring.registry credentials).answer catalog call first
    let otherAnswered := (other.registry otherCredentials).answer catalog call second
    answered.1 = otherAnswered.1 ∧ related answered.2 otherAnswered.2 := by
  unfold Registry.answer Registry.lookup
  cases catalog.lookup call.provider with
  | error error => exact ⟨rfl, start⟩
  | ok provider =>
    unfold registry
    dsimp only
    rw [sameBackends, sameSeed]
    cases other.backend? provider.kind with
    | none => exact ⟨rfl, start⟩
    | some backend =>
      let clientCall : ClientCall := ⟨provider, call.prompt, call.timeout⟩
      have requests := prepared backend clientCall
      show (backend.client credentials other.seed (wiring.post provider.kind) clientCall first).1 =
          (backend.client otherCredentials other.seed (other.post provider.kind) clientCall
            second).1 ∧
        related
          (backend.client credentials other.seed (wiring.post provider.kind) clientCall first).2
          (backend.client otherCredentials other.seed (other.post provider.kind) clientCall second).2
      generalize made : backend.prepare credentials clientCall = result at requests
      generalize otherMade : backend.prepare otherCredentials clientCall = otherResult at requests
      cases requests with
      | refused error =>
        rw [Backend.client_of_refused made, Backend.client_of_refused otherMade]
        exact ⟨rfl, start⟩
      | made alike =>
        obtain ⟨reply, last⟩ := posted provider.kind _ _ first second alike start
        rw [Backend.client_of_made made, Backend.client_of_made otherMade]
        dsimp only
        rw [reply]
        exact ⟨rfl, last⟩

/-! ### What is posted in a run -/

namespace Wiring

variable (wiring : Wiring World) (credentials : Credentials) (catalog : Catalog)

/-- What is posted in a dialogue, in the order in which it is posted. -/
def posted (dialogue : Dialogue Result) (world : World) : List Dispatch :=
  (dialogue.run ((wiring.noting.registry credentials).answer catalog) (world, [])).2.2

/-- What is posted does not depend on what is made of the result. -/
theorem posted_map (change : First → Result) (dialogue : Dialogue First) (world : World) :
    wiring.posted credentials catalog (dialogue.map change) world =
      wiring.posted credentials catalog dialogue world := by
  unfold posted
  rw [Dialogue.run_map]

/-- **A transport that notes what it posts** leaves the run as it is. -/
theorem run_noting (dialogue : Dialogue Result) (world : World) :
    (dialogue.run ((wiring.noting.registry credentials).answer catalog) (world, [])).1 =
      (dialogue.run ((wiring.registry credentials).answer catalog) world).1 := by
  have prepared : ∀ (backend : Backend) (call : ClientCall), SameRequests (· = ·)
      (backend.prepare credentials call) (backend.prepare credentials call) := by
    intro backend call
    cases backend.prepare credentials call with
    | error error => exact .refused error
    | ok request => exact .made rfl
  refine (Dialogue.run_matched (wiring.noting.answer_matched wiring (· = ·)
    (fun state world => state.1 = world) rfl rfl prepared ?_ catalog) dialogue rfl).1
  rintro kind request _ ⟨world, notes⟩ _ rfl rfl
  exact ⟨rfl, rfl⟩

end Wiring

end PromptRelay
