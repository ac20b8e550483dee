/-
**Runs against scripted replies.**

Replies are prepared by key. A key's replies are used up call by call, and the last one is given
again and again. Everything that was asked is noted in order.

* `Script`: the prepared replies;
* `Rehearsal`: the state of a rehearsed run;
* `Rehearsal.hopClient`, `Rehearsal.post`: a client and a transport that answer from the script.
-/

import PromptRelay.Http.Exchange
import PromptRelay.Run.Registry

namespace PromptRelay

/-- Prepared answers of a kind of backend, by key. -/
abbrev Script (Answer : Type) : Type := List ((BackendKind × String) × List Answer)

namespace Script

variable {Answer : Type}

/-- The next answer for a key, and the script without it unless it is the last one. -/
def next? (key : BackendKind × String) : Script Answer → Option (Answer × Script Answer)
  | [] => none
  | entry :: entries =>
    if entry.1 = key then
      match entry.2 with
      | [] => none
      | [last] => some (last, entry :: entries)
      | answer :: answers => some (answer, (key, answers) :: entries)
    else (next? key entries).map fun (answer, rest) => (answer, entry :: rest)

end Script

/-- Something that was asked of a scripted backend. -/
inductive Sighting where
  | hop (provider prompt : String) (timeout : Nat)
  | post (request : HttpRequest)

/-- The state of a rehearsed run: what is left of the scripts, and what was asked so far. -/
structure Rehearsal where
  hops : Script Reply := []
  posts : Script HttpReply := []
  seen : List Sighting := []

namespace Rehearsal

/-- Notes what was asked. -/
def note (rehearsal : Rehearsal) (sighting : Sighting) : Rehearsal :=
  { rehearsal with seen := rehearsal.seen ++ [sighting] }

/-- The answer to a hop for which nothing is prepared. -/
def noReply (provider : String) : Reply :=
  .refused (.upstream "mock" s!"No scripted reply for {provider}")

/-- A client of a kind that answers from the script. -/
def hopClient (kind : BackendKind) : Client (StateM Rehearsal) :=
  fun call rehearsal =>
    let noted := rehearsal.note (.hop call.provider.id call.prompt call.timeout)
    match noted.hops.next? (kind, call.provider.id) with
    | some (reply, rest) => (reply, { noted with hops := rest })
    | none => (noReply call.provider.id, noted)

/-- The answer to a request for which nothing is prepared. -/
def noResponse (url : String) : HttpReply :=
  ⟨0, .error (.connect s!"No mock response for {url}")⟩

/-- A transport of a kind of backend that answers from the script. -/
def post (kind : BackendKind) (request : HttpRequest) : StateM Rehearsal HttpReply :=
  fun rehearsal =>
    let noted := rehearsal.note (.post request)
    match noted.posts.next? (kind, request.url) with
    | some (reply, rest) => (reply, { noted with posts := rest })
    | none => (noResponse request.url, noted)

end Rehearsal

end PromptRelay
