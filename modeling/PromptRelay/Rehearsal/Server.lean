/-
**A scripted server.**

The server stands at one address and has its answers prepared by path, used up call by call, the
last one being given again and again. A path for which nothing is prepared is not found. Everything
that arrives is noted. At every other address there is nobody.

* `ServerScript`: the address, what is left of the answers, and what arrived;
* `ServerScript.post`: a transport to the server.
-/

import PromptRelay.Http.Client
import PromptRelay.Rehearsal.Script

namespace PromptRelay

/-- What a scripted server does with a request. -/
inductive ServerMove where
  | answer (answer : HttpAnswer)
  /-- The connection is closed without an answer. -/
  | hangUp
  deriving DecidableEq, Repr

/-- A prepared answer, and the milliseconds before it. -/
structure ServerReply where
  delay : Nat
  move : ServerMove
  deriving DecidableEq, Repr

/-- A server with its prepared answers and what arrived so far. -/
structure ServerScript where
  /-- The scheme, host and port. -/
  address : Url
  answers : List (String × List ServerReply)
  arrived : List Posting := []

namespace ServerScript

/-- The answer to a path for which nothing is prepared. -/
def notFound : ServerReply := ⟨0, .answer ⟨404, ""⟩⟩

/-- The next answer for a path, and the answers without it unless it is the last one. -/
def next (path : String) : List (String × List ServerReply) →
    ServerReply × List (String × List ServerReply)
  | [] => (notFound, [])
  | entry :: entries =>
    if entry.1 = path then
      match entry.2 with
      | [] => (notFound, entry :: entries)
      | [last] => (last, entry :: entries)
      | reply :: replies => (reply, (path, replies) :: entries)
    else
      let (reply, rest) := next path entries
      (reply, entry :: rest)

/-- The server stands at the address. -/
def serves (script : ServerScript) (url : Url) : Bool :=
  url.scheme = script.address.scheme && url.authority = script.address.authority

/-- What a prepared answer brings to a request that waits for some milliseconds. -/
def outcome (reply : ServerReply) (url : Url) (timeout : Nat) : HttpReply :=
  if timeout < reply.delay then ⟨timeout, .error .timeout⟩
  else
    match reply.move with
    | .answer answer => ⟨reply.delay, answer.result⟩
    | .hangUp => ⟨reply.delay, .error (.brokenOff url)⟩

/-- Posts a request to whoever is at its address. -/
def post (request : HttpRequest) : StateM ServerScript HttpReply :=
  fun script =>
    match Posting.ofRequest request with
    | .error failure => (⟨0, .error failure⟩, script)
    | .ok posting =>
      if script.serves posting.url then
        let (reply, rest) := next posting.url.target script.answers
        (outcome reply posting.url request.timeout,
          { script with answers := rest, arrived := script.arrived ++ [posting] })
      else (⟨0, .error (.unreached posting.url)⟩, script)

end ServerScript

end PromptRelay
