/-
**An HTTP client.**

A request is checked before anything is sent: its address and its headers. An answer counts by its
status; only the body of a successful one is read as JSON.

* `Posting.ofRequest`: what is sent for a request, or why nothing is;
* `HttpAnswer.result`: what an answer brings;
* `HttpFailure.unreached`, `HttpFailure.brokenOff`: the failures of the connection.
-/

import PromptRelay.Http.Exchange
import PromptRelay.Http.Url
import PromptRelay.Json.Parser
import PromptRelay.Json.Printer

namespace PromptRelay

/-- A request as it is sent. -/
structure Posting where
  url : Url
  headers : List (String × String)
  body : String
  deriving DecidableEq, Repr

/-- An answer as it comes. -/
structure HttpAnswer where
  status : Nat
  body : String
  deriving DecidableEq, Repr

namespace HttpFailure

/-- A request that could not be made. -/
def notBuilt (url : Option String) : HttpFailure :=
  let place := match url with
    | some url => s!" for url ({url})"
    | none => ""
  .request s!"builder error{place}"

/-- The wording of a request that could not be sent. -/
def notSent (url : Url) : String :=
  s!"error sending request for url ({url.text})"

/-- There is no connection to the server. -/
def unreached (url : Url) : HttpFailure :=
  .connect (notSent url)

/-- The connection ended without an answer. -/
def brokenOff (url : Url) : HttpFailure :=
  .request (notSent url)

end HttpFailure

/-- A character that may stand in the name of a header. -/
def isHeaderNameChar (character : Char) : Bool :=
  character.isAlphanum || character ∈ "!#$%&'*+-.^_|~\x60".toList

/-- The name can be one of a header. -/
def isHeaderName (name : String) : Bool :=
  !name.isEmpty && name.toList.all isHeaderNameChar

/-- The value can be one of a header: it has no controls but tabs. -/
def isHeaderValue (value : String) : Bool :=
  value.toList.all fun character =>
    character = '\t' || (0x20 ≤ character.toNat && character ≠ '\x7f')

namespace Posting

/-- The headers that are sent: the given ones, and word of JSON where they have none. -/
def headersOf (headers : List (String × String)) : List (String × String) :=
  let lowered := headers.map fun (name, value) => (name.toLower, value)
  if lowered.any fun header => header.1 = "content-type" then lowered
  else lowered ++ [("content-type", "application/json")]

/-- What is sent for a request, or why nothing is. -/
def ofRequest (request : HttpRequest) : Except HttpFailure Posting :=
  match Url.parse? request.url with
  | none => .error (.notBuilt none)
  | some (.foreign text) => .error (.notBuilt (some text))
  | some (.url url) =>
    if request.headers.all fun (name, value) => isHeaderName name && isHeaderValue value then
      .ok { url, headers := headersOf request.headers, body := request.body.compact }
    else .error (.notBuilt none)

end Posting

namespace HttpAnswer

/-- The status says that the request succeeded. -/
def succeeded (answer : HttpAnswer) : Bool :=
  200 ≤ answer.status && answer.status < 300

/-- An answer of this status has no body. -/
def isBodiless (status : Nat) : Bool :=
  status = 204 || status = 304

/-- The body, of which a status may leave nothing. -/
def content (answer : HttpAnswer) : String :=
  if isBodiless answer.status then "" else answer.body

/-- The body as a text, without a mark of byte order. -/
def text (answer : HttpAnswer) : String :=
  match answer.content.toList with
  | '\ufeff' :: rest => String.ofList rest
  | all => String.ofList all

/-- What an answer brings. -/
def result (answer : HttpAnswer) : Except HttpFailure Json :=
  if !answer.succeeded then .error (.status answer.status answer.text)
  else
    match Json.parse? answer.content with
    | some value => .ok value
    | none => .error (.decode "error decoding response body")

end HttpAnswer

end PromptRelay
