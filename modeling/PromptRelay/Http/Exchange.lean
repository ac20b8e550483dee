/-
**Posting JSON over HTTP.**

* `HttpRequest`: what is posted;
* `HttpFailure`: why no JSON came back, `HttpFailure.message` its wording;
* `HttpFailure.hopError`: the failure of a hop that it makes.
-/

import PromptRelay.Hop.Failure
import PromptRelay.Json.Value

namespace PromptRelay

/-- A request that posts JSON, with a time limit in milliseconds. -/
structure HttpRequest where
  url : String
  headers : List (String × String)
  body : Json
  timeout : Nat

/-- Why a request brought no JSON. -/
inductive HttpFailure where
  | connect (detail : String)
  | timeout
  | status (code : Nat) (body : String)
  | request (detail : String)
  | decode (detail : String)
  deriving DecidableEq, Repr, Inhabited

namespace HttpFailure

/-- The wording of a failure. -/
def message : HttpFailure → String
  | .connect detail => s!"Connection failed: {detail}"
  | .timeout => "Request timed out"
  | .status code body => s!"HTTP {code}: {body}"
  | .request detail => s!"Request failed: {detail}"
  | .decode detail => s!"Failed to parse response: {detail}"

/-- The server was not reached at all. -/
def isUnreachable : HttpFailure → Bool
  | .connect _ => true
  | _ => false

/-- The failure of a provider's hop. A refused credential counts as a missing one. -/
def hopError (failure : HttpFailure) (provider : String) (timeout : Nat) : HopError :=
  match failure with
  | .timeout => .timeout timeout
  | .status code _ =>
    if code = 401 || code = 403 then
      .credentialMissing s!"{provider} rejected the credential: {failure.message}"
    else .upstream provider failure.message
  | _ => .upstream provider failure.message

end HttpFailure

/-- What a request brings, and after how many milliseconds. -/
structure HttpReply where
  delay : Nat
  result : Except HttpFailure Json

end PromptRelay
