/-
**Why a hop fails.**

* `FailureKind`: the four kinds of failure, with their words;
* `HopError`: a failure with its cause, `HopError.message` its wording.
-/

namespace PromptRelay

/-- What kind of thing went wrong with a hop. -/
inductive FailureKind where
  | providerUnknown
  | credentialMissing
  | timeout
  | upstreamError
  deriving DecidableEq, Repr, Inhabited

namespace FailureKind

/-- All kinds, in the order in which they are listed to a reader. -/
def all : List FailureKind :=
  [.providerUnknown, .credentialMissing, .timeout, .upstreamError]

/-- The word for a kind. -/
def word : FailureKind → String
  | .providerUnknown => "provider_unknown"
  | .credentialMissing => "credential_missing"
  | .timeout => "timeout"
  | .upstreamError => "upstream_error"

end FailureKind

/-- Why a hop failed. A failed hop is dealt with by the chain's fallback policy. -/
inductive HopError where
  /-- The catalog has no provider of this id. -/
  | providerUnknown (id : String)
  /-- No usable credential, or one that the service refused. -/
  | credentialMissing (detail : String)
  /-- No answer within the time limit. -/
  | timeout (milliseconds : Nat)
  /-- The service behind the provider failed or answered something unusable. -/
  | upstream (provider detail : String)
  deriving DecidableEq, Repr, Inhabited

namespace HopError

/-- The kind of a failure. -/
def kind : HopError → FailureKind
  | .providerUnknown _ => .providerUnknown
  | .credentialMissing _ => .credentialMissing
  | .timeout _ => .timeout
  | .upstream _ _ => .upstreamError

/-- The wording of a failure. -/
def message : HopError → String
  | .providerUnknown id => s!"Provider '{id}' is not in the catalog"
  | .credentialMissing detail => s!"Credential missing: {detail}"
  | .timeout milliseconds => s!"Hop timed out after {milliseconds}ms"
  | .upstream provider detail => s!"Upstream error: {provider} - {detail}"

end HopError

end PromptRelay
