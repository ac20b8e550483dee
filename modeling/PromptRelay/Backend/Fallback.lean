/-
**Canned texts.**

* `fallbackText`: one of five texts that stand in for a local server that cannot be reached.
-/

namespace PromptRelay

/-- The canned text for a seed; seeds that agree modulo five share one. -/
def fallbackText (seed : Nat) : String :=
  match seed % 5 with
  | 0 =>
    "The local model is offline right now, so here is a short note instead: the question " ++
      "deserves a careful answer, and the next hop will take it from here."
  | 1 =>
    "Local inference is unavailable at the moment. Consider the question from first principles " ++
      "and break it into smaller parts."
  | 2 =>
    "The on-device model could not be reached. A good starting point is to restate the problem " ++
      "and list what is already known."
  | 3 =>
    "No local model response is available. Focus on the core of the question and the " ++
      "constraints it implies."
  | _ =>
    "The local backend did not answer. Treat this as a placeholder draft and refine it with the " ++
      "responses that follow."

end PromptRelay
