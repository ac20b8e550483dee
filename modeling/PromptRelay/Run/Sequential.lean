/-
**One hop after the other.**

Each hop's prompt holds the answers before it. After a failed hop the run goes on or stops, as the
policy says. After a successful hop that brings the total cost over the budget the remaining hops
are skipped, so at most one hop overshoots it. The run is cut where the chain's time limit comes
before the hop's end; a hop that ends at the very limit still counts.

* `sequential`: the hops from an index on.
-/

import PromptRelay.Run.Progress

namespace PromptRelay

/-- The prompt of a hop, made from the answers so far. -/
def Plan.promptAfter (plan : Plan) (index : Nat) (chain : Chain) : String :=
  plan.templates.render (.ofIndex index plan.pattern.hopCount) chain.input chain.contents

/-- The hops of the remaining providers, the first of which has the given index. -/
def sequential (plan : Plan) : List String → Nat → Progress → Dialogue (Progress × Ending)
  | [], _, progress => .done (progress, .settled)
  | provider :: rest, index, progress =>
    let call := plan.call index provider (plan.promptAfter index progress.chain)
    let launched := progress.launch call
    .ask call fun reply =>
      let seen := reply.within plan.settings.hopTimeout
      if plan.settings.chainTimeout < launched.elapsed + seen.delay then
        .done ({ launched with turn := .free }, .timedOut)
      else
        let waited := launched.wait seen.delay
        match waited.settle call seen with
        | .error error => .done (waited, .failed error)
        | .ok settled =>
          match seen.result with
          | .error source =>
            match plan.settings.policy with
            | .abort => .done (settled, .failed (.hopAborted index provider source))
            | .continue => sequential plan rest (index + 1) settled
          | .ok _ =>
            if plan.settings.budget < settled.chain.totalCost && !rest.isEmpty then
              .done (settled.tell
                (.budgetExceeded settled.chain.totalCost plan.settings.budget rest.length),
                .settled)
            else sequential plan rest (index + 1) settled

end PromptRelay
