/-
**The dialogue between a run and its backends.**

A run asks for hops and goes on from the replies. What it does is a tree: at each node one hop is
asked for, or several at once, and the reply decides where to go on. A run against real services and
one against scripted replies walk through the same tree.

* `Dialogue`: the tree;
* `Dialogue.runWith`: a walk through it, given what answers a hop;
* `Reply.within`: a reply seen from a run that waits no longer than a time limit.
-/

import PromptRelay.Hop.Record

namespace PromptRelay

/-- A hop that a run asks for. -/
structure HopCall where
  index : Nat
  provider : String
  prompt : String
  /-- The time limit in milliseconds. -/
  timeout : Nat
  deriving DecidableEq, Repr

/-- What comes back for a hop, and after how many milliseconds. -/
structure Reply where
  delay : Nat
  result : Except HopError HopOutput

namespace Reply

/-- A failure that needs no time. -/
def refused (error : HopError) : Reply := ⟨0, .error error⟩

/-- The reply as a run sees it that waits for it no longer than a limit. A reply at the very limit
still counts. -/
def within (reply : Reply) (limit : Nat) : Reply :=
  if limit < reply.delay then ⟨limit, .error (.timeout limit)⟩ else reply

/-- The time that passes is the reply's own, cut at the limit. -/
theorem within_delay (reply : Reply) (limit : Nat) :
    (reply.within limit).delay = min reply.delay limit := by
  unfold within
  split
  · rename_i late
    exact (Nat.min_eq_right (Nat.le_of_lt late)).symm
  · rename_i inTime
    exact (Nat.min_eq_left (Nat.not_lt.mp inTime)).symm

/-- A reply within its time limit is seen as it is. -/
theorem within_eq_self {reply : Reply} {limit : Nat} (inTime : reply.delay ≤ limit) :
    reply.within limit = reply := by
  unfold within
  rw [if_neg (Nat.not_lt.mpr inTime)]

end Reply

/-- What a run asks for and how it goes on. -/
inductive Dialogue (Result : Type) where
  | done (result : Result)
  | ask (call : HopCall) (next : Reply → Dialogue Result)
  /-- Hops that are under way together; the replies come in the order of the calls. -/
  | askAll (calls : List HopCall) (next : List Reply → Dialogue Result)

namespace Dialogue

variable {First Result : Type}

/-- The dialogue with its result changed. -/
def map (change : First → Result) : Dialogue First → Dialogue Result
  | .done result => .done (change result)
  | .ask call next => .ask call fun reply => (next reply).map change
  | .askAll calls next => .askAll calls fun replies => (next replies).map change

/-- Goes on with a second dialogue where the first one ends. -/
def andThen (next : First → Dialogue Result) : Dialogue First → Dialogue Result
  | .done result => next result
  | .ask call rest => .ask call fun reply => (rest reply).andThen next
  | .askAll calls rest => .askAll calls fun replies => (rest replies).andThen next

/-- The result, given what answers a hop and what answers several at once. -/
def runWith {Effect : Type → Type} [Monad Effect] (answer : HopCall → Effect Reply)
    (answerAll : List HopCall → Effect (List Reply)) : Dialogue Result → Effect Result
  | .done result => pure result
  | .ask call next => do
    let reply ← answer call
    (next reply).runWith answer answerAll
  | .askAll calls next => do
    let replies ← answerAll calls
    (next replies).runWith answer answerAll

/-- The result, where hops asked for together are answered in their order. -/
def run {Effect : Type → Type} [Monad Effect] (answer : HopCall → Effect Reply)
    (dialogue : Dialogue Result) : Effect Result :=
  dialogue.runWith answer fun calls => calls.mapM answer

/-- A property of the result whatever the replies are. -/
def Always (property : Result → Prop) : Dialogue Result → Prop
  | .done result => property result
  | .ask _ next => ∀ reply, (next reply).Always property
  | .askAll calls next =>
    ∀ replies : List Reply, replies.length = calls.length → (next replies).Always property

end Dialogue

end PromptRelay
