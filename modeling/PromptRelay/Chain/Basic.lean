/-
**Chains.**

A chain is one run of a pattern over a text. It is pending, then running while hops are recorded,
then completed or failed; once it is one of these nothing changes it. Its total cost is the sum of
the recorded costs in the order in which they arrived.

* `Chain.start`, `Chain.record`, `Chain.complete`, `Chain.fail`: the steps of its life, each refused
  where the status does not allow it;
* `Chain.sortHops`: puts the records in the order of the pattern;
* `Chain.forceFail?`: fails a chain wherever it stands, unless it has ended.
-/

import PromptRelay.Chain.Error
import PromptRelay.Chain.Identity
import PromptRelay.Chain.Status
import PromptRelay.Hop.Record
import PromptRelay.Time.Timestamp

namespace PromptRelay

/-- What a completed chain was worth. -/
structure ChainMetadata where
  quality : Float := 0.0
  diversity : Float := 0.0
  tier : RarityTier := .normal
  deriving DecidableEq, Inhabited

/-- One run of a pattern over a text. -/
structure Chain where
  id : ChainId
  patternName : String
  input : String
  hops : List HopRecord := []
  status : ChainStatus := .pending
  totalCost : Float := 0.0
  createdAt : Timestamp
  completedAt : Option Timestamp := none
  metadata : Option ChainMetadata := none
  finalResponse : Option String := none
  deriving DecidableEq, Inhabited

namespace Chain

/-- A chain that has not started. -/
def new (id : ChainId) (createdAt : Timestamp) (patternName input : String) : Chain where
  id := id
  patternName := patternName
  input := input
  createdAt := createdAt

/-- The records of the hops that succeeded. -/
def successes (chain : Chain) : List HopRecord :=
  chain.hops.filter HopRecord.succeeded

/-- What the successful hops answered, in the order of the records. -/
def contents (chain : Chain) : List String :=
  chain.successes.filterMap HopRecord.content

/-- Refuses an operation that asks for another status. -/
def requireStatus (chain : Chain) (wanted : ChainStatus) (target : String) :
    Except ChainError Unit :=
  if chain.status = wanted then .ok ()
  else .error (.invalidTransition chain.status.word target)

/-- Starts a pending chain. -/
def start (chain : Chain) : Except ChainError Chain := do
  chain.requireStatus .pending ChainStatus.running.word
  return { chain with status := .running }

/-- Adds the record of a hop, and its cost to the total, while the chain is running. -/
def record (chain : Chain) (hop : HopRecord) : Except ChainError Chain := do
  chain.requireStatus .running "record hop"
  return { chain with hops := chain.hops ++ [hop], totalCost := chain.totalCost + hop.cost }

/-- Records in the order of the pattern; records of one index keep their order. -/
def sortRecords (hops : List HopRecord) : List HopRecord :=
  hops.mergeSort fun first second => first.index ≤ second.index

/-- Puts the records in the order of the pattern while the chain has not ended. -/
def sortHops (chain : Chain) : Chain :=
  if chain.status.isTerminal then chain else { chain with hops := sortRecords chain.hops }

/-- Completes a running chain. -/
def complete (chain : Chain) (now : Timestamp) (metadata : ChainMetadata) (response : String) :
    Except ChainError Chain := do
  chain.requireStatus .running ChainStatus.completed.word
  return { chain with
    status := .completed
    metadata := some metadata
    finalResponse := some response
    completedAt := some now }

/-- Fails a running chain. -/
def fail (chain : Chain) (now : Timestamp) : Except ChainError Chain := do
  chain.requireStatus .running ChainStatus.failed.word
  return { chain with status := .failed, completedAt := some now }

/-- Fails a chain that has not ended, its records in the order of the pattern. -/
def forceFail? (chain : Chain) (now : Timestamp) : Option Chain :=
  if chain.status.isTerminal then none
  else some { chain.sortHops with status := .failed, completedAt := some now }

/-- Fails a chain if it has not ended. -/
def forceFail (chain : Chain) (now : Timestamp) : Chain :=
  (chain.forceFail? now).getD chain

end Chain

end PromptRelay
