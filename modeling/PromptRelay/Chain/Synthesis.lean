/-
**One text from the answers of a chain.**

A sequential chain answers with its last successful hop, whose prompt has asked it to merge the
others. A parallel chain puts the successful hops one below the other, each under its provider's
display name.

* `synthesize`: the text of a chain's records.
-/

import PromptRelay.Chain.Basic
import PromptRelay.Provider.Catalog

namespace PromptRelay

/-- What is said when no hop has answered. -/
def apology : String :=
  "I'm sorry, I wasn't able to put together a response this time. Please try again shortly."

/-- What a reader sees as the name of a provider: its display name, or its id where the catalog does
not have it. -/
def Catalog.labelOf (catalog : Catalog) (id : String) : String :=
  match catalog.find? id with
  | some provider => provider.displayName
  | none => id

/-- The successful hops' providers with their answers. -/
def answers (hops : List HopRecord) : List (String × String) :=
  (hops.filter HopRecord.succeeded).filterMap fun hop => hop.content.map (hop.provider, ·)

/-- An answer under its provider's name. -/
def titled (catalog : Catalog) (answer : String × String) : String :=
  "## " ++ catalog.labelOf answer.1 ++ "\n\n" ++ answer.2

/-- One text from the answers of the successful hops. -/
def synthesize (hops : List HopRecord) (mode : ExecutionMode) (catalog : Catalog) : String :=
  match answers hops with
  | [] => apology
  | [only] => only.2
  | first :: second :: rest =>
    match mode with
    | .sequential => ((second :: rest).getLast (List.cons_ne_nil _ _)).2
    | .parallel => String.intercalate "\n\n" ((first :: second :: rest).map (titled catalog))

end PromptRelay
