/-
**Hop patterns.**

A pattern is a named list of provider ids, one for each hop; the same provider may come again.

* `HopPattern.fault?`: what keeps a pattern from being run, the first of three causes;
* `PatternSet.ofList`: the configured patterns, each runnable and of its own name.
-/

import PromptRelay.Chain.Error
import PromptRelay.Provider.Catalog

namespace PromptRelay

/-- A named list of the providers that answer one after the other. -/
structure HopPattern where
  name : String
  description : String := ""
  providers : List String
  deriving DecidableEq, Repr, Inhabited

namespace HopPattern

/-- The name of the pattern of a provider list that a request brings itself. -/
def adHocName : String := "custom"

/-- The pattern of a provider list that a request brings itself. -/
def adHoc (providers : List String) : HopPattern where
  name := adHocName
  description := "Explicit provider list supplied with the request"
  providers := providers

/-- The number of hops. -/
def hopCount (pattern : HopPattern) : Nat :=
  pattern.providers.length

/-- What keeps a pattern from being run, if anything: it is empty, it is too long, or one of its
providers is not in the catalog. -/
def fault? (pattern : HopPattern) (catalog : Catalog) (maxHops : Nat) : Option ChainError :=
  if pattern.providers.isEmpty then some (.patternInvalid (.noHops pattern.name))
  else if maxHops < pattern.hopCount then
    some (.patternInvalid (.tooManyHops pattern.name pattern.hopCount maxHops))
  else
    (pattern.providers.find? fun id => !catalog.contains id).map .providerUnknown

end HopPattern

/-- What is wrong with a list of configured patterns. -/
inductive PatternSetFault where
  | zeroMaxHops
  | unrunnable (cause : ChainError)
  | duplicateName (name : String)
  deriving DecidableEq

/-- The configured patterns and the greatest number of hops. -/
structure PatternSet where
  patterns : List HopPattern
  maxHops : Nat
  deriving DecidableEq, Repr

namespace PatternSet

/-- The fault of the first pattern that has one or repeats a name, given the patterns before it. -/
def firstFault? (catalog : Catalog) (maxHops : Nat) (seen : List String) :
    List HopPattern → Option PatternSetFault
  | [] => none
  | pattern :: patterns =>
    match pattern.fault? catalog maxHops with
    | some cause => some (.unrunnable cause)
    | none =>
      if pattern.name ∈ seen then some (.duplicateName pattern.name)
      else firstFault? catalog maxHops (pattern.name :: seen) patterns

/-- The set of a list of patterns, refused at the first position with a fault. -/
def ofList (patterns : List HopPattern) (catalog : Catalog) (maxHops : Nat) :
    Except PatternSetFault PatternSet :=
  if maxHops = 0 then .error .zeroMaxHops
  else
    match firstFault? catalog maxHops [] patterns with
    | some fault => .error fault
    | none => .ok ⟨patterns, maxHops⟩

/-- The pattern of a name. -/
def get? (set : PatternSet) (name : String) : Option HopPattern :=
  set.patterns.find? fun pattern => pattern.name = name

end PatternSet

end PromptRelay
