/-
**Which pattern a request gets.**

A request names a pattern, or brings a list of providers, or leaves the choice to the length of its
text: short texts get the short preset, longer ones the medium, the longest the long one. A longer
text never gets a pattern with fewer hops, since presets whose hop counts decrease are refused.

* `Selector.ofPresets`: the selector, or what is wrong with thresholds and presets;
* `Selector.select`: the pattern of a request.
-/

import PromptRelay.Pattern.Basic

namespace PromptRelay

/-- The lengths, in characters, at which the preset changes. -/
structure Thresholds where
  /-- Shorter texts get the short preset. -/
  shortMax : Nat := 200
  /-- Texts up to this length get the medium preset. -/
  mediumMax : Nat := 500
  deriving DecidableEq, Repr

/-- What is wrong with thresholds and presets. -/
inductive SelectorFault where
  | crossedThresholds (shortMax mediumMax : Nat)
  | presetUndefined (name : String)
  | decreasingPresets (short medium long : Nat)
  deriving DecidableEq, Repr

/-- The wording of a fault. -/
def SelectorFault.message : SelectorFault → String
  | .crossedThresholds shortMax mediumMax =>
    s!"short_max_chars ({shortMax}) must not exceed medium_max_chars ({mediumMax})"
  | .presetUndefined name => s!"Preset pattern '{name}' is not defined"
  | .decreasingPresets short medium long =>
    s!"Preset hop counts must not decrease with input length (got [{short}, {medium}, {long}])"

/-- The names of the three presets. -/
structure PresetNames where
  short : String
  medium : String
  long : String
  deriving DecidableEq, Repr

/-- The patterns, the thresholds and the three presets. -/
structure Selector where
  patterns : PatternSet
  thresholds : Thresholds
  short : HopPattern
  medium : HopPattern
  long : HopPattern

/-- What a request says about the pattern it wants. -/
structure Wish where
  text : String
  patternName : Option String := none
  providers : Option (List String) := none
  deriving DecidableEq, Repr

namespace Selector

/-- The preset of a name. -/
def preset (patterns : PatternSet) (name : String) : Except SelectorFault HopPattern :=
  match patterns.get? name with
  | some pattern => .ok pattern
  | none => .error (.presetUndefined name)

/-- The selector, or the first fault: the thresholds, then a missing preset, then the hop counts. -/
def ofPresets (patterns : PatternSet) (thresholds : Thresholds) (names : PresetNames) :
    Except SelectorFault Selector :=
  if thresholds.mediumMax < thresholds.shortMax then
    .error (.crossedThresholds thresholds.shortMax thresholds.mediumMax)
  else do
    let short ← preset patterns names.short
    let medium ← preset patterns names.medium
    let long ← preset patterns names.long
    if medium.hopCount < short.hopCount || long.hopCount < medium.hopCount then
      .error (.decreasingPresets short.hopCount medium.hopCount long.hopCount)
    else .ok ⟨patterns, thresholds, short, medium, long⟩

/-- The preset for a length. -/
def presetFor (selector : Selector) (length : Nat) : HopPattern :=
  if length < selector.thresholds.shortMax then selector.short
  else if length ≤ selector.thresholds.mediumMax then selector.medium
  else selector.long

/-- The pattern of a request: by name, else by its providers, else by the length of its text. -/
def select (selector : Selector) (wish : Wish) : Except ChainError HopPattern :=
  match wish.patternName with
  | some name =>
    match selector.patterns.get? name with
    | some pattern => .ok pattern
    | none => .error (.unknownPatternName name)
  | none =>
    match wish.providers with
    | some providers => .ok (.adHoc providers)
    | none => .ok (selector.presetFor wish.text.length)

end Selector

end PromptRelay
