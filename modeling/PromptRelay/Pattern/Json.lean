/-
**Patterns and thresholds as JSON.**

* `HopPattern.toJson`, `HopPattern.ofJson`: patterns;
* `Thresholds.toJson`, `Thresholds.ofJson`: the lengths at which presets change.
-/

import PromptRelay.Json.Encode
import PromptRelay.Json.Strict
import PromptRelay.Pattern.Selector

namespace PromptRelay

namespace HopPattern

/-- The JSON value of a pattern. -/
def toJson (pattern : HopPattern) : Json :=
  .object [
    ("name", .text pattern.name),
    ("description", .text pattern.description),
    ("providers", .ofTexts pattern.providers)]

/-- The fields of a pattern. -/
def form : Form Json Json.Fault HopPattern :=
  HopPattern.mk
    <$> .field "name" Json.strict.text
    <*> .fieldOr "description" "" Json.strict.text
    <*> .field "providers" (Json.strict.list Json.strict.text)

/-- The pattern that a JSON value stands for. -/
def ofJson (value : Json) : Except Json.Fault HopPattern :=
  Json.strict.record "HopPattern" form value

end HopPattern

namespace Thresholds

/-- The JSON value of thresholds. -/
def toJson (thresholds : Thresholds) : Json :=
  .object [
    ("short_max_chars", .ofNat thresholds.shortMax),
    ("medium_max_chars", .ofNat thresholds.mediumMax)]

/-- The fields of thresholds. -/
def form : Form Json Json.Fault Thresholds :=
  Thresholds.mk
    <$> .field "short_max_chars" (Json.strict.whole .size)
    <*> .field "medium_max_chars" (Json.strict.whole .size)

/-- The thresholds that a JSON value stands for. -/
def ofJson (value : Json) : Except Json.Fault Thresholds :=
  Json.strict.record "SelectionThresholds" form value

end Thresholds

end PromptRelay
