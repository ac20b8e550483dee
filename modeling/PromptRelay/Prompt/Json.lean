/-
**Prompt templates as JSON.**

* `PromptTemplates.toJson`, `PromptTemplates.ofJson`: the three templates.
-/

import PromptRelay.Json.Encode
import PromptRelay.Json.Strict
import PromptRelay.Prompt.Templates

namespace PromptRelay.PromptTemplates

/-- The JSON value of templates. -/
def toJson (templates : PromptTemplates) : Json :=
  .object [
    ("first", .text templates.first),
    ("middle", .text templates.middle),
    ("last", .text templates.last)]

/-- The fields of templates. -/
def form : Form Json Json.Fault PromptTemplates :=
  PromptTemplates.mk
    <$> .field "first" Json.strict.text
    <*> .field "middle" Json.strict.text
    <*> .field "last" Json.strict.text

/-- The templates that a JSON value stands for. -/
def ofJson (value : Json) : Except Json.Fault PromptTemplates :=
  Json.strict.record "PromptTemplates" form value

end PromptRelay.PromptTemplates
