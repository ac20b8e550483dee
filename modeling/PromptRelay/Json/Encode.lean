/-
**JSON values of plain ones.**

* `Json.ofFloat`: a float, `null` where it has no digits;
* `Json.ofNat`, `Json.ofTexts`: whole numbers and lists of texts, for use as functions.
-/

import PromptRelay.Decimal.Binary
import PromptRelay.Json.Value

namespace PromptRelay.Json

/-- The number of a finite float, `null` for another. -/
def ofFloat (value : Float) : Json :=
  if value.isFinite then .float value else .null

/-- The number of a natural number. -/
def ofNat (value : Nat) : Json := .integer value

/-- The array of texts. -/
def ofTexts (values : List String) : Json := .list (values.map .text)

end PromptRelay.Json
