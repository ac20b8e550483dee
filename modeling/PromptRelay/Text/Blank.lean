/-
**Blank characters.**

The characters with the property `White_Space`, ASCII and beyond. A text is blank when it holds no
others, the empty text included.

* `isBlank`, `trimBlank`: blank texts, and texts without blank characters at their ends;
* `isBlank_eq_false_iff`: a text is not blank when one of its characters is not.
-/

namespace PromptRelay.Text

/-- The code point ranges of the property `White_Space`. -/
def blankRanges : List (Nat × Nat) :=
  [(0x09, 0x0D), (0x20, 0x20), (0x85, 0x85), (0xA0, 0xA0), (0x1680, 0x1680), (0x2000, 0x200A),
   (0x2028, 0x2029), (0x202F, 0x202F), (0x205F, 0x205F), (0x3000, 0x3000)]

/-- The code point lies in one of the ranges. -/
def inRanges (ranges : List (Nat × Nat)) (code : Nat) : Bool :=
  ranges.any fun range => range.1 ≤ code && code ≤ range.2

/-- The character has the property `White_Space`. -/
def isBlankChar (character : Char) : Bool :=
  inRanges blankRanges character.toNat

/-- The text holds blank characters alone. -/
def isBlank (text : String) : Bool :=
  text.toList.all isBlankChar

/-- The text without blank characters at its two ends. -/
def trimBlank (text : String) : String :=
  String.ofList ((text.toList.dropWhile isBlankChar).reverse.dropWhile isBlankChar).reverse

theorem isBlank_eq_false_iff {text : String} :
    isBlank text = false ↔ ∃ character ∈ text.toList, isBlankChar character = false := by
  unfold isBlank
  rw [List.all_eq_false]
  simp only [Bool.not_eq_true]

end PromptRelay.Text
