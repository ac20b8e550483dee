/-
**Prompts.**

Each hop's prompt is made from the template of its position: the first, a middle or the last one of
its pattern. Two placeholders are filled, one with the question and one with the earlier answers;
what was filled in is not looked at again.

* `HopPosition.ofIndex`: the position of a hop;
* `PromptTemplates.render`: the prompt of a hop.
-/

import PromptRelay.Text.Pieces

namespace PromptRelay

/-- The position of a hop in its pattern. -/
inductive HopPosition where
  | first
  | middle
  | last
  deriving DecidableEq, Repr, Inhabited

namespace HopPosition

/-- The word for a position. -/
def word : HopPosition → String
  | .first => "first"
  | .middle => "middle"
  | .last => "last"

/-- The position of a hop among a number of hops; a hop alone is the first. -/
def ofIndex (index hopCount : Nat) : HopPosition :=
  if index = 0 then .first
  else if hopCount ≤ index + 1 then .last
  else .middle

end HopPosition

/-- The templates of the three positions. -/
structure PromptTemplates where
  first : String :=
    "Answer the following question thoroughly and accurately.\n\nQuestion: \x7binput\x7d"
  middle : String :=
    "Original question: \x7binput\x7d\n\nEarlier responses:\n\x7bcontext\x7d\n\n" ++
      "Build on the above: add what is missing, correct any mistakes, " ++
      "and contribute a perspective the earlier responses did not cover."
  last : String :=
    "Original question: \x7binput\x7d\n\nEarlier responses:\n\x7bcontext\x7d\n\n" ++
      "Synthesize the above into one clear, complete answer to the original question."
  deriving DecidableEq, Repr

/-- A placeholder as its first character and the others. -/
structure Placeholder where
  head : Char
  tail : List Char

/-- The placeholder that the question fills. -/
def Placeholder.input : Placeholder := ⟨'\x7b', "input\x7d".toList⟩

/-- The placeholder that the earlier answers fill. -/
def Placeholder.context : Placeholder := ⟨'\x7b', "context\x7d".toList⟩

/-- What stands for the earlier answers when there are none. -/
def emptyContext : String := "(no earlier responses were available)"

/-- An earlier answer under its number, counted from one. -/
def numbered (index : Nat) (content : String) : String :=
  s!"[Response {index + 1}]\n" ++ content

/-- The earlier answers as one text. -/
def contextText (prior : List String) : String :=
  if prior.isEmpty then emptyContext
  else String.intercalate "\n\n" (prior.mapIdx numbered)

namespace PromptTemplates

/-- The template of a position. -/
def template (templates : PromptTemplates) : HopPosition → String
  | .first => templates.first
  | .middle => templates.middle
  | .last => templates.last

/-- A template filled with the question and the earlier answers: it is cut at the places of the
answers, and the question goes into each of the pieces. -/
def fill (template input context : List Char) : List Char :=
  let pieces := Text.splitAt Placeholder.context.head Placeholder.context.tail template
  context.intercalate
    (pieces.map (Text.replaceAll Placeholder.input.head Placeholder.input.tail input))

/-- The prompt of a hop. -/
def render (templates : PromptTemplates) (position : HopPosition) (input : String)
    (prior : List String) : String :=
  String.ofList
    (fill (templates.template position).toList input.toList (contextText prior).toList)

end PromptTemplates

end PromptRelay
