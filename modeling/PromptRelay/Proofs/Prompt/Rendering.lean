/-
**Rendering a prompt.**

A template can be filled in one look from left to right: where a placeholder begins, what fills it is
put, and the look goes on behind the placeholder; any other character stays. What was put is not
looked at. The prompts are made otherwise, the template being cut at one placeholder and the pieces
being filled for the other one. As neither placeholder can begin within the other, this comes to the
same, whichever of them is the first.

* `Filling`, `Filling.scan`: what fills a placeholder, and the filling of a text in one look;
* `Filling.fillPieces`: the filling of a text for one placeholder after the other;
* `Placeholder.Apart`: neither of two placeholders begins within the other;
* `Filling.fillPieces_eq_scan`: both ways come to the same;
* `listed`: the earlier answers under their numbers, written one after the other;
* `PromptTemplates.render_eq_scan`: a prompt is its template, filled in one look.
-/

import PromptRelay.Proofs.Text.Splitting
import PromptRelay.Prompt.Templates

namespace PromptRelay

open Text

/-! ### Placeholders that are apart -/

namespace Placeholder

/-- The placeholder as it stands in a text. -/
def text (placeholder : Placeholder) : List Char :=
  placeholder.head :: placeholder.tail

/-- Neither placeholder begins within the other, and neither is a beginning of the other. -/
structure Apart (first second : Placeholder) : Prop where
  notInSecond : first.head ∉ second.tail
  notInFirst : second.head ∉ first.tail
  notSecond : ¬ first.text <+: second.text
  notFirst : ¬ second.text <+: first.text

theorem Apart.symm {first second : Placeholder} (apart : first.Apart second) :
    second.Apart first :=
  ⟨apart.notInFirst, apart.notInSecond, apart.notFirst, apart.notSecond⟩

/-- No text begins with both. -/
theorem Apart.not_begins {first second : Placeholder} (apart : first.Apart second)
    {text : List Char} (begins : first.text <+: text) : ¬ second.text <+: text := by
  intro both
  rcases List.prefix_or_prefix_of_prefix begins both with within | within
  · exact apart.notSecond within
  · exact apart.notFirst within

theorem input_apart_context : Placeholder.input.Apart .context := by
  refine ⟨?_, ?_, ?_, ?_⟩ <;> decide

end Placeholder

/-! ### Two ways of filling a text -/

/-- A placeholder with what fills it. -/
structure Filling where
  placeholder : Placeholder
  content : List Char

namespace Filling

/-- The placeholder of the filling stands at the beginning of a text. -/
def begins (text : List Char) (filling : Filling) : Bool :=
  filling.placeholder.text.isPrefixOf text

theorem begins_iff {text : List Char} {filling : Filling} :
    filling.begins text = true ↔ filling.placeholder.text <+: text :=
  List.isPrefixOf_iff_prefix

/-- A text filled in one look from left to right. What fills a placeholder is put where it begins,
and the look goes on behind it; any other character stays. -/
def scan (fillings : List Filling) : List Char → List Char
  | [] => []
  | head :: tail =>
    match fillings.find? (begins (head :: tail)) with
    | some filling =>
      filling.content ++ scan fillings (tail.drop filling.placeholder.tail.length)
    | none => head :: scan fillings tail
  termination_by text => text.length
  decreasing_by
    · simp only [List.length_drop, List.length_cons]
      omega
    · exact Nat.lt_succ_self tail.length

/-- A text filled for one placeholder after the other: it is cut at the first of them, and the second
is exchanged in the pieces. -/
def fillPieces (outer inner : Filling) (text : List Char) : List Char :=
  outer.content.intercalate ((splitAt outer.placeholder.head outer.placeholder.tail text).map
    (replaceAll inner.placeholder.head inner.placeholder.tail inner.content))

section Pieces

variable (outer inner : Filling)

theorem map_replaceAll_splitAt_ne_nil (text : List Char) :
    (splitAt outer.placeholder.head outer.placeholder.tail text).map
      (replaceAll inner.placeholder.head inner.placeholder.tail inner.content) ≠ [] := by
  simpa using splitAt_ne_nil _ _ text

theorem fillPieces_nil : fillPieces outer inner [] = [] := by
  simp [fillPieces]

/-- The first placeholder is filled where it begins. -/
theorem fillPieces_outer (rest : List Char) :
    fillPieces outer inner (outer.placeholder.text ++ rest) =
      outer.content ++ fillPieces outer inner rest := by
  unfold fillPieces Placeholder.text
  rw [List.cons_append, splitAt_marker, List.map_cons, replaceAll_nil,
    List.intercalate_cons_of_ne_nil (map_replaceAll_splitAt_ne_nil outer inner rest),
    List.nil_append]

variable {outer inner}

/-- So is the second one, which no cut divides. -/
theorem fillPieces_inner (apart : outer.placeholder.Apart inner.placeholder) (rest : List Char) :
    fillPieces outer inner (inner.placeholder.text ++ rest) =
      inner.content ++ fillPieces outer inner rest := by
  have elsewhere : ¬ outer.placeholder.text <+: inner.placeholder.text ++ rest :=
    apart.symm.not_begins (List.prefix_append _ _)
  have someone := map_replaceAll_splitAt_ne_nil outer inner rest
  unfold fillPieces Placeholder.text at *
  rw [List.cons_append] at elsewhere ⊢
  rw [splitAt_cons elsewhere, splitAt_append apart.notInSecond]
  cases pieces : splitAt outer.placeholder.head outer.placeholder.tail rest with
  | nil => exact absurd pieces (splitAt_ne_nil _ _ rest)
  | cons piece after =>
    rw [pieces] at someone
    simp only [List.modifyHead_cons, List.map_cons, replaceAll_marker]
    exact intercalate_modifyHead outer.content inner.content someone

/-- A character with which neither begins stays. -/
theorem fillPieces_cons {head : Char} {tail : List Char}
    (notOuter : ¬ outer.placeholder.text <+: head :: tail)
    (notInner : ¬ inner.placeholder.text <+: head :: tail) :
    fillPieces outer inner (head :: tail) = head :: fillPieces outer inner tail := by
  have someone := map_replaceAll_splitAt_ne_nil outer inner tail
  unfold fillPieces
  rw [splitAt_cons notOuter]
  cases pieces : splitAt outer.placeholder.head outer.placeholder.tail tail with
  | nil => exact absurd pieces (splitAt_ne_nil _ _ tail)
  | cons piece after =>
    -- the second placeholder does not arise where the piece ends
    have notInPiece : ¬ inner.placeholder.text <+: head :: piece := fun begins =>
      notInner (begins.trans ((List.prefix_cons_inj head).mpr (prefix_of_splitAt pieces)))
    rw [pieces] at someone
    simp only [List.modifyHead_cons, List.map_cons]
    rw [replaceAll_cons inner.content notInPiece]
    exact intercalate_modifyHead outer.content [head] someone

end Pieces

/-- **One placeholder after the other, or all in one look**: the text is the same, if the
placeholders are apart. -/
theorem fillPieces_eq_scan {outer inner : Filling}
    (apart : outer.placeholder.Apart inner.placeholder) (fillings : List Filling)
    (both : ∀ filling, filling ∈ fillings ↔ filling = outer ∨ filling = inner)
    (text : List Char) : fillPieces outer inner text = scan fillings text := by
  fun_induction scan fillings text with
  | case1 => exact fillPieces_nil outer inner
  | case2 head tail filling found hypothesis =>
    obtain ⟨rest, same⟩ := begins_iff.mp (List.find?_some found)
    have behind : tail.drop filling.placeholder.tail.length = rest := by
      have tails : filling.placeholder.tail ++ rest = tail := (List.cons.inj same).2
      rw [← tails, List.drop_left]
    rw [behind] at hypothesis ⊢
    rw [← hypothesis, ← same]
    rcases (both filling).mp (List.mem_of_find?_eq_some found) with rfl | rfl
    · exact fillPieces_outer filling inner rest
    · exact fillPieces_inner apart rest
  | case3 head tail none hypothesis =>
    have elsewhere : ∀ filling ∈ fillings, ¬ filling.placeholder.text <+: head :: tail := by
      intro filling member begins
      exact absurd (begins_iff.mpr begins) (List.find?_eq_none.mp none filling member)
    rw [← hypothesis]
    exact fillPieces_cons (elsewhere outer ((both outer).mpr (.inl rfl)))
      (elsewhere inner ((both inner).mpr (.inr rfl)))

end Filling

/-! ### The earlier answers -/

/-- The earlier answers one below the other, each under its number, from a number on. -/
def listed : Nat → List String → String
  | _, [] => ""
  | number, [only] => "[Response " ++ toString number ++ "]\n" ++ only
  | number, content :: next :: later =>
    "[Response " ++ toString number ++ "]\n" ++ content ++ "\n\n" ++
      listed (number + 1) (next :: later)

theorem intercalate_numbered (index : Nat) (prior : List String) :
    String.intercalate "\n\n" (prior.mapIdx fun place => numbered (index + place)) =
      listed (index + 1) prior := by
  induction prior generalizing index with
  | nil => rfl
  | cons content later hypothesis =>
    have shifted : (later.mapIdx fun place => numbered (index + (place + 1))) =
        later.mapIdx fun place => numbered (index + 1 + place) := by
      simp only [Nat.add_assoc, Nat.add_comm 1]
    rw [List.mapIdx_cons, shifted]
    cases later with
    | nil =>
      simp only [List.mapIdx_nil, String.intercalate_singleton]
      rfl
    | cons next later =>
      specialize hypothesis (index + 1)
      rw [List.mapIdx_cons] at hypothesis ⊢
      rw [String.intercalate_cons_cons, hypothesis]
      rfl

theorem contextText_eq (prior : List String) :
    contextText prior =
      if prior = [] then "(no earlier responses were available)" else listed 1 prior := by
  unfold contextText
  by_cases none : prior = []
  · rw [if_pos (List.isEmpty_iff.mpr none), if_pos none]
    rfl
  · have listing := intercalate_numbered 0 prior
    simp only [Nat.zero_add] at listing
    rw [if_neg (mt List.isEmpty_iff.mp none), if_neg none]
    exact listing

namespace PromptTemplates

/-- **A prompt is its template, filled in one look.** The template is that of the position. The
question fills the one placeholder, and the earlier answers fill the other; where there are none a
notice stands for them. What the question and the answers contain is not looked at, and it cannot be
told for which of the placeholders the template is cut. -/
theorem render_eq_scan (templates : PromptTemplates) (position : HopPosition) (input : String)
    (prior : List String) :
    let template := String.toList <|
      match position with
      | .first => templates.first
      | .middle => templates.middle
      | .last => templates.last
    let question : Filling := ⟨.input, input.toList⟩
    let answers : Filling := ⟨.context, String.toList <|
      if prior = [] then "(no earlier responses were available)" else listed 1 prior⟩
    templates.render position input prior =
        String.ofList (Filling.scan [question, answers] template) ∧
      templates.render position input prior =
        String.ofList (question.fillPieces answers template) := by
  intro template question answers
  have rendered : templates.render position input prior =
      String.ofList (answers.fillPieces question template) := by
    unfold render answers
    rw [contextText_eq]
    cases position <;> rfl
  have apart : question.placeholder.Apart answers.placeholder := Placeholder.input_apart_context
  have scanned := Filling.fillPieces_eq_scan apart.symm [question, answers]
    (fun filling => by simp [or_comm]) template
  have otherwise := Filling.fillPieces_eq_scan apart [question, answers]
    (fun filling => by simp) template
  rw [rendered, scanned, otherwise]
  exact ⟨rfl, rfl⟩

/-- A placeholder does not arise around another one, nor in what is filled in. -/
example :
    PromptTemplates.render { first := "\x7binp\x7bcontext\x7dut\x7d \x7binput\x7d" } .first
        "\x7bcontext\x7d" ["\x7binput\x7d"] =
      "\x7binp[Response 1]\n\x7binput\x7dut\x7d \x7bcontext\x7d" := by
  decide +kernel

end PromptTemplates

end PromptRelay
