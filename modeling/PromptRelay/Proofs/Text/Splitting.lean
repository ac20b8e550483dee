/-
**The pieces of a text.**

A text is cut wherever a marker begins, from left to right, and what the pieces are is decided at
the beginning of the text: a marker there is a cut, and any other character goes to the first piece.

* `splitAt_marker`, `splitAt_cons`: the pieces of a text that begins with the marker, and of one that
  does not;
* `splitAt_append`: characters with which no marker begins stay together;
* `prefix_of_splitAt`: the first piece is the beginning of the text;
* `replaceAll_marker`, `replaceAll_cons`: the text in which the marker is exchanged.
-/

import PromptRelay.Text.Pieces

namespace PromptRelay.Text

variable {first : Char} {marker : List Char}

/-! ### Cutting -/

@[simp]
theorem splitAt_nil (first : Char) (marker : List Char) : splitAt first marker [] = [[]] := by
  rw [splitAt]

/-- There is always a piece. -/
theorem splitAt_ne_nil (first : Char) (marker text : List Char) :
    splitAt first marker text ≠ [] := by
  unfold splitAt
  split
  · simp
  · split
    · simp
    · split <;> simp

/-- A marker at the beginning is a cut. -/
@[simp]
theorem splitAt_marker (first : Char) (marker rest : List Char) :
    splitAt first marker (first :: (marker ++ rest)) = [] :: splitAt first marker rest := by
  have cut : dropMarker? (first :: marker) (first :: (marker ++ rest)) = some rest :=
    dropMarker?_append (first :: marker) rest
  rw [splitAt]
  split
  · rename_i found same
    rw [cut] at same
    cases same
    rfl
  · rename_i none
    rw [cut] at none
    cases none

/-- Any other character goes to the first piece. -/
theorem splitAt_cons {head : Char} {tail : List Char}
    (elsewhere : ¬ first :: marker <+: head :: tail) :
    splitAt first marker (head :: tail) =
      (splitAt first marker tail).modifyHead (head :: ·) := by
  rw [splitAt]
  split
  · rename_i rest cut
    exact absurd ⟨rest, (eq_append_of_dropMarker? cut).symm⟩ elsewhere
  · split
    · rename_i empty
      exact absurd empty (splitAt_ne_nil first marker tail)
    · rename_i pieces
      rw [pieces]
      rfl

/-- Characters with which no marker begins stay together. -/
theorem splitAt_append {lead : List Char} (free : first ∉ lead) (rest : List Char) :
    splitAt first marker (lead ++ rest) = (splitAt first marker rest).modifyHead (lead ++ ·) := by
  induction lead with
  | nil => exact (congrFun List.modifyHead_id (splitAt first marker rest)).symm
  | cons head lead hypothesis =>
    have elsewhere : ¬ first :: marker <+: head :: (lead ++ rest) := by
      intro begins
      exact free (List.mem_cons.mpr (.inl (List.cons_prefix_cons.mp begins).1))
    have freeRest : first ∉ lead := fun member => free (List.mem_cons_of_mem head member)
    rw [List.cons_append, splitAt_cons elsewhere, hypothesis freeRest, List.modifyHead_modifyHead]
    rfl

/-- The first piece is the beginning of the text. -/
theorem prefix_of_splitAt {text piece : List Char} {pieces : List (List Char)}
    (split : splitAt first marker text = piece :: pieces) : piece <+: text := by
  induction text generalizing piece pieces with
  | nil =>
    rw [splitAt_nil] at split
    cases split
    exact List.prefix_refl []
  | cons head tail hypothesis =>
    by_cases begins : first :: marker <+: head :: tail
    · obtain ⟨rest, same⟩ := begins
      rw [← same, List.cons_append, splitAt_marker] at split
      cases split
      exact List.nil_prefix
    · rw [splitAt_cons begins] at split
      cases pieces' : splitAt first marker tail with
      | nil => exact absurd pieces' (splitAt_ne_nil first marker tail)
      | cons before after =>
        rw [pieces'] at split
        cases split
        exact (List.prefix_cons_inj head).mpr (hypothesis pieces')

/-! ### Putting something between the pieces -/

/-- What is put before the first piece stands before all of them. -/
theorem intercalate_modifyHead (filling lead : List Char) {pieces : List (List Char)}
    (someone : pieces ≠ []) :
    filling.intercalate (pieces.modifyHead (lead ++ ·)) = lead ++ filling.intercalate pieces := by
  cases pieces with
  | nil => exact absurd rfl someone
  | cons piece pieces =>
    cases pieces with
    | nil => simp
    | cons next pieces => simp

variable (filling : List Char)

@[simp]
theorem replaceAll_nil : replaceAll first marker filling [] = [] := by
  simp [replaceAll]

/-- A marker at the beginning is exchanged. -/
@[simp]
theorem replaceAll_marker (rest : List Char) :
    replaceAll first marker filling (first :: (marker ++ rest)) =
      filling ++ replaceAll first marker filling rest := by
  unfold replaceAll
  rw [splitAt_marker, List.intercalate_cons_of_ne_nil (splitAt_ne_nil _ _ _), List.nil_append]

/-- Any other character stays. -/
theorem replaceAll_cons {head : Char} {tail : List Char}
    (elsewhere : ¬ first :: marker <+: head :: tail) :
    replaceAll first marker filling (head :: tail) =
      head :: replaceAll first marker filling tail := by
  unfold replaceAll
  rw [splitAt_cons elsewhere]
  exact intercalate_modifyHead filling [head] (splitAt_ne_nil _ _ _)

end PromptRelay.Text
