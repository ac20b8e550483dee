/-
**Cutting a text at a marker.**

* `splitAt`: the pieces of a text between the occurrences of a marker, found from left to right;
* `replaceAll`: the text with every occurrence of a marker exchanged;
* `stripEnd`: the text without the copies of one character at its end.
-/

namespace PromptRelay.Text

/-- The rest of a text after a marker that it starts with. -/
def dropMarker? : List Char → List Char → Option (List Char)
  | [], text => some text
  | _ :: _, [] => none
  | wanted :: marker, found :: text => if wanted = found then dropMarker? marker text else none

/-- A text that starts with a marker is the marker and the rest. -/
theorem eq_append_of_dropMarker? {marker text rest : List Char}
    (starts : dropMarker? marker text = some rest) : text = marker ++ rest := by
  induction marker generalizing text with
  | nil => simpa [dropMarker?] using starts
  | cons wanted marker hypothesis =>
    cases text with
    | nil => simp [dropMarker?] at starts
    | cons found text =>
      by_cases same : wanted = found
      · simp only [dropMarker?, same, if_true] at starts
        rw [same, hypothesis starts, List.cons_append]
      · simp [dropMarker?, same] at starts

/-- What follows a marker is found again. -/
theorem dropMarker?_append (marker rest : List Char) :
    dropMarker? marker (marker ++ rest) = some rest := by
  induction marker with
  | nil => rfl
  | cons wanted marker hypothesis => simpa [dropMarker?] using hypothesis

/-- What follows a nonempty marker is shorter than the text. -/
theorem length_lt_of_dropMarker? {first : Char} {marker text rest : List Char}
    (starts : dropMarker? (first :: marker) text = some rest) : rest.length < text.length := by
  rw [eq_append_of_dropMarker? starts]
  simp only [List.cons_append, List.length_cons, List.length_append]
  omega

/-- The pieces between the occurrences of the nonempty marker `first :: marker`; there is always at
least one piece. -/
def splitAt (first : Char) (marker : List Char) : List Char → List (List Char)
  | [] => [[]]
  | head :: tail =>
    match cut : dropMarker? (first :: marker) (head :: tail) with
    | some rest =>
      have : rest.length < (head :: tail).length := length_lt_of_dropMarker? cut
      [] :: splitAt first marker rest
    | none =>
      match splitAt first marker tail with
      | [] => [[head]]
      | piece :: pieces => (head :: piece) :: pieces
  termination_by text => text.length
  decreasing_by
    · exact this
    · exact Nat.lt_succ_self tail.length

/-- The text with every occurrence of the marker exchanged for the filling. -/
def replaceAll (first : Char) (marker filling text : List Char) : List Char :=
  filling.intercalate (splitAt first marker text)

/-- The text without the copies of a character at its end. -/
def stripEnd (unwanted : Char) (text : String) : String :=
  String.ofList (text.toList.reverse.dropWhile (· == unwanted)).reverse

end PromptRelay.Text
