/-
**The grammar of provider ids.**

The form of an id is read from left to right, and what is accepted is the language of a regular
expression: an edge character alone, or two of them with any number of inner characters between. That
is the same as to look at the first character, at the last one and at each on its own. The grammar
counts characters and the limit on the length counts bytes, so a text of few characters may still be
too long.

* `idExpression`: the regular expression;
* `IsIdText`: what the first, the last and every character of an id are;
* `hasIdForm_iff_isIdText`, `mem_matches_iff_isIdText`: both are told by the characters;
* `IdFault.IsOf`: which of the three causes a text is refused for;
* `IdFault.ids_told`: all of it.
-/

import Mathlib.Computability.RegularExpressions
import PromptRelay.Provider.Id

namespace PromptRelay

variable {character : Char} {characters text : List Char}

/-! ### Classes of characters -/

/-- The characters from one to another, in the order of their code points. -/
def charsBetween (first last : Char) : List Char :=
  (List.range' first.toNat (last.toNat + 1 - first.toNat)).map Char.ofNat

/-- Below the surrogates every code point is that of a character. -/
theorem mem_charsBetween_iff {first last : Char} (low : last.toNat < 0xD800) :
    character ∈ charsBetween first last ↔ first ≤ character ∧ character ≤ last := by
  have order : ∀ one other : Char, one ≤ other ↔ one.toNat ≤ other.toNat := fun _ _ => Iff.rfl
  unfold charsBetween
  rw [List.mem_map, order, order]
  constructor
  · rintro ⟨code, inRange, rfl⟩
    rw [List.mem_range'_1] at inRange
    have isCode : (Char.ofNat code).toNat = code := by
      rw [Char.ofNat, dif_pos (.inl (by omega))]
      rfl
    omega
  · rintro ⟨notBefore, notBeyond⟩
    exact ⟨character.toNat, List.mem_range'_1.mpr (by omega), Char.ofNat_toNat character⟩

/-- The expression of one character out of a list. -/
def oneOf (characters : List Char) : RegularExpression Char :=
  characters.foldr (fun character others => .char character + others) 0

theorem mem_matches_oneOf_iff :
    text ∈ (oneOf characters).matches' ↔ ∃ character ∈ characters, text = [character] := by
  induction characters with
  | nil => simp [oneOf]
  | cons first characters hypothesis =>
    have step : (oneOf (first :: characters)).matches' =
        {[first]} + (oneOf characters).matches' := rfl
    rw [step, Language.mem_add, hypothesis, List.exists_mem_cons_iff]
    rfl

/-- **Repeated, an expression of one character** matches the texts of such characters. -/
theorem mem_matches_star_oneOf_iff :
    text ∈ (oneOf characters).star.matches' ↔ ∀ character ∈ text, character ∈ characters := by
  rw [RegularExpression.matches'_star, Language.mem_kstar]
  constructor
  · rintro ⟨words, rfl, areWords⟩ character member
    obtain ⟨word, isWord, inWord⟩ := List.mem_flatten.mp member
    obtain ⟨other, inClass, rfl⟩ := mem_matches_oneOf_iff.mp (areWords word isWord)
    rwa [List.mem_singleton.mp inWord]
  · intro inClass
    refine ⟨text.map ([·]), (List.flatMap_singleton' text).symm, fun word isWord => ?_⟩
    obtain ⟨character, member, rfl⟩ := List.mem_map.mp isWord
    exact mem_matches_oneOf_iff.mpr ⟨character, inClass character member, rfl⟩

/-! ### The grammar -/

/-- The letters and digits of ASCII. -/
def idEdges : List Char :=
  charsBetween 'a' 'z' ++ charsBetween 'A' 'Z' ++ charsBetween '0' '9'

/-- The characters that may stand inside an id. -/
def idInners : List Char :=
  idEdges ++ ['.', '_', '-']

/-- The regular expression of ids, `[a-zA-Z0-9][a-zA-Z0-9._-]*[a-zA-Z0-9]|[a-zA-Z0-9]`. -/
def idExpression : RegularExpression Char :=
  oneOf idEdges * (oneOf idInners).star * oneOf idEdges + oneOf idEdges

/-- An id begins and ends with an ASCII letter or digit, and holds besides them only points,
underscores and hyphens. -/
structure IsIdText (text : List Char) : Prop where
  begins : ∃ first ∈ text.head?, first.isAlphanum = true
  ends : ∃ last ∈ text.getLast?, last.isAlphanum = true
  inner : ∀ character ∈ text, character.isAlphanum = true ∨ character ∈ ['.', '_', '-']

/-- A letter or digit lies in one of three ranges, in whichever order they are looked at. -/
theorem isIdEdge_iff : isIdEdge character = true ↔ character.isAlphanum = true := by
  have order : ∀ one other : Char, one ≤ other ↔ one.val ≤ other.val := fun _ _ => Iff.rfl
  unfold isIdEdge Char.isAlphanum Char.isAlpha Char.isUpper Char.isLower Char.isDigit
  simp only [order, Bool.or_eq_true, Bool.and_eq_true, decide_eq_true_eq]
  exact or_congr or_comm Iff.rfl

theorem mem_idEdges_iff : character ∈ idEdges ↔ isIdEdge character = true := by
  unfold idEdges isIdEdge
  rw [List.mem_append, List.mem_append, mem_charsBetween_iff (by decide),
    mem_charsBetween_iff (by decide), mem_charsBetween_iff (by decide)]
  simp only [Bool.or_eq_true, Bool.and_eq_true, decide_eq_true_eq]

theorem isIdInner_iff :
    isIdInner character = true ↔
      isIdEdge character = true ∨ character ∈ ['.', '_', '-'] := by
  simp [isIdInner, or_assoc]

theorem isIdInner_of_isIdEdge (isEdge : isIdEdge character = true) :
    isIdInner character = true :=
  isIdInner_iff.mpr (.inl isEdge)

theorem mem_idInners_iff : character ∈ idInners ↔ isIdInner character = true := by
  rw [idInners, List.mem_append, mem_idEdges_iff, isIdInner_iff]

/-! ### Three ways to tell the form of an id -/

/-- How an id is put together: of an edge alone, or of two edges around inner characters. -/
inductive IsIdShaped : List Char → Prop where
  | alone {only : Char} (isEdge : isIdEdge only = true) : IsIdShaped [only]
  | around {first last : Char} {inner : List Char} (begins : isIdEdge first = true)
      (between : ∀ character ∈ inner, isIdInner character = true)
      (ends : isIdEdge last = true) : IsIdShaped (first :: (inner ++ [last]))

/-- A text is empty, or one character, or has two ends. -/
theorem ends_cases (text : List Char) :
    text = [] ∨ (∃ only, text = [only]) ∨
      ∃ first inner last, text = first :: (inner ++ [last]) := by
  cases text with
  | nil => exact .inl rfl
  | cons first rest =>
    rcases List.eq_nil_or_concat rest with rfl | ⟨inner, last, rfl⟩
    · exact .inr (.inl ⟨first, rfl⟩)
    · exact .inr (.inr ⟨first, inner, last, by rw [List.concat_eq_append]⟩)

/-- Read from the left, a rest is in order when its last character is an edge. -/
theorem endsLikeId_concat (inner : List Char) (last : Char) :
    endsLikeId (inner ++ [last]) = (inner.all isIdInner && isIdEdge last) := by
  induction inner with
  | nil => rfl
  | cons first inner hypothesis =>
    have step : endsLikeId (first :: (inner ++ [last])) =
        (isIdInner first && endsLikeId (inner ++ [last])) := by
      cases inner <;> rfl
    rw [List.cons_append, step, hypothesis, List.all_cons, Bool.and_assoc]

theorem hasIdForm_around (first last : Char) (inner : List Char) :
    hasIdForm (first :: (inner ++ [last])) =
      (isIdEdge first && (inner.all isIdInner && isIdEdge last)) := by
  rw [← endsLikeId_concat]
  cases inner <;> rfl

/-- **The reader accepts** what is put together as an id. -/
theorem hasIdForm_iff_isIdShaped : hasIdForm text = true ↔ IsIdShaped text := by
  constructor
  · intro accepted
    rcases ends_cases text with rfl | ⟨only, rfl⟩ | ⟨first, inner, last, rfl⟩
    · cases accepted
    · exact .alone accepted
    · rw [hasIdForm_around, Bool.and_eq_true, Bool.and_eq_true, List.all_eq_true] at accepted
      obtain ⟨begins, between, ends⟩ := accepted
      exact .around begins between ends
  · intro shaped
    cases shaped with
    | alone isEdge => exact isEdge
    | around begins between ends =>
      rw [hasIdForm_around, begins, ends, List.all_eq_true.mpr between]
      rfl

/-- **The expression matches** what is put together as an id. -/
theorem mem_matches_iff_isIdShaped : text ∈ idExpression.matches' ↔ IsIdShaped text := by
  have parts : idExpression.matches' =
      (oneOf idEdges).matches' * (oneOf idInners).star.matches' * (oneOf idEdges).matches' +
        (oneOf idEdges).matches' := rfl
  rw [parts, Language.mem_add]
  simp only [Language.mem_mul, mem_matches_oneOf_iff, mem_matches_star_oneOf_iff,
    mem_idEdges_iff, mem_idInners_iff]
  constructor
  · rintro (⟨_, ⟨_, ⟨first, begins, rfl⟩, inner, between, rfl⟩, _, ⟨last, ends, rfl⟩, rfl⟩ |
      ⟨only, isEdge, rfl⟩)
    · exact .around begins between ends
    · exact .alone isEdge
  · intro shaped
    cases shaped with
    | alone isEdge => exact .inr ⟨_, isEdge, rfl⟩
    | around begins between ends =>
      exact .inl ⟨_, ⟨_, ⟨_, begins, rfl⟩, _, between, rfl⟩, _, ⟨_, ends, rfl⟩, rfl⟩

/-- **Each character on its own** tells what is put together as an id. -/
theorem isIdText_iff_isIdShaped : IsIdText text ↔ IsIdShaped text := by
  constructor
  · rintro ⟨⟨first, isFirst, begins⟩, ⟨last, isLast, ends⟩, inner⟩
    simp only [← isIdEdge_iff, ← isIdInner_iff] at begins ends inner
    rcases ends_cases text with rfl | ⟨only, rfl⟩ | ⟨first, inner, last, rfl⟩
    · cases isFirst
    · cases isFirst
      exact .alone begins
    · cases isFirst
      rw [← List.cons_append, List.getLast?_concat] at isLast
      cases isLast
      exact .around begins
        (fun character member =>
          inner character (List.mem_cons_of_mem _ (List.mem_append_left _ member))) ends
  · intro shaped
    have inClass : ∀ character ∈ text, isIdInner character = true := by
      cases shaped with
      | alone isEdge => simpa using isIdInner_of_isIdEdge isEdge
      | around begins between ends =>
        rw [List.forall_mem_cons, List.forall_mem_append, List.forall_mem_singleton]
        exact ⟨isIdInner_of_isIdEdge begins, between, isIdInner_of_isIdEdge ends⟩
    simp only [isIdInner_iff, isIdEdge_iff] at inClass
    cases shaped with
    | alone isEdge =>
      exact ⟨⟨_, rfl, isIdEdge_iff.mp isEdge⟩, ⟨_, rfl, isIdEdge_iff.mp isEdge⟩, inClass⟩
    | around begins between ends =>
      refine ⟨⟨_, rfl, isIdEdge_iff.mp begins⟩, ⟨_, ?_, isIdEdge_iff.mp ends⟩, inClass⟩
      rw [← List.cons_append, List.getLast?_concat]
      rfl

theorem hasIdForm_iff_mem_matches : hasIdForm text = true ↔ text ∈ idExpression.matches' :=
  hasIdForm_iff_isIdShaped.trans mem_matches_iff_isIdShaped.symm

/-! ### All of it -/

namespace IdFault

/-- What is wrong with a text as an id, of three causes the first that there is. -/
inductive IsOf (id : String) : IdFault → Prop where
  | empty (nothing : id = "") : IsOf id .empty
  | tooLong (something : id ≠ "") (long : greatestIdLength < id.utf8ByteSize) :
      IsOf id (.tooLong id.utf8ByteSize)
  | malformed (something : id ≠ "") (short : id.utf8ByteSize ≤ greatestIdLength)
      (unmatched : id.toList ∉ idExpression.matches') : IsOf id (.malformed id)

theorem of?_eq_some_iff {id : String} {fault : IdFault} :
    of? id = some fault ↔ IsOf id fault := by
  unfold of?
  constructor
  · intro found
    split at found
    · rename_i nothing
      cases found
      exact .empty (String.isEmpty_iff.mp nothing)
    · rename_i something
      rw [String.isEmpty_iff] at something
      split at found
      · rename_i long
        cases found
        exact .tooLong something long
      · rename_i short
        split at found
        · rename_i unformed
          cases found
          rw [Bool.not_eq_true', ← Bool.not_eq_true, hasIdForm_iff_mem_matches] at unformed
          exact .malformed something (Nat.not_lt.mp short) unformed
        · cases found
  · intro isOf
    cases isOf with
    | empty nothing => rw [if_pos (String.isEmpty_iff.mpr nothing)]
    | tooLong something long =>
      rw [if_neg (mt String.isEmpty_iff.mp something), if_pos long]
    | malformed something short unmatched =>
      rw [← hasIdForm_iff_mem_matches, Bool.not_eq_true, ← Bool.not_eq_true'] at unmatched
      rw [if_neg (mt String.isEmpty_iff.mp something), if_neg (Nat.not_lt.mpr short),
        if_pos unmatched]

/-- A text that none of the causes applies to is matched and short; the empty one is not matched. -/
theorem of?_eq_none_iff {id : String} :
    of? id = none ↔
      id.toList ∈ idExpression.matches' ∧ id.utf8ByteSize ≤ greatestIdLength := by
  rw [Option.eq_none_iff_forall_ne_some]
  simp only [ne_eq, of?_eq_some_iff]
  constructor
  · intro sound
    have something : id ≠ "" := fun nothing => sound _ (.empty nothing)
    have short : id.utf8ByteSize ≤ greatestIdLength :=
      Nat.not_lt.mp fun long => sound _ (.tooLong something long)
    exact ⟨by_contra fun unmatched => sound _ (.malformed something short unmatched), short⟩
  · rintro ⟨isMatch, short⟩ fault isOf
    cases isOf with
    | empty nothing =>
      subst nothing
      cases hasIdForm_iff_mem_matches.mpr isMatch
    | tooLong _ long => exact Nat.not_lt.mpr short long
    | malformed _ _ unmatched => exact unmatched isMatch

/-- **A text is an id** when the regular expression matches it and it has at most fifty bytes. The
expression matches the texts that begin and end with an ASCII letter or digit and hold besides them
only points, underscores and hyphens. Any other text is refused: as empty, else as too long by its
bytes, else for its form. -/
theorem ids_told (id : String) :
    (of? id = none ↔ id.toList ∈ idExpression.matches' ∧ id.utf8ByteSize ≤ 50) ∧
    (id.toList ∈ idExpression.matches' ↔ IsIdText id.toList) ∧
    ∀ fault, of? id = some fault ↔ IsOf id fault :=
  ⟨of?_eq_none_iff, mem_matches_iff_isIdShaped.trans isIdText_iff_isIdShaped.symm,
    fun _ => of?_eq_some_iff⟩

/-- Too long by its bytes, of which each of its twenty-six characters takes two. -/
example : of? "éééééééééééééééééééééééééé" = some (.tooLong 52) := by decide

end IdFault

end PromptRelay
