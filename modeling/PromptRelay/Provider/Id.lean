/-
**Provider ids.**

An id is one letter or digit, or begins and ends with one and has letters, digits, points,
underscores and hyphens between; ASCII alone counts. It has at most fifty bytes.

* `hasIdForm`: the form, read from left to right;
* `IdFault.of?`: what is wrong with a text as an id, the first of three causes.
-/

namespace PromptRelay

/-- What is wrong with a text as a provider id. -/
inductive IdFault where
  | empty
  | tooLong (bytes : Nat)
  | malformed (id : String)
  deriving DecidableEq, Repr

/-- The greatest number of bytes of an id. -/
def greatestIdLength : Nat := 50

namespace IdFault

/-- The wording of a fault. -/
def message : IdFault → String
  | .empty => "Provider ID cannot be empty"
  | .tooLong bytes => s!"Provider ID too long: {bytes} characters (max {greatestIdLength})"
  | .malformed id => s!"Invalid provider ID format '{id}'"

end IdFault

/-- An ASCII letter or digit. -/
def isIdEdge (character : Char) : Bool :=
  ('a' ≤ character && character ≤ 'z') || ('A' ≤ character && character ≤ 'Z') ||
    ('0' ≤ character && character ≤ '9')

/-- A character that may stand inside an id. -/
def isIdInner (character : Char) : Bool :=
  isIdEdge character || character = '.' || character = '_' || character = '-'

/-- Inner characters with an edge character at the end. -/
def endsLikeId : List Char → Bool
  | [] => false
  | [last] => isIdEdge last
  | character :: rest => isIdInner character && endsLikeId rest

/-- The form of an id: an edge character alone, or one followed by a rest that ends in one. -/
def hasIdForm : List Char → Bool
  | [] => false
  | [only] => isIdEdge only
  | first :: rest => isIdEdge first && endsLikeId rest

/-- What is wrong with a text as an id, if anything. -/
def IdFault.of? (id : String) : Option IdFault :=
  if id.isEmpty then some .empty
  else if greatestIdLength < id.utf8ByteSize then some (.tooLong id.utf8ByteSize)
  else if !hasIdForm id.toList then some (.malformed id)
  else none

end PromptRelay
