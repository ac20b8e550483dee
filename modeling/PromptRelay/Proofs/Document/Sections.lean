/-
**Sections whose keys are given or left off.**

A document need not give every key. What it says of a key is an optional result: none where the key
is left off, and where it is given, what its value is read as. A field of a form then has the given
result or its standard one, and a field that has to be there leaves a gap. A key may hold a section;
the gaps of a section are gaps of what holds it, one step further down.

* `Gives`: a key is left off, or is given and read as a result;
* `Format.Section`: a value that lays keys open by their names;
* `Format.Tells`: what is read is a result, or the fault of a gap;
* `tells_elim`: a section that is left off has no gaps;
* `Form.field_apply`, `Form.fieldOr_apply`, `Form.fieldOr_named_apply`: what a field is read as.
-/

import PromptRelay.Proofs.Document.Fields

namespace PromptRelay

variable {Value Fault Result Given : Type} {format : Format Value Fault}

/-! ### What stands in a document, and what is told of it -/

/-- A key is left off, or its value is read as what is given. -/
abbrev Gives (read : Value → Except Fault Result) : Option Value → Option Result → Prop :=
  Option.Rel fun value result => read value = .ok result

/-- A value is a section, and what is found in it by name holds what is given. -/
inductive Format.Section (format : Format Value Fault) (typeName : String)
    (holds : (String → Option Value) → Given → Prop) (value : Value) (given : Given) : Prop where
  | laidOpen {find? : String → Option Value}
      (opens : format.opened typeName value = .ok (.named find?)) (holdsGiven : holds find? given)

/-- Where there is no gap, a result is read; else the fault of a gap is, which names the missing key
behind the sections that lead to it. -/
inductive Format.Tells (format : Format Value Fault) (gap : List String → String → Prop)
    (result : Result) : Except Fault Result → Prop where
  | whole (noGap : ∀ path key, ¬ gap path key) : Tells format gap result (.ok result)
  | lacking {path : List String} {key : String} (isGap : gap path key) :
      Tells format gap result (.error (path.foldr format.inField (format.missing key)))

theorem Format.Tells.congr {gap other : List String → String → Prop} {result : Result}
    {outcome : Except Fault Result} (tells : format.Tells gap result outcome)
    (same : ∀ path key, other path key ↔ gap path key) : format.Tells other result outcome := by
  cases tells with
  | whole noGap => exact .whole fun path key isGap => noGap path key ((same path key).mp isGap)
  | lacking isGap => exact .lacking ((same _ _).mpr isGap)

section Elim

variable {stands : Value → Given → Prop} {read : Value → Except Fault Result}
  {change : Given → Result} {standard : Result} {found : Option Value} {given : Option Given}

/-- A section that has no gaps in any case. -/
theorem elim_eq_ok (gives : Option.Rel stands found given)
    (reads : ∀ {value given}, stands value given → read value = .ok (change given)) :
    found.elim (.ok standard) read = .ok (given.elim standard change) := by
  cases gives with
  | none => rfl
  | some isGiven => exact reads isGiven

/-- **A section that is left off** has no gaps. -/
theorem tells_elim {gap : Given → List String → String → Prop} (standard : Result)
    (gives : Option.Rel stands found given)
    (tells : ∀ {value given}, stands value given →
      format.Tells (gap given) (change given) (read value)) :
    format.Tells (fun path key => ∃ keys, given = some keys ∧ gap keys path key)
      (given.elim standard change) (found.elim (.ok standard) read) := by
  cases gives with
  | none => exact .whole fun path key ⟨keys, isGiven, _⟩ => by cases isGiven
  | some isGiven => exact (tells isGiven).congr fun path key => by simp

end Elim

namespace Form

/-! ### Fields -/

section Fields

variable {find? : String → Option Value} {name : String} {place : Nat}
  {read : Value → Except Fault Result} {standard : Result} {given : Option Result}

/-- A field that has to be there is missing where it is left off. -/
theorem field_apply (gives : Gives read (find? name) given) :
    field name read (.named find?) place =
      (given.elim (.error [.absent name place]) .ok, place + 1) := by
  unfold field Opened.field?
  dsimp only
  generalize find? name = found at gives
  cases gives with
  | none => rfl
  | some isRead =>
    dsimp only
    rw [isRead]
    rfl

/-- **A field with a standard result** is read where it is there; its fault is one of the field. -/
theorem fieldOr_named_apply :
    fieldOr name standard read (.named find?) place =
      (((find? name).elim (.ok standard) read).mapError fun fault => [.wrong name place fault],
        place + 1) := by
  unfold fieldOr field Opened.field?
  dsimp only
  cases find? name with
  | none => rfl
  | some value =>
    dsimp only [Option.elim_some]
    cases read value <;> rfl

theorem fieldOr_apply (gives : Gives read (find? name) given) :
    fieldOr name standard read (.named find?) place = (.ok (given.getD standard), place + 1) := by
  rw [fieldOr_named_apply, elim_eq_ok gives id]
  cases given <;> rfl

end Fields

end Form

end PromptRelay
