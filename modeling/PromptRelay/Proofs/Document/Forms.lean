/-
**What a form reads.**

A form reads the fields of a record one after the other and keeps all faults. It has a result when
each of its fields has one, and how many fields it has does not depend on what stands in them. So a
record is read exactly when each field that is there can be read, each that is not there may be left
off, and nothing stands behind the last one.

* `bind_eq_ok_iff`, `mapError_eq_ok_iff`: results of actions that may fail;
* `Opened.IsNamed`: the fields of a record have names, so that one of them may be missing;
* `Form.seq_apply`, `Form.map_apply`: a chain joins the results of its parts, or else their faults;
* `Form.seq_eq_ok_iff`, `Form.field_eq_ok_iff`, `Form.fieldOr_eq_ok_iff`, `Form.optional_eq_ok_iff`:
  what the parts of a form read;
* `Form.two_eq_ok_iff`, `Form.three_eq_ok_iff`: what forms of two and of three parts read;
* `Format.list_eq_ok_iff`, `Format.nullable_eq_ok_iff`, `Format.record_eq_ok_iff`,
  `Format.record_named_eq`: what lists, values that may be null and records are read as.
-/

import Mathlib.Data.List.Forall2
import PromptRelay.Document.Format

namespace PromptRelay

theorem bind_eq_ok_iff {Error First Second : Type} {action : Except Error First}
    {next : First → Except Error Second} {result : Second} :
    action >>= next = .ok result ↔ ∃ value, action = .ok value ∧ next value = .ok result := by
  cases action with
  | error error => exact iff_of_false (fun same => by cases same) fun ⟨_, same, _⟩ => by cases same
  | ok value => exact ⟨fun same => ⟨value, rfl, same⟩, fun ⟨_, isValue, same⟩ => by
      cases isValue
      exact same⟩

theorem mapError_eq_ok_iff {Error Other Result : Type} {change : Error → Other}
    {action : Except Error Result} {result : Result} :
    action.mapError change = .ok result ↔ action = .ok result := by
  cases action with
  | error error => exact iff_of_false (fun same => by cases same) fun same => by cases same
  | ok value => exact ⟨fun same => (by cases same; rfl), fun same => (by cases same; rfl)⟩

variable {Value Fault First Result : Type}

theorem exists_of_forall₂ {related : First → Result → Prop} {firsts : List First}
    {results : List Result} (areRelated : List.Forall₂ related firsts results) :
    ∀ first ∈ firsts, ∃ result, related first result :=
  ((List.forall₂_and_left _ _).mp
    (areRelated.imp fun _ result isRelated => ⟨⟨result, isRelated⟩, isRelated⟩)).1

/-- The fields of the record have names. -/
def Opened.IsNamed (opened : Opened Value) : Prop :=
  ∃ find?, opened = .named find?

namespace Form

variable {opened : Opened Value} {place : Nat}

/-! ### The parts of a form -/

section Parts

variable {name : String} {read : Value → Except Fault Result} {result : Result}

/-- Both results, or the faults of either. -/
def joined (function : Except (List (FieldFault Fault)) (First → Result))
    (argument : Except (List (FieldFault Fault)) First) :
    Except (List (FieldFault Fault)) Result :=
  match function, argument with
  | .ok function, .ok argument => .ok (function argument)
  | .ok _, .error faults => .error faults
  | .error faults, .ok _ => .error faults
  | .error faults, .error more => .error (faults ++ more)

theorem joined_eq_ok_iff {function : Except (List (FieldFault Fault)) (First → Result)}
    {argument : Except (List (FieldFault Fault)) First} :
    joined function argument = .ok result ↔
      ∃ change, function = .ok change ∧ ∃ first, argument = .ok first ∧ change first = result := by
  cases function <;> cases argument <;> simp [joined]

/-- **A chain** joins what its parts are read as; the second one starts where the first ends. -/
theorem seq_apply (function : Form Value Fault (First → Result))
    (argument : Form Value Fault First) :
    (function <*> argument) opened place =
      (joined (function opened place).1 (argument opened (function opened place).2).1,
        (argument opened (function opened place).2).2) := by
  show andThen function argument opened place = _
  unfold andThen joined
  dsimp only
  cases (function opened place).1 <;> cases (argument opened (function opened place).2).1 <;> rfl

theorem map_apply (function : First → Result) (form : Form Value Fault First) :
    (function <$> form) opened place =
      (joined (.ok function) (form opened place).1, (form opened place).2) :=
  seq_apply (done function) form

theorem map_place (function : First → Result) (form : Form Value Fault First) :
    ((function <$> form) opened place).2 = (form opened place).2 := by
  rw [map_apply]

/-- A form goes on where the one before it has ended. -/
theorem seq_place (function : Form Value Fault (First → Result))
    (argument : Form Value Fault First) :
    ((function <*> argument) opened place).2 =
      (argument opened (function opened place).2).2 := by
  rw [seq_apply]

theorem field_place (name : String) (read : Value → Except Fault Result) :
    (field name read opened place).2 = place + 1 := by
  unfold field
  cases opened.field? name place with
  | none => rfl
  | some value =>
    dsimp only
    cases read value <;> rfl

theorem fieldOr_place (name : String) (standard : Result) (read : Value → Except Fault Result) :
    (fieldOr name standard read opened place).2 = place + 1 := by
  unfold fieldOr
  cases opened.field? name place with
  | none => rfl
  | some value => exact field_place name read

theorem optional_place (name : String) (read : Value → Except Fault (Option Result)) :
    (optional name read opened place).2 = place + 1 := by
  unfold optional
  cases opened with
  | named find? => exact fieldOr_place name none read
  | placed values => exact field_place name read

theorem map_eq_ok_iff {function : First → Result} {form : Form Value Fault First} :
    ((function <$> form) opened place).1 = .ok result ↔
      ∃ first, (form opened place).1 = .ok first ∧ function first = result := by
  rw [map_apply, joined_eq_ok_iff]
  simp

/-- **Two forms have a result** when both have one; the faults of either make it fail. -/
theorem seq_eq_ok_iff {function : Form Value Fault (First → Result)}
    {argument : Form Value Fault First} :
    ((function <*> argument) opened place).1 = .ok result ↔
      ∃ change, (function opened place).1 = .ok change ∧
        ∃ first, (argument opened (function opened place).2).1 = .ok first ∧
          change first = result := by
  rw [seq_apply, joined_eq_ok_iff]

/-- A field has a result when it is there and can be read. -/
theorem field_eq_ok_iff :
    (field name read opened place).1 = .ok result ↔
      ∃ value, opened.field? name place = some value ∧ read value = .ok result := by
  unfold field
  cases opened.field? name place with
  | none => simp
  | some value =>
    dsimp only
    cases isRead : read value <;> simp [isRead]

/-- A field with a standard value has it when it is left off. -/
theorem fieldOr_eq_ok_iff {standard : Result} :
    (fieldOr name standard read opened place).1 = .ok result ↔
      (opened.field? name place = none ∧ standard = result) ∨
        ∃ value, opened.field? name place = some value ∧ read value = .ok result := by
  unfold fieldOr
  cases there : opened.field? name place with
  | none => simp
  | some value =>
    dsimp only
    rw [field_eq_ok_iff, there]
    simp

/-- An optional field may be left off where fields have names. -/
theorem optional_eq_ok_iff {read : Value → Except Fault (Option Result)}
    {result : Option Result} :
    (optional name read opened place).1 = .ok result ↔
      (opened.IsNamed ∧ opened.field? name place = none ∧ none = result) ∨
        ∃ value, opened.field? name place = some value ∧ read value = .ok result := by
  unfold optional Opened.IsNamed
  cases opened with
  | named find? =>
    dsimp only
    rw [fieldOr_eq_ok_iff]
    simp
  | placed values =>
    dsimp only
    rw [field_eq_ok_iff]
    simp

end Parts

/-! ### Forms of two and of three parts -/

section Small

variable {Second Third : Type} {first : Form Value Fault First} {second : Form Value Fault Second}
  {third : Form Value Fault Third} {result : Result}

theorem two_place {function : First → Second → Result} :
    ((function <$> first <*> second) opened place).2 =
      (second opened (first opened place).2).2 := by
  rw [seq_place, map_place]

theorem two_eq_ok_iff {function : First → Second → Result} :
    ((function <$> first <*> second) opened place).1 = .ok result ↔
      ∃ one two, (first opened place).1 = .ok one ∧
        (second opened (first opened place).2).1 = .ok two ∧ function one two = result := by
  rw [seq_eq_ok_iff]
  simp only [map_eq_ok_iff, map_place]
  constructor
  · rintro ⟨_, ⟨one, isOne, rfl⟩, two, isTwo, same⟩
    exact ⟨one, two, isOne, isTwo, same⟩
  · rintro ⟨one, two, isOne, isTwo, same⟩
    exact ⟨_, ⟨one, isOne, rfl⟩, two, isTwo, same⟩

theorem three_place {function : First → Second → Third → Result} :
    ((function <$> first <*> second <*> third) opened place).2 =
      (third opened (second opened (first opened place).2).2).2 := by
  rw [seq_place, two_place]

theorem three_eq_ok_iff {function : First → Second → Third → Result} :
    ((function <$> first <*> second <*> third) opened place).1 = .ok result ↔
      ∃ one two three, (first opened place).1 = .ok one ∧
        (second opened (first opened place).2).1 = .ok two ∧
        (third opened (second opened (first opened place).2).2).1 = .ok three ∧
        function one two three = result := by
  rw [seq_eq_ok_iff]
  simp only [two_eq_ok_iff, two_place]
  constructor
  · rintro ⟨_, ⟨one, two, isOne, isTwo, rfl⟩, three, isThree, same⟩
    exact ⟨one, two, three, isOne, isTwo, isThree, same⟩
  · rintro ⟨one, two, three, isOne, isTwo, isThree, same⟩
    exact ⟨_, ⟨one, two, isOne, isTwo, rfl⟩, three, isThree, same⟩

end Small

end Form

namespace Format

variable {format : Format Value Fault} {read : Value → Except Fault Result}

/-! ### Lists, values that may be null, and records -/

theorem readItems_eq_ok_iff {place : Nat} {values : List Value} {results : List Result} :
    format.readItems read place values = .ok results ↔
      List.Forall₂ (fun value result => read value = .ok result) values results := by
  induction values generalizing place results with
  | nil =>
    unfold readItems
    cases results <;> simp
  | cons value values hypothesis =>
    unfold readItems
    rw [bind_eq_ok_iff]
    simp only [mapError_eq_ok_iff, bind_eq_ok_iff, hypothesis, List.forall₂_cons_left_iff]
    constructor
    · rintro ⟨first, isFirst, rest, areRest, same⟩
      cases same
      exact ⟨first, rest, isFirst, areRest, rfl⟩
    · rintro ⟨first, rest, isFirst, areRest, rfl⟩
      exact ⟨first, isFirst, rest, areRest, rfl⟩

/-- **A list is read** when each of its items is. -/
theorem list_eq_ok_iff {value : Value} {results : List Result} :
    format.list read value = .ok results ↔ ∃ values, format.items value = .ok values ∧
      List.Forall₂ (fun value result => read value = .ok result) values results := by
  unfold list
  simp only [bind_eq_ok_iff, readItems_eq_ok_iff]

theorem nullable_eq_ok_iff {value : Value} {result : Option Result} :
    format.nullable read value = .ok result ↔
      (format.isNull value = true ∧ result = none) ∨
        (format.isNull value = false ∧ ∃ found, read value = .ok found ∧ result = some found) := by
  unfold nullable
  cases format.isNull value with
  | true => simp [eq_comm]
  | false =>
    cases read value with
    | error fault =>
      refine iff_of_false (fun same => by cases same) ?_
      rintro (⟨null, _⟩ | ⟨_, _, same, _⟩)
      · cases null
      · cases same
    | ok found =>
      constructor
      · intro same
        cases same
        exact .inr ⟨rfl, found, rfl, rfl⟩
      · rintro (⟨null, _⟩ | ⟨_, _, same, rfl⟩)
        · cases null
        · cases same
          rfl

/-- **A record is read** when it can be opened, its form has a result, and nothing stands behind the
last field. -/
theorem record_eq_ok_iff {typeName : String} {form : Form Value Fault Result} {value : Value}
    {result : Result} :
    format.record typeName form value = .ok result ↔
      ∃ opened, format.opened typeName value = .ok opened ∧ (form opened 0).1 = .ok result ∧
        format.surplus? (form opened 0).2 opened = none := by
  unfold record
  rw [bind_eq_ok_iff]
  refine exists_congr fun opened => and_congr_right fun _ => ?_
  dsimp only
  cases (form opened 0).1 with
  | error faults => simp
  | ok found =>
    cases format.surplus? (form opened 0).2 opened <;> simp

/-- What a record is read as when its fields have names. -/
theorem record_named_eq {typeName : String} {form : Form Value Fault Result} {value : Value}
    {find? : String → Option Value}
    (opens : format.opened typeName value = .ok (.named find?)) :
    format.record typeName form value =
      (form (.named find?) 0).1.mapError fun faults =>
        (format.faultOfNamed faults).getD (format.missing typeName) := by
  unfold record
  rw [opens]
  dsimp only [bind, Except.bind]
  cases (form (.named find?) 0).1 <;> rfl

end Format

end PromptRelay
