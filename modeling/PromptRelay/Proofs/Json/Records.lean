/-
**Records in JSON.**

A record is an object, or an array of its fields in the order of their declaration. Either way it has
a field under a name and a place. An object may leave fields off, in any order; an array may leave
off the last ones alone, and holds nothing else.

* `Json.member?`, `Json.IsRecord`: a field of a record, and how many of them an array may hold;
* `Json.Optionally`: what stands for a value that may be left off or null;
* `Json.text_eq_ok_iff`, `Json.items_eq_ok_iff`, `Json.whole_eq_ok_iff`: what is read as a text, as
  a list, as a whole number;
* `Json.record_eq_ok_iff`, `Json.optional_nullable_eq_ok_iff`: what is read as a record, and as one
  of its optional fields.
-/

import PromptRelay.Json.Strict
import PromptRelay.Proofs.Document.Forms

namespace PromptRelay.Json

variable {Result : Type}

/-! ### Fields -/

/-- A field of a record: under its name in an object, in its place in an array. -/
def member? (name : String) (place : Nat) : Json → Option Json
  | .object fields => fieldOf? name fields
  | .list items => items[place]?
  | _ => none

/-- The value is a record: an object, or an array that holds from `least` to `most` fields. -/
inductive IsRecord (least most : Nat) : Json → Prop where
  | named (fields : List (String × Json)) : IsRecord least most (.object fields)
  | placed {items : List Json} (enough : least ≤ items.length) (few : items.length ≤ most) :
      IsRecord least most (.list items)

/-- What stands for an optional result: nothing or null where there is none. -/
inductive Optionally (stands : Json → Result → Prop) : Option Json → Option Result → Prop where
  | leftOff : Optionally stands none none
  | null : Optionally stands (some .null) none
  | given {value : Json} {result : Result} (notNull : value ≠ .null)
      (standsFor : stands value result) : Optionally stands (some value) (some result)

/-- What has a field is not null. -/
theorem ne_null_of_member {name : String} {place : Nat} {value field : Json}
    (there : value.member? name place = some field) : value ≠ .null := by
  rintro rfl
  cases there

namespace Optionally

variable {stands : Json → Result → Prop} {value : Json} {found : Option Json}

theorem exists_stands {result : Result} (isResult : Optionally stands found (some result)) :
    ∃ value, found = some value ∧ stands value result := by
  cases isResult with
  | given notNull standsFor => exact ⟨_, rfl, standsFor⟩

theorem stands_of_ne_null {result : Option Result} (isResult : Optionally stands (some value) result)
    (notNull : value ≠ .null) : ∃ given, stands value given := by
  cases isResult with
  | null => exact absurd rfl notNull
  | given _ standsFor => exact ⟨_, standsFor⟩

/-- What has a field stands for something. -/
theorem stands_of_member {name : String} {place : Nat} {field : Json} {result : Option Result}
    (isResult : Optionally stands found result) (told : found = some value)
    (there : value.member? name place = some field) : ∃ given, stands value given := by
  rw [told] at isResult
  exact isResult.stands_of_ne_null (ne_null_of_member there)

end Optionally

/-- What is made of an optional result stands for what is made of the results. -/
theorem exists_optionally_map_iff {Made : Type} {stands : Json → Result → Prop}
    {change : Result → Made} {value : Option Json} {made : Option Made} :
    (∃ result, Optionally stands value result ∧ result.map change = made) ↔
      Optionally (fun value made => ∃ result, stands value result ∧ change result = made) value
        made := by
  constructor
  · rintro ⟨result, isResult, rfl⟩
    cases isResult with
    | leftOff => exact .leftOff
    | null => exact .null
    | given notNull standsFor => exact .given notNull ⟨_, standsFor, rfl⟩
  · intro isMade
    cases isMade with
    | leftOff => exact ⟨none, .leftOff, rfl⟩
    | null => exact ⟨none, .null, rfl⟩
    | given notNull standsFor =>
      obtain ⟨result, isResult, rfl⟩ := standsFor
      exact ⟨some result, .given notNull isResult, rfl⟩

/-! ### Single values -/

theorem text_eq_ok_iff {value : Json} {text : String} :
    strict.text value = .ok text ↔ value = .text text := by
  show readText value = .ok text ↔ _
  unfold readText refuse
  cases value <;> simp

theorem items_eq_ok_iff {value : Json} {items : List Json} :
    strict.items value = .ok items ↔ value = .list items := by
  show readItems value = .ok items ↔ _
  unfold readItems refuse
  cases value <;> simp

/-- A whole number is read where it fits its width. -/
theorem whole_eq_ok_iff {width : Width} {value : Json} {number : Nat} :
    strict.whole width value = .ok number ↔
      value = .integer number ∧ number ≤ width.greatest := by
  show readWhole width value = .ok number ↔ _
  unfold readWhole refuse
  cases value with
  | integer found =>
    dsimp only
    rw [Json.integer.injEq]
    split
    · rename_i fits
      rw [Bool.and_eq_true, decide_eq_true_iff, decide_eq_true_iff] at fits
      rw [Except.ok.injEq]
      omega
    · rename_i beyond
      rw [Bool.and_eq_true, decide_eq_true_iff, decide_eq_true_iff] at beyond
      refine iff_of_false (fun same => by cases same) fun ⟨same, fits⟩ => beyond ?_
      omega
  | null | bool | float | text | list | object => simp

theorem isNull_eq_true_iff {value : Json} : strict.isNull value = true ↔ value = .null := by
  unfold strict
  cases value <;> simp

/-! ### Records -/

/-- The record with its fields laid open. -/
inductive OpensAs : Json → Opened Json → Prop where
  | named (fields : List (String × Json)) : OpensAs (.object fields) (.named (fieldOf? · fields))
  | placed (items : List Json) : OpensAs (.list items) (.placed items)

theorem IsRecord.exists_opensAs {value : Json} {least most : Nat}
    (shape : value.IsRecord least most) : ∃ opened, value.OpensAs opened := by
  cases shape with
  | named fields => exact ⟨_, .named fields⟩
  | placed _ _ => exact ⟨_, .placed _⟩

theorem IsRecord.of_least {value : Json} {least most : Nat} (shape : value.IsRecord least most) :
    value.IsRecord 0 most := by
  cases shape with
  | named fields => exact .named fields
  | placed _ few => exact .placed (Nat.zero_le _) few

theorem opened_eq_ok_iff {typeName : String} {value : Json} {opened : Opened Json} :
    strict.opened typeName value = .ok opened ↔ value.OpensAs opened := by
  show openRecord typeName value = .ok opened ↔ _
  unfold openRecord refuse
  constructor
  · intro opens
    cases value with
    | object fields =>
      cases opens
      exact .named fields
    | list items =>
      cases opens
      exact .placed items
    | null | bool | integer | float | text => cases opens
  · intro opens
    cases opens <;> rfl

namespace OpensAs

variable {value : Json} {opened : Opened Json} {name : String} {place least most : Nat}

theorem field?_eq (opens : value.OpensAs opened) (name : String) (place : Nat) :
    opened.field? name place = value.member? name place := by
  cases opens <;> rfl

theorem surplus?_eq_none_iff (opens : value.OpensAs opened) :
    strict.surplus? most opened = none ↔ value.IsRecord 0 most := by
  cases opens with
  | named fields => exact iff_of_true rfl (.named fields)
  | placed items =>
    show (if most < items.length then some (Fault.tooLong items.length) else none) = none ↔ _
    constructor
    · intro none
      split at none
      · cases none
      · rename_i few
        exact .placed (Nat.zero_le _) (Nat.not_lt.mp few)
    · intro shape
      cases shape with
      | placed _ few => rw [if_neg (Nat.not_lt.mpr few)]

theorem field_eq_ok_iff {read : Json → Except Fault Result} {result : Result}
    (opens : value.OpensAs opened) :
    (Form.field name read opened place).1 = .ok result ↔
      ∃ found, value.member? name place = some found ∧ read found = .ok result := by
  rw [Form.field_eq_ok_iff, opens.field?_eq]

theorem text_eq_ok_iff {text : String} (opens : value.OpensAs opened) :
    (Form.field name strict.text opened place).1 = .ok text ↔
      value.member? name place = some (.text text) := by
  rw [opens.field_eq_ok_iff]
  simp only [Json.text_eq_ok_iff, exists_eq_right]

/-- **An array holds enough fields** when it does not leave off the last one that is needed. -/
theorem isRecord_succ_iff (opens : value.OpensAs opened) (name : String) :
    value.IsRecord (place + 1) most ↔
      value.IsRecord 0 most ∧ (value.member? name place = none → opened.IsNamed) := by
  cases opens with
  | named fields => exact iff_of_true (.named fields) ⟨.named fields, fun _ => ⟨_, rfl⟩⟩
  | placed items =>
    have unnamed : ¬ (Opened.placed items).IsNamed := fun ⟨_, same⟩ => by cases same
    have leftOff : (Json.list items).member? name place = none ↔ items.length ≤ place :=
      List.getElem?_eq_none_iff
    rw [leftOff]
    constructor
    · rintro (_ | ⟨enough, few⟩)
      exact ⟨.placed (Nat.zero_le _) few, fun short => absurd short (Nat.not_le.mpr enough)⟩
    · rintro ⟨_ | ⟨_, few⟩, long⟩
      exact .placed (Nat.not_le.mp fun short => unnamed (long short)) few

theorem isRecord_of_member {found : Json} (opens : value.OpensAs opened)
    (shape : value.IsRecord 0 most) (there : value.member? name place = some found) :
    value.IsRecord (place + 1) most := by
  refine (opens.isRecord_succ_iff name).mpr ⟨shape, fun missing => ?_⟩
  rw [there] at missing
  cases missing

/-- **An optional field is read** where it may be left off, where it is null, and where its value
is read. -/
theorem optional_nullable_eq_ok_iff {read : Json → Except Fault Result} {result : Option Result}
    (opens : value.OpensAs opened) :
    (Form.optional name (strict.nullable read) opened place).1 = .ok result ↔
      Optionally (fun value result => read value = .ok result) (value.member? name place) result ∧
        (value.member? name place = none → opened.IsNamed) := by
  rw [Form.optional_eq_ok_iff, opens.field?_eq]
  simp only [Format.nullable_eq_ok_iff, ← Bool.not_eq_true, isNull_eq_true_iff]
  constructor
  · rintro (⟨named, leftOff, rfl⟩ | ⟨found, there, ⟨rfl, rfl⟩ | ⟨notNull, inner, reads, rfl⟩⟩)
    · rw [leftOff]
      exact ⟨.leftOff, fun _ => named⟩
    · rw [there]
      exact ⟨.null, fun none => by cases none⟩
    · rw [there]
      exact ⟨.given notNull reads, fun none => by cases none⟩
  · rintro ⟨stands, mayLack⟩
    generalize value.member? name place = found at stands mayLack
    cases stands with
    | leftOff => exact .inl ⟨mayLack rfl, rfl, rfl⟩
    | null => exact .inr ⟨.null, rfl, .inl ⟨rfl, rfl⟩⟩
    | given notNull reads => exact .inr ⟨_, rfl, .inr ⟨notNull, _, reads, rfl⟩⟩

end OpensAs

/-- **A record is read** when its form has a result and an array holds no more than its fields. So
to know when this is, it is enough to look at how it opens. -/
theorem record_eq_ok_iff {typeName : String} {form : Form Json Fault Result} {value : Json}
    {result : Result} {tells : Prop} {least most : Nat}
    (isRecord : tells → value.IsRecord least most)
    (reads : ∀ opened, value.OpensAs opened →
      ((form opened 0).1 = .ok result ∧ value.IsRecord 0 (form opened 0).2 ↔ tells)) :
    strict.record typeName form value = .ok result ↔ tells := by
  rw [Format.record_eq_ok_iff]
  simp only [opened_eq_ok_iff]
  constructor
  · rintro ⟨opened, opens, isResult, noMore⟩
    exact (reads opened opens).mp ⟨isResult, opens.surplus?_eq_none_iff.mp noMore⟩
  · intro told
    obtain ⟨opened, opens⟩ := (isRecord told).exists_opensAs
    obtain ⟨isResult, noMore⟩ := (reads opened opens).mpr told
    exact ⟨opened, opens, isResult, opens.surplus?_eq_none_iff.mpr noMore⟩

end PromptRelay.Json
