/-
**Records field by field.**

A form is a chain of fields. What holds of its result is what holds after the first field, and then
after the next, up to the last; so a record is followed through its form one field at a time, and
what is known of a field is put in where its turn comes. And a form looks at the fields of its own
names alone: whatever else a record holds, and in which order, its result is the same.

* `Form.Leads`: a form has a result, and something follows from it;
* `Form.leads_seq_iff`, `Form.leads_field_iff`: through a chain, and through one of its fields;
* `Form.Agrees`: two records are read alike by a form;
* `Form.Agrees.seq`, `Form.agrees_field`: it is enough that each field is read alike.
-/

import PromptRelay.Proofs.Document.Forms

namespace PromptRelay.Form

variable {Value Fault First Result : Type} {name : String}

/-! ### What follows from a form -/

section Leads

variable {opened : Opened Value} {place : Nat} {follows : Result → Nat → Prop}

/-- The form has a result, and something follows from it and from the place where the form ends. -/
def Leads (form : Form Value Fault Result) (opened : Opened Value) (place : Nat)
    (follows : Result → Nat → Prop) : Prop :=
  ∃ result, (form opened place).1 = .ok result ∧ follows result (form opened place).2

theorem eq_ok_iff_leads {form : Form Value Fault Result} {result : Result} :
    (form opened place).1 = .ok result ↔
      form.Leads opened place fun found _ => found = result := by
  simp [Leads]

theorem leads_map_iff {function : First → Result} {form : Form Value Fault First} :
    (function <$> form).Leads opened place follows ↔
      form.Leads opened place fun first place => follows (function first) place := by
  simp only [Leads, map_eq_ok_iff, map_place]
  constructor
  · rintro ⟨_, ⟨first, isFirst, rfl⟩, holds⟩
    exact ⟨first, isFirst, holds⟩
  · rintro ⟨first, isFirst, holds⟩
    exact ⟨_, ⟨first, isFirst, rfl⟩, holds⟩

/-- **Through a chain**: what follows from the second form follows after the first. -/
theorem leads_seq_iff {function : Form Value Fault (First → Result)}
    {argument : Form Value Fault First} :
    (function <*> argument).Leads opened place follows ↔
      function.Leads opened place fun change place =>
        argument.Leads opened place fun first place => follows (change first) place := by
  simp only [Leads, seq_eq_ok_iff, seq_place]
  constructor
  · rintro ⟨_, ⟨change, isChange, first, isFirst, rfl⟩, holds⟩
    exact ⟨change, isChange, first, isFirst, holds⟩
  · rintro ⟨change, isChange, first, isFirst, holds⟩
    exact ⟨_, ⟨change, isChange, first, isFirst, rfl⟩, holds⟩

theorem leads_field_iff {read : Value → Except Fault Result} :
    (field name read).Leads opened place follows ↔
      ∃ result, (field name read opened place).1 = .ok result ∧ follows result (place + 1) := by
  rw [Leads, field_place]

theorem leads_fieldOr_iff {standard : Result} {read : Value → Except Fault Result} :
    (fieldOr name standard read).Leads opened place follows ↔
      ∃ result, (fieldOr name standard read opened place).1 = .ok result ∧
        follows result (place + 1) := by
  rw [Leads, fieldOr_place]

theorem leads_optional_iff {read : Value → Except Fault (Option Result)}
    {follows : Option Result → Nat → Prop} :
    (optional name read).Leads opened place follows ↔
      ∃ result, (optional name read opened place).1 = .ok result ∧ follows result (place + 1) := by
  rw [Leads, optional_place]

end Leads

/-! ### Records that are read alike -/

section Agrees

variable {find? other? : String → Option Value}

/-- The form reads alike what is found in two ways. -/
def Agrees (form : Form Value Fault Result) (find? other? : String → Option Value) : Prop :=
  ∀ place, form (.named find?) place = form (.named other?) place

theorem Agrees.map {form : Form Value Fault First} (agrees : form.Agrees find? other?)
    (function : First → Result) : (function <$> form).Agrees find? other? := by
  intro place
  rw [map_apply, map_apply, agrees place]

/-- **It is enough that each field is read alike**: the second form starts where the first ends. -/
theorem Agrees.seq {function : Form Value Fault (First → Result)}
    {argument : Form Value Fault First} (functionAgrees : function.Agrees find? other?)
    (argumentAgrees : argument.Agrees find? other?) :
    (function <*> argument).Agrees find? other? := by
  intro place
  rw [seq_apply, seq_apply, functionAgrees place, argumentAgrees]

/-- A field is read alike when what it holds is, though it may hold different things. -/
theorem agrees_field {read : Value → Except Fault Result}
    (same : (find? name).map read = (other? name).map read) :
    (field name read).Agrees find? other? := by
  intro place
  unfold field Opened.field?
  dsimp only
  cases found : find? name with
  | none =>
    rw [found] at same
    rw [Option.map_eq_none_iff.mp same.symm]
  | some value =>
    rw [found] at same
    obtain ⟨other, isOther, sameRead⟩ := Option.map_eq_some_iff.mp same.symm
    rw [isOther]
    dsimp only
    rw [sameRead]

theorem agrees_fieldOr {standard : Result} {read : Value → Except Fault Result}
    (same : (find? name).map read = (other? name).map read) :
    (fieldOr name standard read).Agrees find? other? := by
  intro place
  have sameField := agrees_field same place
  unfold fieldOr Opened.field?
  dsimp only
  cases found : find? name with
  | none =>
    rw [found] at same
    rw [Option.map_eq_none_iff.mp same.symm]
  | some value =>
    rw [found] at same
    obtain ⟨other, isOther, _⟩ := Option.map_eq_some_iff.mp same.symm
    rw [isOther]
    exact sameField

theorem agrees_optional {read : Value → Except Fault (Option Result)}
    (same : (find? name).map read = (other? name).map read) :
    (optional name read).Agrees find? other? :=
  agrees_fieldOr same

end Agrees

end PromptRelay.Form
