/-
**Values written as JSON and read back.**

What is written of a field is read back as that field, or is not read at all: a whole number beyond
its width and a float without digits, which is written as null. A record is read back field by field.
It is found by the names of its fields, so what else an object holds makes no difference, nor does
the order of what it holds.

A reader of JSON keeps numbers of two kinds, whole ones of 64 bits and finite floats. Whatever is
made of a value of such numbers can be written and read back.

* `Json.IsSound`: the numbers of a JSON value are of these two kinds;
* `Json.Assures`: what a reader makes of a sound value keeps to a condition;
* `Json.ReadsBack`: a reader undoes a writer, on the values that keep to a condition and no others;
* `Json.fieldOf?_perm`, `Json.fieldOf?_insert`: order and unknown fields;
* `Json.Codec`, `Json.Codec.IsFaithful`: how the values of a type are written and read, and what may
  be relied on; `Json.Codec.isFaithful` assembles it from the laws of the fields.
-/

import Mathlib.Data.List.Nodup
import PromptRelay.Json.Encode
import PromptRelay.Proofs.Decimal.Finite
import PromptRelay.Proofs.Document.Fields
import PromptRelay.Proofs.Json.Records

namespace PromptRelay.Json

variable {Value : Type} {name : String} {place : Nat}

/-! ### Sound values -/

/-- The numbers of the value are whole ones of 64 bits, signed or not, and finite floats. -/
inductive IsSound : Json → Prop where
  | null : IsSound .null
  | bool (value : Bool) : IsSound (.bool value)
  | integer {value : Int} (least : -2 ^ 63 ≤ value) (most : value < 2 ^ 64) :
      IsSound (.integer value)
  | float {value : Float} (finite : value.isFinite = true) : IsSound (.float value)
  | text (value : String) : IsSound (.text value)
  | list {items : List Json} (sound : ∀ item ∈ items, IsSound item) : IsSound (.list items)
  | object {fields : List (String × Json)} (sound : ∀ field ∈ fields, IsSound field.2) :
      IsSound (.object fields)

theorem mem_of_fieldOf? {fields : List (String × Value)} {value : Value}
    (found : fieldOf? name fields = some value) : (name, value) ∈ fields := by
  induction fields with
  | nil => cases found
  | cons field fields hypothesis =>
    obtain ⟨key, held⟩ := field
    by_cases same : key = name
    · rw [fieldOf?, if_pos same, Option.some.injEq] at found
      rw [same, found]
      exact List.mem_cons_self
    · rw [fieldOf?, if_neg same] at found
      exact List.mem_cons_of_mem _ (hypothesis found)

theorem IsSound.member {value field : Json} (sound : value.IsSound)
    (there : value.member? name place = some field) : field.IsSound := by
  cases sound with
  | list soundItems => exact soundItems field (List.mem_of_getElem? there)
  | object soundFields => exact soundFields (name, field) (mem_of_fieldOf? there)
  | null | bool | integer | float | text => cases there

/-- What is read of a sound value keeps to a condition. -/
def Assures (read : Json → Except Fault Value) (keeps : Value → Prop) : Prop :=
  ∀ value result, value.IsSound → read value = .ok result → keeps result

/-- **A number is finite**: a whole one of 64 bits is as a float. -/
theorem number_assures : Assures strict.number (·.isFinite = true) := by
  intro value result sound (reads : readNumber value = .ok result)
  cases sound with
  | integer least most =>
    cases reads
    exact Decimal.isFinite_ofInt least most
  | float finite =>
    cases reads
    exact finite
  | null | bool | text | list | object => cases reads

theorem whole_assures (width : Width) : Assures (strict.whole width) (· ≤ width.greatest) :=
  fun _ _ _ reads => (whole_eq_ok_iff.mp reads).2

section Assures

variable {read : Json → Except Fault Value} {keeps : Value → Prop} {value : Json}
  {opened : Opened Json} {result : Value}

theorem Assures.list (assures : Assures read keeps) :
    Assures (strict.list read) fun results => ∀ result ∈ results, keeps result := by
  intro value results sound reads
  obtain ⟨items, isItems, areResults⟩ := Format.list_eq_ok_iff.mp reads
  rw [items_eq_ok_iff] at isItems
  subst isItems
  cases sound with
  | list soundItems =>
    have soundlyRead := (List.forall₂_and_left _ _).mpr ⟨soundItems, areResults⟩
    exact ((List.forall₂_and_left _ _).mp (soundlyRead.flip.imp fun result item ⟨sound, reads⟩ =>
      ⟨assures item result sound reads, reads⟩)).1

theorem Assures.field (assures : Assures read keeps) (opens : value.OpensAs opened)
    (sound : value.IsSound) (reads : (Form.field name read opened place).1 = .ok result) :
    keeps result := by
  obtain ⟨found, there, readsFound⟩ := opens.field_eq_ok_iff.mp reads
  exact assures found result (sound.member there) readsFound

theorem assures_record {typeName : String} {form : Form Json Fault Value}
    (assures : ∀ (value : Json) opened result, value.OpensAs opened → value.IsSound →
      form.Leads opened 0 (fun found _ => found = result) → keeps result) :
    Assures (strict.record typeName form) keeps := by
  intro value result sound reads
  obtain ⟨opened, opens, isResult, _⟩ := Format.record_eq_ok_iff.mp reads
  exact assures value opened result (opened_eq_ok_iff.mp opens) sound
    (Form.eq_ok_iff_leads.mp isResult)

end Assures

/-! ### What is read back -/

/-- What is written of a value is read as that value and no other, and is read at all only when the
value keeps to a condition. -/
def ReadsBack (write : Value → Json) (read : Json → Except Fault Value) (keeps : Value → Prop) :
    Prop :=
  ∀ value result, read (write value) = .ok result ↔ keeps value ∧ value = result

theorem text_readsBack : ReadsBack .text strict.text fun _ => True := by
  intro value result
  rw [text_eq_ok_iff, Json.text.injEq, true_and]

theorem flag_readsBack : ReadsBack .bool strict.flag fun _ => True := by
  intro value result
  show Except.ok value = .ok result ↔ _
  rw [Except.ok.injEq, true_and]

theorem whole_readsBack (width : Width) :
    ReadsBack .ofNat (strict.whole width) (· ≤ width.greatest) := by
  intro value result
  rw [whole_eq_ok_iff, ofNat, Json.integer.injEq, Int.ofNat_inj]
  constructor
  · rintro ⟨rfl, fits⟩
    exact ⟨fits, rfl⟩
  · rintro ⟨fits, rfl⟩
    exact ⟨rfl, fits⟩

/-- **A float without digits is written as null**, which is no number. -/
theorem number_readsBack : ReadsBack .ofFloat strict.number (·.isFinite = true) := by
  intro value result
  show strict.number (if value.isFinite then .float value else .null) = _ ↔
    value.isFinite = true ∧ _
  by_cases finite : value.isFinite = true
  · rw [if_pos finite, and_iff_right finite]
    exact ⟨fun reads => Except.ok.inj reads, fun same => congrArg Except.ok same⟩
  · rw [if_neg finite]
    exact iff_of_false (fun reads => by cases reads) fun ⟨isFinite, _⟩ => finite isFinite

/-- A choice is read back when its words lead to the values they are of. -/
theorem choice_readsBack {choice : Choice Value} {word : Value → String}
    (found : ∀ value, choice.find? (· = word value) = some value) :
    ReadsBack (.text <| word ·) (strict.choice choice) fun _ => True := by
  intro value result
  show readWord choice (word value) = .ok result ↔ _
  rw [readWord, found, Except.ok.injEq, true_and]

section ReadsBack

variable {write : Value → Json} {read : Json → Except Fault Value} {keeps : Value → Prop}
  {find? : String → Option Json} {value : Value}

theorem ReadsBack.nullable (back : ReadsBack write read keeps)
    (notNull : ∀ value, strict.isNull (write value) = false) :
    ReadsBack (.ofOption write) (strict.nullable read) fun option =>
      ∀ value ∈ option, keeps value := by
  intro option result
  rw [Format.nullable_eq_ok_iff]
  cases option with
  | none =>
    constructor
    · rintro (⟨_, rfl⟩ | ⟨notNull, _⟩)
      · exact ⟨fun _ isNone => (by cases isNone), rfl⟩
      · cases notNull
    · rintro ⟨_, rfl⟩
      exact .inl ⟨rfl, rfl⟩
  | some value =>
    show (strict.isNull (write value) = true ∧ _) ∨ (strict.isNull (write value) = false ∧ _) ↔ _
    rw [notNull value]
    constructor
    · rintro (⟨null, _⟩ | ⟨_, found, reads, rfl⟩)
      · cases null
      · obtain ⟨isKept, rfl⟩ := (back value found).mp reads
        exact ⟨fun other isOther => Option.some.inj isOther ▸ isKept, rfl⟩
    · rintro ⟨isKept, rfl⟩
      exact .inr ⟨rfl, value, (back value value).mpr ⟨isKept value rfl, rfl⟩, rfl⟩

theorem ReadsBack.list (back : ReadsBack write read keeps) :
    ReadsBack (fun values => .list (values.map write)) (strict.list read) fun values =>
      ∀ value ∈ values, keeps value := by
  intro values results
  rw [Format.list_eq_ok_iff]
  simp only [items_eq_ok_iff, Json.list.injEq, exists_eq_left', List.forall₂_map_left_iff]
  constructor
  · intro areRead
    induction areRead with
    | nil => exact ⟨fun value member => (List.not_mem_nil member).elim, rfl⟩
    | cons reads _ hypothesis =>
      obtain ⟨isKept, rfl⟩ := (back _ _).mp reads
      obtain ⟨areKept, rfl⟩ := hypothesis
      exact ⟨List.forall_mem_cons.mpr ⟨isKept, areKept⟩, rfl⟩
  · rintro ⟨areKept, rfl⟩
    exact List.forall₂_same.mpr fun value member =>
      (back value value).mpr ⟨areKept value member, rfl⟩

variable {follows : Value → Nat → Prop}

/-- **A field that was written** is read back, and the form goes on with its value. -/
theorem ReadsBack.leads (back : ReadsBack write read keeps)
    (there : find? name = some (write value)) :
    (Form.field name read).Leads (.named find?) place follows ↔
      keeps value ∧ follows value (place + 1) := by
  rw [Form.leads_field_iff]
  simp only [Form.field_eq_ok_iff, Opened.field?, there, Option.some.injEq, exists_eq_left',
    back value, and_assoc]
  simp only [exists_and_left, exists_eq_left']

theorem ReadsBack.leads_fieldOr (back : ReadsBack write read keeps)
    (there : find? name = some (write value)) {standard : Value} :
    (Form.fieldOr name standard read).Leads (.named find?) place follows ↔
      keeps value ∧ follows value (place + 1) := by
  rw [Form.leads_fieldOr_iff]
  simp only [Form.fieldOr_eq_ok_iff, Opened.field?, there, Option.some.injEq, exists_eq_left',
    back value, and_assoc, reduceCtorEq, false_and, false_or]
  simp only [exists_and_left, exists_eq_left']

theorem ReadsBack.leads_optional {write : Option Value → Json}
    {read : Json → Except Fault (Option Value)} {keeps : Option Value → Prop}
    {option : Option Value} {follows : Option Value → Nat → Prop}
    (back : ReadsBack write read keeps) (there : find? name = some (write option)) :
    (Form.optional name read).Leads (.named find?) place follows ↔
      keeps option ∧ follows option (place + 1) :=
  back.leads_fieldOr there

/-- **A field that was left off** is read as nothing, one that was written is read back. -/
theorem ReadsBack.leads_present {option : Option Value} {follows : Option Value → Nat → Prop}
    (back : ReadsBack write read keeps) (notNull : ∀ value, strict.isNull (write value) = false)
    (there : find? name = option.map write) :
    (Form.optional name (strict.nullable read)).Leads (.named find?) place follows ↔
      (∀ value ∈ option, keeps value) ∧ follows option (place + 1) := by
  cases option with
  | some value => exact (back.nullable notNull).leads_optional there
  | none =>
    rw [Form.leads_optional_iff]
    simp [Form.optional_eq_ok_iff, Opened.field?, Opened.IsNamed, there]

end ReadsBack

/-! ### Fields of an object -/

section Fields

variable {fields other : List (String × Value)}

theorem fieldOf?_eq_some_iff (distinct : (fields.map Prod.fst).Nodup) {value : Value} :
    fieldOf? name fields = some value ↔ (name, value) ∈ fields := by
  refine ⟨mem_of_fieldOf?, fun member => ?_⟩
  induction fields with
  | nil => exact (List.not_mem_nil member).elim
  | cons field fields hypothesis =>
    obtain ⟨key, held⟩ := field
    rw [List.map_cons, List.nodup_cons] at distinct
    rcases List.mem_cons.mp member with same | later
    · rw [Prod.mk.injEq] at same
      rw [fieldOf?, if_pos same.1.symm, same.2]
    · have different : key ≠ name := fun same =>
        distinct.1 (List.mem_map.mpr ⟨(name, value), later, same.symm⟩)
      rw [fieldOf?, if_neg different]
      exact hypothesis distinct.2 later

/-- **The order of distinct fields** makes no difference. -/
theorem fieldOf?_perm (distinct : (fields.map Prod.fst).Nodup) (sameFields : fields.Perm other)
    (name : String) : fieldOf? name fields = fieldOf? name other := by
  refine Option.ext fun value => ?_
  rw [fieldOf?_eq_some_iff distinct,
    fieldOf?_eq_some_iff ((sameFields.map Prod.fst).nodup distinct)]
  exact sameFields.mem_iff

theorem fieldOf?_append (name : String) (before after : List (String × Value)) :
    fieldOf? name (before ++ after) = (fieldOf? name before).or (fieldOf? name after) := by
  induction before with
  | nil => rfl
  | cons field before hypothesis =>
    obtain ⟨key, held⟩ := field
    rw [List.cons_append, fieldOf?, fieldOf?]
    split
    · rfl
    · exact hypothesis

/-- **A field of another name** makes no difference. -/
theorem fieldOf?_insert {key : String} (different : key ≠ name) (value : Value)
    (before after : List (String × Value)) :
    fieldOf? name (before ++ (key, value) :: after) = fieldOf? name (before ++ after) := by
  rw [fieldOf?_append, fieldOf?_append, fieldOf?, if_neg different]

/-- What is found among fields of which some are left off. -/
theorem fieldOf?_present {fields : List (String × Option Json)}
    (distinct : (fields.map Prod.fst).Nodup) (name : String) :
    fieldOf? name (fields.filterMap fun field => field.2.map (field.1, ·)) =
      (fieldOf? name fields).join := by
  induction fields with
  | nil => rfl
  | cons field fields hypothesis =>
    obtain ⟨key, held⟩ := field
    rw [List.map_cons, List.nodup_cons] at distinct
    have sameLater := hypothesis distinct.2
    by_cases same : key = name
    · cases held with
      | none =>
        have leftOff : fieldOf? name fields = none := Option.eq_none_iff_forall_ne_some.mpr
          fun value found => distinct.1
            (List.mem_map.mpr ⟨(name, value), mem_of_fieldOf? found, same.symm⟩)
        rw [leftOff] at sameLater
        rw [fieldOf?, if_pos same]
        exact sameLater
      | some value => simp [fieldOf?, same]
    · cases held with
      | none => simpa [fieldOf?, same] using sameLater
      | some value => simpa [fieldOf?, same] using sameLater

theorem get?_present {fields : List (String × Option Json)}
    (distinct : (fields.map Prod.fst).Nodup) (name : String) :
    (objectOfPresent fields).get? name = (fieldOf? name fields).join :=
  fieldOf?_present distinct name

end Fields

/-! ### Records -/

section Records

variable {typeName : String} {form : Form Json Fault Value} {result : Value}

/-- What a record is read as when its fields have names. -/
theorem record_object_eq (fields : List (String × Json)) :
    strict.record typeName form (.object fields) =
      (form (.named (fieldOf? · fields)) 0).1.mapError fun faults =>
        (strict.faultOfNamed faults).getD (strict.missing typeName) :=
  Format.record_named_eq rfl

theorem record_object_eq_ok_iff {fields : List (String × Json)} :
    strict.record typeName form (.object fields) = .ok result ↔
      form.Leads (.named (fieldOf? · fields)) 0 fun found _ => found = result := by
  rw [record_object_eq, mapError_eq_ok_iff, Form.eq_ok_iff_leads]

theorem record_present_eq_ok_iff {fields : List (String × Option Json)}
    (distinct : (fields.map Prod.fst).Nodup) :
    strict.record typeName form (.objectOfPresent fields) = .ok result ↔
      form.Leads (.named fun name => (fieldOf? name fields).join) 0 fun found _ =>
        found = result := by
  rw [objectOfPresent, record_object_eq_ok_iff, funext (fieldOf?_present distinct)]

/-- **Records that a form reads alike** are read alike, whatever is wrong with them. -/
theorem record_congr {fields other : List (String × Json)}
    (agrees : form.Agrees (fieldOf? · fields) (fieldOf? · other)) :
    strict.record typeName form (.object fields) =
      strict.record typeName form (.object other) := by
  rw [record_object_eq, record_object_eq, agrees 0]

/-- Arrays of items that are read alike are read alike. -/
theorem list_congr {read : Json → Except Fault Value} {items others : List Json}
    (alike : List.Forall₂ (fun item other => read item = read other) items others) :
    strict.list read (.list items) = strict.list read (.list others) := by
  have readAlike : ∀ place, strict.readItems read place items =
      strict.readItems read place others := by
    induction alike with
    | nil => exact fun _ => rfl
    | cons same _ hypothesis =>
      intro place
      rw [Format.readItems, Format.readItems, same, hypothesis]
  exact readAlike 0

theorem optional_eq_none {find? : String → Option Json}
    {read : Json → Except Fault (Option Value)} {option : Option Value}
    (leftOff : find? name = none)
    (reads : (Form.optional name read (.named find?) place).1 = .ok option) : option = none := by
  rcases Form.optional_eq_ok_iff.mp reads with ⟨_, _, isNone⟩ | ⟨found, there, _⟩
  · exact isNone.symm
  · exact absurd (leftOff.symm.trans there) (by simp)

end Records

/-! ### Codecs -/

/-- How the values of a type are written as JSON and read back: the names of its fields, and which
of them are whole numbers and floats. -/
structure Codec (Value : Type) where
  toJson : Value → Json
  ofJson : Json → Except Fault Value
  names : List String
  /-- The whole numbers with their widths. -/
  wholes : List (Width × (Value → Nat)) := []
  /-- The floats under the names of their fields. -/
  floats : List (String × (Value → Float)) := []
  /-- The whole numbers of inner values fit their widths. -/
  innerFits : Value → Prop := fun _ => True
  /-- The floats of inner values are finite. -/
  innerIsFinite : Value → Prop := fun _ => True

namespace Codec

variable (codec : Codec Value)

/-- Every whole number of the value fits its width. -/
def Fits (value : Value) : Prop :=
  (∀ whole ∈ codec.wholes, whole.2 value ≤ whole.1.greatest) ∧ codec.innerFits value

/-- Every float of the value is finite. -/
def IsFinite (value : Value) : Prop :=
  (∀ float ∈ codec.floats, (float.2 value).isFinite = true) ∧ codec.innerIsFinite value

/-- **What may be relied on** when values are written and read back. -/
structure IsFaithful : Prop where
  /-- What is written of a value of finite floats is read as that value. -/
  returns : ∀ value, codec.Fits value → codec.IsFinite value →
    codec.ofJson (codec.toJson value) = .ok value
  /-- A float that is not finite is written as null, -/
  writesNull : ∀ value, ∀ float ∈ codec.floats, (float.2 value).isFinite = false →
    (codec.toJson value).get? float.1 = some .null
  /-- and what is written of its value cannot be read. -/
  refuses : ∀ value, ¬ codec.IsFinite value →
    ∃ fault, codec.ofJson (codec.toJson value) = .error fault
  /-- The fields of an object may stand in any order. -/
  reorders : ∀ fields other, (fields.map Prod.fst).Nodup → fields.Perm other →
    codec.ofJson (.object fields) = codec.ofJson (.object other)
  /-- A field of an unknown name may stand anywhere. -/
  passesOver : ∀ key, key ∉ codec.names → ∀ value before after,
    codec.ofJson (.object (before ++ (key, value) :: after)) =
      codec.ofJson (.object (before ++ after))
  /-- What was read can be written and read again. -/
  settles : ∀ json value, json.IsSound → codec.ofJson json = .ok value →
    codec.ofJson (codec.toJson value) = .ok value

/-- An optional text is left off where there is none, and read as none where it is left off. -/
structure LeavesOff (name : String) (option : Value → Option String) : Prop where
  written : ∀ value, option value = none → (codec.toJson value).get? name = none
  read : ∀ fields value, fieldOf? name fields = none →
    codec.ofJson (.object fields) = .ok value → option value = none

variable {codec}

/-- **Laws of the fields make a codec faithful.** -/
theorem isFaithful (typeName : String) (form : Form Json Fault Value)
    (isRecord : ∀ value, codec.ofJson value = strict.record typeName form value)
    (back : ReadsBack codec.toJson codec.ofJson fun value =>
      codec.Fits value ∧ codec.IsFinite value)
    (assures : Assures codec.ofJson fun value => codec.Fits value ∧ codec.IsFinite value)
    (agrees : ∀ find? other? : String → Option Json,
      (∀ name ∈ codec.names, find? name = other? name) → form.Agrees find? other?)
    (writes : ∀ float ∈ codec.floats, ∀ value,
      (codec.toJson value).get? float.1 = some (.ofFloat (float.2 value))) :
    codec.IsFaithful where
  returns value fits finite := (back value value).mpr ⟨⟨fits, finite⟩, rfl⟩
  writesNull value float isFloat notFinite := by
    rw [writes float isFloat, ofFloat, notFinite]
    rfl
  refuses value notFinite := by
    cases isRead : codec.ofJson (codec.toJson value) with
    | error fault => exact ⟨fault, rfl⟩
    | ok result => exact absurd ((back value result).mp isRead).1.2 notFinite
  reorders fields other distinct sameFields := by
    rw [isRecord, isRecord]
    exact record_congr (agrees _ _ fun name _ => fieldOf?_perm distinct sameFields name)
  passesOver key unknown value before after := by
    rw [isRecord, isRecord]
    refine record_congr (agrees _ _ fun name known => fieldOf?_insert ?_ value before after)
    rintro rfl
    exact unknown known
  settles json value sound reads :=
    (back value value).mpr ⟨assures json value sound reads, rfl⟩

/-- **A codec leaves a text off** when its form reads the text as an optional field. -/
theorem leavesOff (typeName : String) (form : Form Json Fault Value) (place : Nat)
    {option : Value → Option String}
    (isRecord : ∀ value, codec.ofJson value = strict.record typeName form value)
    (writes : ∀ value, (codec.toJson value).get? name = (option value).map .text)
    (reads : ∀ find? value, form.Leads (.named find?) 0 (fun found _ => found = value) →
      (Form.optional name (strict.nullable strict.text) (.named find?) place).1 =
        .ok (option value)) : codec.LeavesOff name option where
  written value isNone := by rw [writes, isNone, Option.map_none]
  read fields value leftOff isRead := by
    rw [isRecord, record_object_eq_ok_iff] at isRead
    exact optional_eq_none leftOff (reads _ value isRead)

end Codec

end PromptRelay.Json
