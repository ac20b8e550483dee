/-
**Typed values out of documents.**

A format says how texts, numbers, lists, choices and records are found in its values and what its
faults are. A reading of a typed value is written once and works for every format.

* `Format`: what a document format offers;
* `Form`: the fields of a record, read one after the other, with all faults kept;
* `Format.record`: a record out of its form. Where fields have names, a bad value is reported before
  a missing field, the bad one with the least name first and the missing one declared first; where
  they have places, the first place with a fault is reported.
-/

namespace PromptRelay

/-- The whole numbers that a field holds. -/
inductive Width where
  | word32
  | word64
  | size
  deriving DecidableEq, Repr

namespace Width

/-- The greatest number of a width. -/
def greatest : Width → Nat
  | .word32 => Nat.pow 2 32 - 1
  | .word64 | .size => Nat.pow 2 64 - 1

/-- The word for a width. -/
def word : Width → String
  | .word32 => "u32"
  | .word64 => "u64"
  | .size => "usize"

end Width

/-- The values of a type that are chosen by a word, under the type's name. -/
structure Choice (Value : Type) where
  typeName : String
  values : List (String × Value)

/-- The value for a word that the test accepts. -/
def Choice.find? {Value : Type} (choice : Choice Value) (accepts : String → Bool) :
    Option Value :=
  (choice.values.find? fun entry => accepts entry.1).map Prod.snd

/-- The words of a choice. -/
def Choice.words {Value : Type} (choice : Choice Value) : List String :=
  choice.values.map Prod.fst

/-- A record that was opened: its fields have names, or places. -/
inductive Opened (Value : Type) where
  | named (find? : String → Option Value)
  | placed (values : List Value)

/-- The field of a name and a place. -/
def Opened.field? {Value : Type} (opened : Opened Value) (name : String) (place : Nat) :
    Option Value :=
  match opened with
  | .named find? => find? name
  | .placed values => values[place]?

/-- What a document format offers for typed values to be read from it. -/
structure Format (Value Fault : Type) where
  text : Value → Except Fault String
  number : Value → Except Fault Float
  flag : Value → Except Fault Bool
  whole : Width → Value → Except Fault Nat
  items : Value → Except Fault (List Value)
  choice : {Chosen : Type} → Choice Chosen → Value → Except Fault Chosen
  /-- Opens the record of a type's name. -/
  opened : String → Value → Except Fault (Opened Value)
  isNull : Value → Bool
  missing : (field : String) → Fault
  tooShort : (found : Nat) → (typeName : String) → (expected : Nat) → Fault
  /-- The fault of values beyond the last field, where a format minds them. -/
  tooLong? : (found : Nat) → Option Fault
  /-- The same fault seen from the record that has the field. -/
  inField : String → Fault → Fault
  /-- The same fault seen from the list that has the item. -/
  inItem : Nat → Fault → Fault

/-- What is wrong with one field of a record. -/
inductive FieldFault (Fault : Type) where
  | wrong (name : String) (place : Nat) (fault : Fault)
  | absent (name : String) (place : Nat)

/-- The fields of a record of which `place` were read before. -/
def Form (Value Fault Result : Type) : Type :=
  Opened Value → (place : Nat) → Except (List (FieldFault Fault)) Result × Nat

namespace Form

variable {Value Fault First Result : Type}

/-- No field. -/
def done (result : Result) : Form Value Fault Result :=
  fun _ place => (.ok result, place)

/-- One form after the other; the faults of both are kept. -/
def andThen (function : Form Value Fault (First → Result)) (argument : Form Value Fault First) :
    Form Value Fault Result :=
  fun opened place =>
    let (function, place) := function opened place
    let (argument, place) := argument opened place
    match function, argument with
    | .ok function, .ok argument => (.ok (function argument), place)
    | .ok _, .error faults => (.error faults, place)
    | .error faults, .ok _ => (.error faults, place)
    | .error faults, .error more => (.error (faults ++ more), place)

instance : Pure (Form Value Fault) where
  pure := done

instance : Functor (Form Value Fault) where
  map function form := andThen (done function) form

instance : Seq (Form Value Fault) where
  seq function argument := andThen function (argument ())

/-- A field that has to be there. -/
def field (name : String) (read : Value → Except Fault Result) : Form Value Fault Result :=
  fun opened place =>
    match opened.field? name place with
    | none => (.error [.absent name place], place + 1)
    | some value =>
      match read value with
      | .ok result => (.ok result, place + 1)
      | .error fault => (.error [.wrong name place fault], place + 1)

/-- A field that has a value of its own where it is left off. -/
def fieldOr (name : String) (standard : Result) (read : Value → Except Fault Result) :
    Form Value Fault Result :=
  fun opened place =>
    match opened.field? name place with
    | none => (.ok standard, place + 1)
    | some _ => field name read opened place

/-- A field that may be left off where fields have names. -/
def optional (name : String) (read : Value → Except Fault (Option Result)) :
    Form Value Fault (Option Result) :=
  fun opened place =>
    match opened with
    | .named _ => fieldOr name none read opened place
    | .placed _ => field name read opened place

end Form

namespace Format

variable {Value Fault Result : Type} (format : Format Value Fault)

/-- A value that may be null. -/
def nullable (read : Value → Except Fault Result) (value : Value) :
    Except Fault (Option Result) :=
  if format.isNull value then .ok none else (read value).map some

/-- Reads items from a place on. -/
def readItems (read : Value → Except Fault Result) :
    Nat → List Value → Except Fault (List Result)
  | _, [] => .ok []
  | place, value :: values => do
    let first ← (read value).mapError (format.inItem place)
    let rest ← readItems read (place + 1) values
    return first :: rest

/-- A list of values read alike. -/
def list (read : Value → Except Fault Result) (value : Value) : Except Fault (List Result) := do
  format.readItems read 0 (← format.items value)

/-- The bad value with the least name. -/
def leastWrong? : List (FieldFault Fault) → Option (String × Fault)
  | [] => none
  | .absent _ _ :: faults => leastWrong? faults
  | .wrong name _ fault :: faults =>
    match leastWrong? faults with
    | some (other, least) => if other < name then some (other, least) else some (name, fault)
    | none => some (name, fault)

/-- The fault that is reported of a record whose fields have names. -/
def faultOfNamed (faults : List (FieldFault Fault)) : Option Fault :=
  match leastWrong? faults with
  | some (name, fault) => some (format.inField name fault)
  | none =>
    match faults with
    | .absent name _ :: _ => some (format.missing name)
    | _ => none

/-- The fault that is reported of a record whose fields have places. -/
def faultOfPlaced (typeName : String) (count : Nat) (faults : List (FieldFault Fault)) :
    Option Fault :=
  match faults with
  | .wrong _ place fault :: _ => some (format.inItem place fault)
  | .absent _ place :: _ => some (format.tooShort place typeName count)
  | [] => none

/-- The fault of values beyond the last of a record's fields. -/
def surplus? (count : Nat) : Opened Value → Option Fault
  | .named _ => none
  | .placed values => if count < values.length then format.tooLong? values.length else none

/-- The fault that is reported of a record. -/
def faultOf (typeName : String) (count : Nat) (faults : List (FieldFault Fault))
    (opened : Opened Value) : Fault :=
  let found := match opened with
    | .named _ => format.faultOfNamed faults
    | .placed _ => format.faultOfPlaced typeName count faults
  found.getD (format.missing typeName)

/-- A record out of its form. -/
def record (typeName : String) (form : Form Value Fault Result) (value : Value) :
    Except Fault Result := do
  let opened ← format.opened typeName value
  let (result, count) := form opened 0
  match result with
  | .error faults => .error (format.faultOf typeName count faults opened)
  | .ok result =>
    match format.surplus? count opened with
    | some fault => .error fault
    | none => .ok result

end Format

end PromptRelay
