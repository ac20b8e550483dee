/-
**Command lines.**

The first argument names the command, the others are its options. An option has a long name behind
two hyphens and maybe a short one behind one; its value follows an equals sign or is the next
argument, and right behind a short name it needs no sign. Unless it may be repeated an option comes
once. Two hyphens end the options, and nothing may follow. The first argument that is wrong, or that
asks for help, decides.

* `Invocation.ofArguments`: what a command line asks for, or what is wrong with it.
-/

import PromptRelay.Command.Basic
import PromptRelay.Chain.Json
import PromptRelay.Provider.Json
import PromptRelay.Text.Pieces

namespace PromptRelay

/-- What a command line asks for. -/
inductive Invocation where
  | command (command : Command)
  | help
  | version
  deriving DecidableEq

/-- What is wrong with a command line. -/
inductive UsageFault where
  | noCommand
  | unexpected (argument : String)
  | noValue (option : String)
  | badValue (option value : String)
  | repeated (option : String)
  /-- Two options that exclude each other. -/
  | conflicting (first second : String)
  deriving DecidableEq, Repr

/-- The wording of a fault. -/
def UsageFault.message : UsageFault → String
  | .noCommand => "a command is required"
  | .unexpected argument => s!"unexpected argument '{argument}'"
  | .noValue option => s!"a value is required for '--{option}'"
  | .badValue option value => s!"invalid value '{value}' for '--{option}'"
  | .repeated option => s!"'--{option}' cannot be used multiple times"
  | .conflicting first second => s!"'--{first}' cannot be used with '--{second}'"

/-- What an option does. -/
inductive OptionEffect (Options : Type) where
  | flag (set : Options → Options)
  /-- Sets a value, none for one that the option does not take. -/
  | value (set? : String → Options → Option Options)

/-- An option of a command. -/
structure OptionRule (Options : Type) where
  name : String
  short : Option Char := none
  repeatable : Bool := false
  effect : OptionEffect Options

/-- Options read so far, and the names of those that were given. -/
structure Gathered (Options : Type) where
  options : Options
  given : List String := []

/-- Where a reading of arguments ends: with help, or with options. -/
inductive Reading (Options : Type) where
  | help
  | options (gathered : Gathered Options)

section Options

variable {Options : Type}

/-- Notes that an option is given. -/
def Gathered.note (gathered : Gathered Options) (rule : OptionRule Options) :
    Except UsageFault (Gathered Options) :=
  if !rule.repeatable && rule.name ∈ gathered.given then .error (.repeated rule.name)
  else .ok { gathered with given := rule.name :: gathered.given }

/-- Gives a value to an option. -/
def Gathered.withValue (gathered : Gathered Options) (rule : OptionRule Options)
    (set? : String → Options → Option Options) (value : String) :
    Except UsageFault (Gathered Options) := do
  let noted ← gathered.note rule
  match set? value noted.options with
  | some options => return { noted with options }
  | none => .error (.badValue rule.name value)

/-- An argument that can be no value of its own: a hyphen and more. -/
def isOption (argument : String) : Bool :=
  match argument.toList with
  | '-' :: _ :: _ => true
  | _ => false

/-- An argument behind its two hyphens: the name and what follows the equals sign. -/
def splitLong (body : List Char) : String × Option String :=
  let (name, rest) := body.span (· ≠ '=')
  match rest with
  | _ :: value => (String.ofList name, some (String.ofList value))
  | [] => (String.ofList name, none)

/-- An argument as an option: the rule it names and the value in the same argument. -/
inductive NamedOption (Options : Type) where
  | help
  | rule (rule : OptionRule Options) (attached : Option String)
  | unknown

/-- The option that an argument names. -/
def nameOption (rules : List (OptionRule Options)) (argument : String) : NamedOption Options :=
  match argument.toList with
  | '-' :: '-' :: body =>
    let (name, attached) := splitLong body
    if name = "help" && attached.isNone then .help
    else
      match rules.find? fun rule => rule.name = name with
      | some rule => .rule rule attached
      | none => .unknown
  | '-' :: 'h' :: _ => .help
  | '-' :: short :: body =>
    match rules.find? fun rule => rule.short = some short with
    | some rule =>
      .rule rule <|
        match body with
        | [] => none
        | '=' :: value => some (String.ofList value)
        | value => some (String.ofList value)
    | none => .unknown
  | _ => .unknown

/-- Reads arguments from left to right. -/
def readOptions (rules : List (OptionRule Options)) (gathered : Gathered Options) :
    List String → Except UsageFault (Reading Options)
  | [] => .ok (.options gathered)
  | "--" :: rest =>
    match rest with
    | [] => .ok (.options gathered)
    | argument :: _ => .error (.unexpected argument)
  | argument :: rest =>
    match nameOption rules argument with
    | .help => .ok .help
    | .unknown => .error (.unexpected argument)
    | .rule rule attached =>
      match rule.effect, attached, rest with
      | .flag set, none, rest => do
        let noted ← gathered.note rule
        readOptions rules { noted with options := set noted.options } rest
      | .flag _, some _, _ => .error (.unexpected argument)
      | .value set?, some value, rest => do
        readOptions rules (← gathered.withValue rule set? value) rest
      | .value _, none, [] => .error (.noValue rule.name)
      | .value set?, none, value :: rest =>
        if isOption value then .error (.noValue rule.name)
        else do readOptions rules (← gathered.withValue rule set? value) rest

end Options

/-- The natural number of 64 bits that a text spells. -/
def readWord64? (text : String) : Option Nat :=
  let digits := match text.toList with
    | '+' :: rest => rest
    | all => all
  let size := Decimal.valueOfDigits digits
  if digits.isEmpty || !digits.all Char.isDigit || Width.word64.greatest < size then none
  else some size

/-- The options of a run. -/
def RunOptions.rules : List (OptionRule RunOptions) := [
  { name := "text", short := some 't'
    effect := .value fun value options => some { options with text := some value } },
  { name := "pattern", short := some 'p'
    effect := .value fun value options => some { options with patternName := some value } },
  { name := "provider", repeatable := true
    effect := .value fun value options =>
      some { options with providers := options.providers ++ [value] } },
  { name := "mode"
    effect := .value fun value options =>
      (ExecutionMode.choice.find? (· = value)).map fun mode =>
        { options with mode := some mode } },
  { name := "budget"
    effect := .value fun value options =>
      (Decimal.readFloat? value).map fun budget => { options with budget := some budget } },
  { name := "per-hop-timeout-ms"
    effect := .value fun value options =>
      (readWord64? value).map fun limit => { options with hopTimeout := some limit } },
  { name := "chain-timeout-ms"
    effect := .value fun value options =>
      (readWord64? value).map fun limit => { options with chainTimeout := some limit } },
  { name := "events", effect := .flag fun options => { options with events := true } },
  { name := "compact", effect := .flag fun options => { options with compact := true } }]

/-- The options of a listing of providers. -/
def ProviderListing.rules : List (OptionRule ProviderListing) := [
  { name := "kind"
    effect := .value fun value listing =>
      (BackendKind.choice.find? (· = value)).map fun kind => { listing with kind := some kind } },
  { name := "json", effect := .flag fun listing => { listing with json := true } }]

/-- The options of a listing of patterns. -/
def PatternListing.rules : List (OptionRule PatternListing) := [
  { name := "json", effect := .flag fun listing => { listing with json := true } }]

namespace Invocation

/-- The invocation of a command with its options. -/
def ofOptions {Options : Type} (rules : List (OptionRule Options)) (usual : Options)
    (command : Options → Command) (arguments : List String) : Except UsageFault Invocation := do
  match ← readOptions rules ⟨usual, []⟩ arguments with
  | .help => return .help
  | .options gathered =>
    if "pattern" ∈ gathered.given && "provider" ∈ gathered.given then
      .error (.conflicting "pattern" "provider")
    else return .command (command gathered.options)

/-- The names of commands that help can be asked for. -/
def commandNames : List String :=
  ["run", "providers", "patterns", "help"]

/-- What a request for help asks for. -/
def ofHelp : List String → Except UsageFault Invocation
  | [] => .ok .help
  | [name] => if name ∈ commandNames then .ok .help else .error (.unexpected name)
  | name :: argument :: _ =>
    .error (.unexpected (if name ∈ commandNames then argument else name))

/-- What a command line asks for. -/
def ofArguments : List String → Except UsageFault Invocation
  | [] => .error .noCommand
  | "run" :: rest => ofOptions RunOptions.rules {} .run rest
  | "providers" :: rest => ofOptions ProviderListing.rules {} .providers rest
  | "patterns" :: rest => ofOptions PatternListing.rules {} .patterns rest
  | "help" :: rest => ofHelp rest
  | ["--"] => .error .noCommand
  | argument :: _ =>
    if argument = "--version" || argument.startsWith "-V" then .ok .version
    else if argument = "--help" || argument.startsWith "-h" then .ok .help
    else .error (.unexpected argument)

end Invocation

end PromptRelay
