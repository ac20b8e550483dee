/-
**The last word on a kind counts.**

A store is set up by calls, of which each says of one kind or of several that it is keyless or to
which variables it is mapped. What is keyless and what is mapped is kept apart, and yet no kind is
ever both: a store holds of each kind what was last said of it. So a credential is decided by that
setting and the environment; calls on other kinds and earlier ones on the same kind have left nothing
behind.

* `EnvironmentStore.Call`, `EnvironmentStore.ofCalls`: calls, and the store that they set up;
* `EnvironmentStore.lastSetting?`: what was last said of a kind;
* `EnvironmentStore.Holds`: what a store holds of a kind;
* `EnvironmentStore.Holds.put`, `EnvironmentStore.holds_lastSetting?`: what one setting does to it,
  and what all calls do;
* `EnvironmentStore.Setting.Yields`: the credential that a setting gives in an environment;
* `EnvironmentStore.last_setting_decides`: all of it.
-/

import Mathlib.Data.List.Induction
import PromptRelay.Credential.Environment
import PromptRelay.Proofs.Json.Codecs

namespace PromptRelay

namespace EnvironmentStore

/-! ### Calls and settings -/

/-- What may be said of a kind. -/
inductive Setting where
  | keyless
  | mapped (mapping : EnvironmentMapping)

/-- A call that sets up a store. -/
inductive Call where
  | map (kind : BackendKind) (mapping : EnvironmentMapping)
  | makeKeyless (kind : BackendKind)
  | withStandards

/-- The store after a call. -/
def perform (store : EnvironmentStore) : Call → EnvironmentStore
  | .map kind mapping => store.map kind mapping
  | .makeKeyless kind => store.makeKeyless kind
  | .withStandards => store.withStandards

/-- The store that calls set up. -/
def ofCalls (calls : List Call) : EnvironmentStore :=
  calls.foldl perform {}

/-- What a call says, in the order in which it says it. -/
def Call.settings : Call → List (BackendKind × Setting)
  | .map kind mapping => [(kind, .mapped mapping)]
  | .makeKeyless kind => [(kind, .keyless)]
  | .withStandards => [
      (.localServer, .keyless),
      (.openAi, .mapped ⟨"OPENAI_API_KEY", [("organization", "OPENAI_ORG_ID")]⟩),
      (.anthropic, .mapped ⟨"ANTHROPIC_API_KEY", []⟩)]

/-- The last of some settings that is one of a kind. -/
def lastOf? (settings : List (BackendKind × Setting)) (kind : BackendKind) : Option Setting :=
  (settings.reverse.find? fun setting => setting.1 = kind).map Prod.snd

/-- What calls have last said of a kind. -/
def lastSetting? (calls : List Call) (kind : BackendKind) : Option Setting :=
  lastOf? (calls.flatMap Call.settings) kind

/-- The store after a setting. -/
def put (store : EnvironmentStore) : BackendKind × Setting → EnvironmentStore
  | (kind, .keyless) => store.makeKeyless kind
  | (kind, .mapped mapping) => store.map kind mapping

theorem perform_eq (store : EnvironmentStore) (call : Call) :
    store.perform call = call.settings.foldl put store := by
  cases call <;> rfl

theorem ofCalls_eq (calls : List Call) :
    ofCalls calls = (calls.flatMap Call.settings).foldl put {} := by
  rw [List.foldl_flatMap, ofCalls]
  simp only [← perform_eq]

theorem lastOf?_concat (settings : List (BackendKind × Setting)) (kind other : BackendKind)
    (setting : Setting) :
    lastOf? (settings ++ [(other, setting)]) kind =
      if other = kind then some setting else lastOf? settings kind := by
  unfold lastOf?
  rw [List.reverse_concat, List.find?_cons]
  by_cases same : other = kind <;> simp [same]

/-! ### What a store holds of a kind -/

variable {store : EnvironmentStore} {environment : Environment} {kind other : BackendKind}
  {mapping : EnvironmentMapping} {held : Option Setting}

/-- The mapping that a setting gives. -/
def Setting.mapping? : Setting → Option EnvironmentMapping
  | .keyless => none
  | .mapped mapping => some mapping

/-- A store holds of a kind one setting or none: this says whether it is keyless and whether it is
mapped. -/
structure Holds (store : EnvironmentStore) (kind : BackendKind) (held : Option Setting) : Prop where
  keyless_iff : kind ∈ store.keyless ↔ held = some .keyless
  mapping?_eq : store.mapping? kind = held.bind Setting.mapping?

theorem find?_withoutMapping (store : EnvironmentStore) (kind other : BackendKind) :
    ((store.withoutMapping other).find? fun entry => entry.1 = kind).map Prod.snd =
      if other = kind then none else store.mapping? kind := by
  unfold withoutMapping mapping?
  by_cases same : other = kind
  · rw [if_pos same, Option.map_eq_none_iff, List.find?_eq_none]
    intro entry member
    rw [List.mem_filter, decide_eq_true_eq, same] at member
    rw [decide_eq_true_eq]
    exact member.2
  · rw [if_neg same, List.find?_filter]
    congr 2
    funext entry
    by_cases here : entry.1 = kind
    · simp [here, Ne.symm same]
    · simp [here]

theorem mapping?_map :
    (store.map other mapping).mapping? kind =
      if other = kind then some mapping else store.mapping? kind := by
  by_cases same : other = kind
  · simp [map, mapping?, same]
  · have elsewhere := store.find?_withoutMapping kind other
    rw [if_neg same] at elsewhere ⊢
    unfold map mapping?
    rwa [List.find?_cons_of_neg (by simpa using same)]

theorem mapping?_makeKeyless :
    (store.makeKeyless other).mapping? kind =
      if other = kind then none else store.mapping? kind :=
  store.find?_withoutMapping kind other

theorem mem_keyless_map :
    kind ∈ (store.map other mapping).keyless ↔ kind ∈ store.keyless ∧ kind ≠ other := by
  simp [map]

theorem mem_keyless_makeKeyless :
    kind ∈ (store.makeKeyless other).keyless ↔ kind = other ∨ kind ∈ store.keyless := by
  by_cases same : kind = other <;> simp [makeKeyless, same]

/-- **One setting** replaces what a store holds of its kind, and of no other. -/
theorem Holds.put (holds : store.Holds kind held) (other : BackendKind) (setting : Setting) :
    (store.put (other, setting)).Holds kind (if other = kind then some setting else held) := by
  by_cases same : other = kind
  · subst same
    rw [if_pos rfl]
    cases setting with
    | keyless =>
      exact ⟨iff_of_true (mem_keyless_makeKeyless.mpr (.inl rfl)) rfl,
        mapping?_makeKeyless.trans (if_pos rfl)⟩
    | mapped mapping =>
      exact ⟨iff_of_false (fun member => (mem_keyless_map.mp member).2 rfl) (fun same => by cases same),
        mapping?_map.trans (if_pos rfl)⟩
  · rw [if_neg same]
    cases setting with
    | keyless =>
      refine ⟨Iff.trans ?_ holds.keyless_iff,
        mapping?_makeKeyless.trans ((if_neg same).trans holds.mapping?_eq)⟩
      exact mem_keyless_makeKeyless.trans (or_iff_right (Ne.symm same))
    | mapped mapping =>
      refine ⟨Iff.trans ?_ holds.keyless_iff,
        mapping?_map.trans ((if_neg same).trans holds.mapping?_eq)⟩
      exact mem_keyless_map.trans (and_iff_left (Ne.symm same))

/-- **All settings together** leave of each kind the last one. -/
theorem holds_lastOf? (settings : List (BackendKind × Setting)) (kind : BackendKind) :
    (settings.foldl put {}).Holds kind (lastOf? settings kind) := by
  induction settings using List.reverseRecOn with
  | nil => exact ⟨by simp [lastOf?], rfl⟩
  | append_singleton settings setting hypothesis =>
    rw [List.foldl_append, lastOf?_concat]
    exact hypothesis.put setting.1 setting.2

theorem holds_lastSetting? (calls : List Call) (kind : BackendKind) :
    (ofCalls calls).Holds kind (lastSetting? calls kind) := by
  rw [ofCalls_eq]
  exact holds_lastOf? _ kind

/-- **No kind is both**: a kind that is mapped is not keyless. -/
theorem Holds.not_mapped (holds : store.Holds kind held) (isKeyless : kind ∈ store.keyless)
    (mapping : EnvironmentMapping) : (kind, mapping) ∉ store.mappings := by
  intro member
  have unmapped : store.mapping? kind = none := by
    rw [holds.mapping?_eq, holds.keyless_iff.mp isKeyless]
    rfl
  rw [mapping?, Option.map_eq_none_iff, List.find?_eq_none] at unmapped
  exact unmapped _ member (by simp)

/-! ### What a setting gives -/

/-- The credential that a setting gives in an environment, or why there is none. -/
inductive Setting.Yields (environment : Environment) (kind : BackendKind) :
    Option Setting → Except CredentialFault Credential → Prop where
  | unmapped : Yields environment kind none (.error (.unmapped kind))
  | keyless :
      Yields environment kind (some .keyless) (.ok { kind, key := "", parameters := [] })
  /-- The variable of the key is not set, or to blank characters alone. -/
  | noKey {mapping : EnvironmentMapping}
      (blank : ∀ key, environment.get? mapping.keyVariable = some key →
        ∀ character ∈ key.toList, Text.isBlankChar character = true) :
      Yields environment kind (some (.mapped mapping))
        (.error (.unset mapping.keyVariable kind))
  /-- The key is the value as it is. The parameters are those whose variables are set; where a
  mapping has one variable for a name, the value of that variable is found under it. -/
  | key {mapping : EnvironmentMapping} {key : String} {parameters : List (String × String)}
      (isSet : environment.get? mapping.keyVariable = some key)
      (notBlank : ∃ character ∈ key.toList, Text.isBlankChar character = false)
      (isGiven : ∀ name value, (name, value) ∈ parameters ↔ ∃ variableName,
        (name, variableName) ∈ mapping.parameterVariables ∧
          environment.get? variableName = some value)
      (isFound : (mapping.parameterVariables.map Prod.fst).Nodup → ∀ name,
        Credential.parameter? { kind, key, parameters } name =
          (Json.fieldOf? name mapping.parameterVariables).bind environment.get?) :
      Yields environment kind (some (.mapped mapping)) (.ok { kind, key, parameters })

theorem mem_parametersIn_iff {name value : String} :
    (name, value) ∈ parametersIn environment mapping ↔ ∃ variableName,
      (name, variableName) ∈ mapping.parameterVariables ∧
        environment.get? variableName = some value := by
  simp [parametersIn, and_left_comm]

theorem names_parametersIn_sublist (environment : Environment) (mapping : EnvironmentMapping) :
    ((parametersIn environment mapping).map Prod.fst).Sublist
      (mapping.parameterVariables.map Prod.fst) := by
  unfold parametersIn
  induction mapping.parameterVariables with
  | nil => exact .slnil
  | cons entry entries hypothesis =>
    obtain ⟨name, variableName⟩ := entry
    rw [List.filterMap_cons]
    dsimp only
    cases environment.get? variableName with
    | none => exact hypothesis.cons name
    | some value => exact hypothesis.cons_cons name

/-- **A parameter is found** under its name by the one variable that the name has. -/
theorem fieldOf?_parametersIn (distinct : (mapping.parameterVariables.map Prod.fst).Nodup)
    (name : String) :
    Json.fieldOf? name (parametersIn environment mapping) =
      (Json.fieldOf? name mapping.parameterVariables).bind environment.get? := by
  have fewer := names_parametersIn_sublist environment mapping
  refine Option.ext fun value => ?_
  rw [Json.fieldOf?_eq_some_iff (distinct.sublist fewer), mem_parametersIn_iff,
    Option.bind_eq_some_iff]
  simp only [Json.fieldOf?_eq_some_iff distinct]

/-- **A credential is what its setting gives**, whatever else the store holds. -/
theorem Holds.yields (holds : store.Holds kind held) (environment : Environment) :
    Setting.Yields environment kind held (store.credential environment kind) := by
  unfold credential
  rw [holds.mapping?_eq]
  rcases held with _ | _ | mapping
  · rw [if_neg (mt holds.keyless_iff.mp (by simp))]
    exact .unmapped
  · rw [if_pos (holds.keyless_iff.mpr rfl)]
    exact .keyless
  · rw [if_neg (mt holds.keyless_iff.mp (by simp))]
    dsimp only [Option.bind_some, Setting.mapping?]
    split
    · rename_i noKey
      refine .noKey fun key isSet => ?_
      rw [isSet, Option.filter_some, ite_eq_right_iff] at noKey
      have blank : Text.isBlank key = true := by
        by_contra notBlank
        rw [Bool.not_eq_true] at notBlank
        rw [notBlank] at noKey
        cases noKey rfl
      exact List.all_eq_true.mp blank
    · rename_i key found
      obtain ⟨isSet, notBlank⟩ := Option.filter_eq_some_iff.mp found
      rw [Bool.not_eq_true'] at notBlank
      exact .key isSet (Text.isBlank_eq_false_iff.mp notBlank) (fun _ _ => mem_parametersIn_iff)
        fieldOf?_parametersIn

/-- Only what is held of a kind decides its credential. -/
theorem Holds.credential_eq {others : EnvironmentStore} (holds : store.Holds kind held)
    (othersHold : others.Holds kind held) (environment : Environment) :
    others.credential environment kind = store.credential environment kind := by
  have sameKeyless : kind ∈ others.keyless ↔ kind ∈ store.keyless :=
    othersHold.keyless_iff.trans holds.keyless_iff.symm
  have sameMapping : others.mapping? kind = store.mapping? kind :=
    othersHold.mapping?_eq.trans holds.mapping?_eq.symm
  unfold credential
  simp only [sameKeyless, sameMapping]

/-! ### All of it -/

/-- **The last setting of a kind decides.** However a store was set up, no kind is keyless and mapped
at once, and the credential of a kind is what the last setting of this kind gives in the environment.
Calls that last say the same of a kind lead to the same credential of it, whatever else they say. -/
theorem last_setting_decides (calls : List Call) (kind : BackendKind) :
    (¬ (kind ∈ (ofCalls calls).keyless ∧ ∃ mapping, (kind, mapping) ∈ (ofCalls calls).mappings)) ∧
    (∀ environment, Setting.Yields environment kind (lastSetting? calls kind)
      ((ofCalls calls).credential environment kind)) ∧
    ∀ others, lastSetting? others kind = lastSetting? calls kind → ∀ environment,
      (ofCalls others).credential environment kind =
        (ofCalls calls).credential environment kind := by
  have holds := holds_lastSetting? calls kind
  refine ⟨?_, holds.yields, fun others same environment => ?_⟩
  · rintro ⟨isKeyless, mapping, member⟩
    exact holds.not_mapped isKeyless mapping member
  · have othersHold := holds_lastSetting? others kind
    rw [same] at othersHold
    exact holds.credential_eq othersHold environment

/-- A kind that was mapped to one variable, made keyless and mapped to another. The value of this
one ends in a blank. -/
theorem last_setting_decides_overruled :
    let mapping : EnvironmentMapping :=
      ⟨"RELAY_KEY", [("organization", "RELAY_ORG"), ("project", "RELAY_PROJECT")]⟩
    let calls : List Call :=
      [.withStandards, .makeKeyless .openAi, .map .openAi mapping, .makeKeyless .anthropic]
    let others : List Call := [.map .openAi mapping]
    let environment : Environment :=
      ⟨[("OPENAI_API_KEY", "sk-1"), ("RELAY_KEY", "sk-2 "), ("RELAY_ORG", "org")]⟩
    lastSetting? others .openAi = lastSetting? calls .openAi ∧
      (ofCalls others).credential environment .openAi =
        (ofCalls calls).credential environment .openAi ∧
      (ofCalls calls).credential environment .openAi =
        .ok ⟨.openAi, "sk-2 ", [("organization", "org")]⟩ := by
  intro mapping calls others environment
  have same : lastSetting? others .openAi = lastSetting? calls .openAi := rfl
  obtain ⟨_, _, decides⟩ := last_setting_decides calls .openAi
  exact ⟨same, decides others same environment, rfl⟩

end EnvironmentStore

end PromptRelay
