/-
**What keeps a plan from being run.**

Before a chain is started, the settings of its plan are looked at and then its pattern. What is
found is said here apart from the looking: each cause with what makes it the first one.

* `Settings.Flaw`, `Settings.fault?_eq_some_iff`: a budget that means nothing, then a timeout of
  zero;
* `HopPattern.Flaw`, `HopPattern.fault?_eq_some_iff`: no hops, then too many of them, then the first
  provider that the catalog does not have;
* `Plan.Flaw`, `Plan.fault?_eq_some_iff`: the settings come before the pattern;
* `Plan.timeouts_pos`, `Plan.hopCount_pos`: what a plan without a fault has.
-/

import PromptRelay.Proofs.Provider.Catalogs
import PromptRelay.Run.Execute

namespace PromptRelay

namespace Settings

/-! ### Settings -/

/-- The budget is infinite, or not a number, or below zero. -/
def HasBadBudget (settings : Settings) : Prop :=
  settings.budget.isFinite = false ∨ settings.budget < 0.0

/-- One of the two time limits is zero. -/
def HasZeroTimeout (settings : Settings) : Prop :=
  settings.hopTimeout = 0 ∨ settings.chainTimeout = 0

/-- What is wrong with settings: the budget, or else a timeout. -/
inductive Flaw (settings : Settings) : SettingsFault → Prop where
  | badBudget (bad : settings.HasBadBudget) : Flaw settings (.badBudget settings.budget)
  | zeroTimeout (good : ¬ settings.HasBadBudget) (zero : settings.HasZeroTimeout) :
      Flaw settings .zeroTimeout

variable {settings : Settings}

theorem badBudget_iff :
    (!settings.budget.isFinite || settings.budget < 0.0) = true ↔ settings.HasBadBudget := by
  rw [Bool.or_eq_true, Bool.not_eq_true', decide_eq_true_iff]
  rfl

theorem zeroTimeout_iff :
    (settings.hopTimeout = 0 || settings.chainTimeout = 0) = true ↔
      settings.HasZeroTimeout := by
  rw [Bool.or_eq_true, decide_eq_true_iff, decide_eq_true_iff]
  rfl

/-- **The fault of settings** is the first thing that is wrong with them. -/
theorem fault?_eq_some_iff {fault : SettingsFault} :
    settings.fault? = some fault ↔ settings.Flaw fault := by
  unfold fault?
  constructor
  · intro found
    split at found
    · rename_i bad
      cases found
      exact .badBudget (badBudget_iff.mp bad)
    · rename_i good
      split at found
      · rename_i zero
        cases found
        exact .zeroTimeout (mt badBudget_iff.mpr good) (zeroTimeout_iff.mp zero)
      · cases found
  · intro flaw
    cases flaw with
    | badBudget bad => rw [if_pos (badBudget_iff.mpr bad)]
    | zeroTimeout good zero =>
      rw [if_neg (mt badBudget_iff.mp good), if_pos (zeroTimeout_iff.mpr zero)]

theorem fault?_eq_none_iff :
    settings.fault? = none ↔ ¬ settings.HasBadBudget ∧ ¬ settings.HasZeroTimeout := by
  constructor
  · intro sound
    have flawless : ∀ fault, ¬ settings.Flaw fault := by
      intro fault flaw
      rw [← fault?_eq_some_iff, sound] at flaw
      cases flaw
    have good : ¬ settings.HasBadBudget := fun bad => flawless _ (.badBudget bad)
    exact ⟨good, fun zero => flawless _ (.zeroTimeout good zero)⟩
  · rintro ⟨good, positive⟩
    unfold fault?
    rw [if_neg (mt badBudget_iff.mp good), if_neg (mt zeroTimeout_iff.mp positive)]

end Settings

namespace HopPattern

/-! ### Patterns -/

/-- What is wrong with a pattern: it has no hops, or else too many, or else a provider that the
catalog does not have, the first such one. -/
inductive Flaw (pattern : HopPattern) (catalog : Catalog) (maxHops : Nat) : ChainError → Prop where
  | noHops (empty : pattern.providers = []) :
      Flaw pattern catalog maxHops (.patternInvalid (.noHops pattern.name))
  | tooManyHops (someHop : pattern.providers ≠ []) (beyond : maxHops < pattern.hopCount) :
      Flaw pattern catalog maxHops
        (.patternInvalid (.tooManyHops pattern.name pattern.hopCount maxHops))
  | providerUnknown (someHop : pattern.providers ≠ []) (few : pattern.hopCount ≤ maxHops)
      {before after : List String} {id : String} (first : pattern.providers = before ++ id :: after)
      (known : ∀ other ∈ before, other ∈ catalog.providers.map Provider.id)
      (missing : id ∉ catalog.providers.map Provider.id) :
      Flaw pattern catalog maxHops (.providerUnknown id)

variable {pattern : HopPattern} {catalog : Catalog} {maxHops : Nat}

/-- **The fault of a pattern** is the first thing that is wrong with it. -/
theorem fault?_eq_some_iff {error : ChainError} :
    pattern.fault? catalog maxHops = some error ↔ pattern.Flaw catalog maxHops error := by
  unfold fault?
  constructor
  · intro found
    split at found
    · rename_i empty
      cases found
      exact .noHops (List.isEmpty_iff.mp empty)
    · rename_i someHop
      rw [List.isEmpty_iff] at someHop
      split at found
      · rename_i beyond
        cases found
        exact .tooManyHops someHop beyond
      · rename_i few
        obtain ⟨id, first, rfl⟩ := Option.map_eq_some_iff.mp found
        obtain ⟨missing, before, after, split, known⟩ := List.find?_eq_some_iff_append.mp first
        refine .providerUnknown someHop (Nat.not_lt.mp few) split (fun other member => ?_) ?_
        · have there := known other member
          rw [Bool.not_not] at there
          exact Catalog.contains_iff.mp there
        · exact Catalog.not_contains_iff.mp missing
  · intro flaw
    cases flaw with
    | noHops empty => rw [if_pos (List.isEmpty_iff.mpr empty)]
    | tooManyHops someHop beyond =>
      rw [if_neg (mt List.isEmpty_iff.mp someHop), if_pos beyond]
    | providerUnknown someHop few first known missing =>
      rw [if_neg (mt List.isEmpty_iff.mp someHop), if_neg (Nat.not_lt.mpr few)]
      refine Option.map_eq_some_iff.mpr ⟨_, List.find?_eq_some_iff_append.mpr
        ⟨Catalog.not_contains_iff.mpr missing, _, _, first, fun other member => ?_⟩, rfl⟩
      rw [Bool.not_not]
      exact Catalog.contains_iff.mpr (known other member)

/-- A pattern has no fault when it has hops, not too many, and providers of the catalog alone. -/
theorem fault?_eq_none_iff :
    pattern.fault? catalog maxHops = none ↔ pattern.providers ≠ [] ∧ pattern.hopCount ≤ maxHops ∧
      ∀ id ∈ pattern.providers, id ∈ catalog.providers.map Provider.id := by
  unfold fault?
  by_cases empty : pattern.providers = []
  · rw [if_pos (List.isEmpty_iff.mpr empty)]
    exact iff_of_false (Option.some_ne_none _) fun sound => sound.1 empty
  · rw [if_neg (mt List.isEmpty_iff.mp empty)]
    by_cases beyond : maxHops < pattern.hopCount
    · rw [if_pos beyond]
      exact iff_of_false (Option.some_ne_none _) fun sound => Nat.not_le.mpr beyond sound.2.1
    · rw [if_neg beyond, Option.map_eq_none_iff, List.find?_eq_none]
      simp only [Catalog.not_contains_iff, Classical.not_not]
      exact ⟨fun known => ⟨empty, Nat.not_lt.mp beyond, known⟩, fun sound => sound.2.2⟩

end HopPattern

namespace Plan

/-! ### Plans -/

/-- What is wrong with a plan: its settings, or else its pattern. -/
inductive Flaw (plan : Plan) : ChainError → Prop where
  | settings {fault : SettingsFault} (flaw : plan.settings.Flaw fault) :
      Flaw plan (.settingsInvalid fault)
  | pattern {error : ChainError} (sound : ∀ fault, ¬ plan.settings.Flaw fault)
      (flaw : plan.pattern.Flaw plan.catalog plan.settings.maxHops error) : Flaw plan error

variable {plan : Plan}

/-- **The fault of a plan** is the first thing that is wrong with it. -/
theorem fault?_eq_some_iff {error : ChainError} : plan.fault? = some error ↔ plan.Flaw error := by
  unfold fault?
  cases found : plan.settings.fault? with
  | some fault =>
    have flaw := Settings.fault?_eq_some_iff.mp found
    constructor
    · intro same
      cases same
      exact .settings flaw
    · intro other
      cases other with
      | settings other =>
        rw [← Settings.fault?_eq_some_iff, found] at other
        cases other
        rfl
      | pattern sound _ => exact absurd flaw (sound fault)
  | none =>
    have sound : ∀ fault, ¬ plan.settings.Flaw fault := by
      intro fault flaw
      rw [← Settings.fault?_eq_some_iff, found] at flaw
      cases flaw
    rw [HopPattern.fault?_eq_some_iff]
    constructor
    · exact .pattern sound
    · intro flaw
      cases flaw with
      | settings flaw => exact absurd flaw (sound _)
      | pattern _ flaw => exact flaw

theorem Flaw.isPreflight {error : ChainError} (flaw : plan.Flaw error) :
    error.isPreflight = true := by
  cases flaw with
  | settings flaw => rfl
  | pattern sound flaw => cases flaw <;> rfl

/-- A plan has no fault when its settings and its pattern have none. -/
theorem fault?_eq_none_iff :
    plan.fault? = none ↔ plan.settings.fault? = none ∧
      plan.pattern.fault? plan.catalog plan.settings.maxHops = none := by
  unfold fault?
  cases plan.settings.fault? with
  | some cause => simp
  | none => simp

theorem timeouts_pos (sound : plan.fault? = none) :
    0 < plan.settings.hopTimeout ∧ 0 < plan.settings.chainTimeout := by
  have positive := (Settings.fault?_eq_none_iff.mp (fault?_eq_none_iff.mp sound).1).2
  exact ⟨Nat.pos_of_ne_zero (mt .inl positive), Nat.pos_of_ne_zero (mt .inr positive)⟩

theorem hopCount_pos (sound : plan.fault? = none) : 0 < plan.pattern.hopCount :=
  List.length_pos_iff.mpr (HopPattern.fault?_eq_none_iff.mp (fault?_eq_none_iff.mp sound).2).1

end Plan

end PromptRelay
