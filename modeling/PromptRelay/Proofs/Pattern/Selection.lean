/-
**Which pattern a request gets.**

The presets are looked at once, when a selector is made of them. From then on a longer text never
gets fewer hops than a shorter one, though nothing is compared when a text comes: the thresholds lie
in order, so the presets change in order, and their hop counts rise.

* `PatternSet.get?_eq_none_iff`, `PatternSet.mem_of_get?`: what is found in a set by name;
* `Selector.Fits`, `Selector.ofPresets_eq_ok_iff`: when a selector is made, and of what;
* `Selector.select_eq_error_iff`, `Selector.mem_of_select`: a request gets a pattern unless it names
  one that there is not;
* `Selector.Fits.hopCount_presetFor_le`: a longer text gets no fewer hops;
* `Selector.selection_rises`: all of it for the selector of a set.
-/

import PromptRelay.Pattern.Selector
import PromptRelay.Proofs.Document.Forms

namespace PromptRelay

/-! ### Patterns by name -/

namespace PatternSet

variable {patterns : PatternSet} {name : String} {pattern : HopPattern}

theorem get?_eq_none_iff :
    patterns.get? name = none ↔ ∀ pattern ∈ patterns.patterns, pattern.name ≠ name := by
  unfold get?
  rw [List.find?_eq_none]
  simp only [decide_eq_true_eq, ne_eq]

theorem mem_of_get? (found : patterns.get? name = some pattern) : pattern ∈ patterns.patterns :=
  List.mem_of_find?_eq_some found

theorem name_of_get? (found : patterns.get? name = some pattern) : pattern.name = name := by
  have same := List.find?_some found
  exact of_decide_eq_true same

end PatternSet

namespace Selector

/-! ### Selectors -/

/-- The selector is made of patterns, thresholds and the names of presets: the thresholds lie in
order, each name is that of a pattern, and the hop counts do not decrease. -/
structure Fits (selector : Selector) (patterns : PatternSet) (thresholds : Thresholds)
    (names : PresetNames) : Prop where
  ofPatterns : selector.patterns = patterns
  ofThresholds : selector.thresholds = thresholds
  inOrder : thresholds.shortMax ≤ thresholds.mediumMax
  short : patterns.get? names.short = some selector.short
  medium : patterns.get? names.medium = some selector.medium
  long : patterns.get? names.long = some selector.long
  rises : selector.short.hopCount ≤ selector.medium.hopCount
  risesOn : selector.medium.hopCount ≤ selector.long.hopCount

theorem preset_eq_ok_iff {patterns : PatternSet} {name : String} {pattern : HopPattern} :
    preset patterns name = .ok pattern ↔ patterns.get? name = some pattern := by
  unfold preset
  cases patterns.get? name <;> simp

variable {patterns : PatternSet} {thresholds : Thresholds} {names : PresetNames}
  {selector : Selector}

/-- **A selector is made** where thresholds and presets fit. -/
theorem ofPresets_eq_ok_iff :
    ofPresets patterns thresholds names = .ok selector ↔
      selector.Fits patterns thresholds names := by
  unfold ofPresets
  by_cases crossed : thresholds.mediumMax < thresholds.shortMax
  · rw [if_pos crossed]
    exact iff_of_false (fun same => by cases same) fun fits => Nat.not_le.mpr crossed fits.inOrder
  · rw [if_neg crossed]
    simp only [bind_eq_ok_iff, preset_eq_ok_iff, Bool.or_eq_true, decide_eq_true_eq]
    constructor
    · rintro ⟨short, isShort, medium, isMedium, long, isLong, made⟩
      split at made
      · cases made
      · rename_i rising
        cases made
        rw [not_or, Nat.not_lt, Nat.not_lt] at rising
        exact ⟨rfl, rfl, Nat.not_lt.mp crossed, isShort, isMedium, isLong, rising.1, rising.2⟩
    · rintro ⟨rfl, rfl, _, isShort, isMedium, isLong, rises, risesOn⟩
      refine ⟨_, isShort, _, isMedium, _, isLong, ?_⟩
      rw [if_neg (not_or.mpr ⟨Nat.not_lt.mpr rises, Nat.not_lt.mpr risesOn⟩)]

/-! ### Requests -/

/-- **A request gets no pattern** only where it names one that there is not. -/
theorem select_eq_error_iff {wish : Wish} {error : ChainError} :
    selector.select wish = .error error ↔ ∃ name, wish.patternName = some name ∧
      (∀ pattern ∈ selector.patterns.patterns, pattern.name ≠ name) ∧
      error = .unknownPatternName name := by
  unfold select
  simp only [← PatternSet.get?_eq_none_iff]
  cases wish.patternName with
  | none => cases wish.providers <;> simp
  | some name =>
    simp only [Option.some.injEq, exists_eq_left']
    cases selector.patterns.get? name with
    | none => simp [eq_comm]
    | some pattern => simp

theorem select_eq_ok_iff_of_name {wish : Wish} {name : String} {pattern : HopPattern}
    (named : wish.patternName = some name) :
    selector.select wish = .ok pattern ↔ selector.patterns.get? name = some pattern := by
  unfold select
  rw [named]
  dsimp only
  cases selector.patterns.get? name <;> simp

theorem name_of_select {wish : Wish} {pattern : HopPattern} {name : String}
    (named : wish.patternName = some name) (selected : selector.select wish = .ok pattern) :
    pattern.name = name :=
  PatternSet.name_of_get? ((select_eq_ok_iff_of_name named).mp selected)

/-- A pattern that is picked is one of the selector's, or made of the providers that are wanted. -/
theorem mem_of_select {wish : Wish} {pattern : HopPattern}
    (presets : ∀ length, selector.presetFor length ∈ selector.patterns.patterns)
    (picks : wish.patternName ≠ none ∨ wish.providers = none)
    (selected : selector.select wish = .ok pattern) : pattern ∈ selector.patterns.patterns := by
  cases named : wish.patternName with
  | some name => exact PatternSet.mem_of_get? ((select_eq_ok_iff_of_name named).mp selected)
  | none =>
    unfold select at selected
    rw [named, picks.resolve_left fun some => some named] at selected
    cases selected
    exact presets _

/-! ### Presets -/

namespace Fits

variable (fits : selector.Fits patterns thresholds names)

include fits

/-- The preset for a length is the pattern of one of the three names. -/
theorem get?_presetFor (length : Nat) :
    patterns.get? (if length < thresholds.shortMax then names.short
      else if length ≤ thresholds.mediumMax then names.medium else names.long) =
      some (selector.presetFor length) := by
  unfold presetFor
  rw [fits.ofThresholds]
  by_cases short : length < thresholds.shortMax
  · simp only [if_pos short, fits.short]
  · by_cases medium : length ≤ thresholds.mediumMax
    · simp only [if_neg short, if_pos medium, fits.medium]
    · simp only [if_neg short, if_neg medium, fits.long]

theorem presetFor_mem (length : Nat) : selector.presetFor length ∈ patterns.patterns :=
  PatternSet.mem_of_get? (fits.get?_presetFor length)

/-- **A longer text gets no fewer hops.** -/
theorem hopCount_presetFor_le {length longer : Nat} (le : length ≤ longer) :
    (selector.presetFor length).hopCount ≤ (selector.presetFor longer).hopCount := by
  have inOrder := fits.inOrder
  have rises := fits.rises
  have risesOn := fits.risesOn
  unfold presetFor
  rw [fits.ofThresholds]
  split_ifs <;> omega

end Fits

/-- The presets of a selector are among its patterns, which are those that were given. -/
theorem presets_of_ofPresets (made : ofPresets patterns thresholds names = .ok selector) :
    selector.patterns = patterns ∧ ∀ length, selector.presetFor length ∈ patterns.patterns :=
  have fits := ofPresets_eq_ok_iff.mp made
  ⟨fits.ofPatterns, fits.presetFor_mem⟩

/-- **Selection is total, and rises with the length of texts.** A selector is made exactly where the
thresholds lie in order, each preset is named after a pattern of the set, and the hop counts do not
decrease. It then gives a request that names a pattern this pattern of the set, or tells that there
is none of the name; else the providers that the request brings, in this order; else the preset for
the length of its text. This last choice never fails, and a longer text gets no fewer hops. -/
theorem selection_rises (patterns : PatternSet) (thresholds : Thresholds) (names : PresetNames) :
    ((∃ selector, ofPresets patterns thresholds names = .ok selector) ↔
      thresholds.shortMax ≤ thresholds.mediumMax ∧ ∃ short medium long,
        patterns.get? names.short = some short ∧ patterns.get? names.medium = some medium ∧
        patterns.get? names.long = some long ∧ short.hopCount ≤ medium.hopCount ∧
        medium.hopCount ≤ long.hopCount) ∧
    ∀ selector, ofPresets patterns thresholds names = .ok selector →
      (∀ text name providers pattern,
        selector.select ⟨text, some name, providers⟩ = .ok pattern ↔
          patterns.get? name = some pattern) ∧
      (∀ text name providers error,
        selector.select ⟨text, some name, providers⟩ = .error error ↔
          (∀ pattern ∈ patterns.patterns, pattern.name ≠ name) ∧
            error = .unknownPatternName name) ∧
      (∀ text providers, ∃ pattern, selector.select ⟨text, none, some providers⟩ = .ok pattern ∧
        pattern.name = "custom" ∧ pattern.providers = providers) ∧
      (∀ text : String, ∃ pattern, selector.select ⟨text, none, none⟩ = .ok pattern ∧
        patterns.get? (if text.length < thresholds.shortMax then names.short
          else if text.length ≤ thresholds.mediumMax then names.medium else names.long) =
          some pattern) ∧
      ∀ text longer : String, text.length ≤ longer.length → ∃ pattern other,
        selector.select ⟨text, none, none⟩ = .ok pattern ∧
        selector.select ⟨longer, none, none⟩ = .ok other ∧ pattern.hopCount ≤ other.hopCount := by
  constructor
  · constructor
    · rintro ⟨selector, made⟩
      have fits := ofPresets_eq_ok_iff.mp made
      exact ⟨fits.inOrder, _, _, _, fits.short, fits.medium, fits.long, fits.rises, fits.risesOn⟩
    · rintro ⟨inOrder, short, medium, long, isShort, isMedium, isLong, rises, risesOn⟩
      exact ⟨⟨patterns, thresholds, short, medium, long⟩, ofPresets_eq_ok_iff.mpr
        ⟨rfl, rfl, inOrder, isShort, isMedium, isLong, rises, risesOn⟩⟩
  · intro selector made
    have fits := ofPresets_eq_ok_iff.mp made
    refine ⟨fun text name providers pattern => ?_, fun text name providers error => ?_,
      fun text providers => ⟨_, rfl, rfl, rfl⟩, fun text => ⟨_, rfl, fits.get?_presetFor _⟩,
      fun text longer le => ⟨_, _, rfl, rfl, fits.hopCount_presetFor_le le⟩⟩
    · rw [select_eq_ok_iff_of_name rfl, fits.ofPatterns]
    · rw [select_eq_error_iff, fits.ofPatterns]
      simp only [Option.some.injEq, exists_eq_left']

/-- With both thresholds at zero the medium preset is for the empty text alone. -/
theorem selection_rises_at_zero :
    let quick : HopPattern := { name := "quick", providers := ["a"] }
    let deep : HopPattern := { name := "deep", providers := ["a", "b", "a"] }
    let selector : Selector := ⟨⟨[quick, deep], 8⟩, ⟨0, 0⟩, quick, quick, deep⟩
    selector.select { text := "" } = .ok quick ∧ selector.select { text := "é" } = .ok deep ∧
      quick.hopCount ≤ deep.hopCount := by
  intro quick deep selector
  have made : ofPresets ⟨[quick, deep], 8⟩ ⟨0, 0⟩ ⟨"quick", "quick", "deep"⟩ = .ok selector :=
    rfl
  obtain ⟨_, _, _, _, rises⟩ := (selection_rises _ _ _).2 selector made
  obtain ⟨pattern, other, isPattern, isOther, le⟩ := rises "" "é" (Nat.zero_le _)
  cases isPattern
  cases isOther
  exact ⟨rfl, rfl, le⟩

end Selector

end PromptRelay
