/-
**What a set of patterns holds.**

The configured patterns are looked at once, one after the other, each against the catalog and
against the names before it. So whatever is found in a set later can be run, and under any greater
limit too, and a name belongs to one pattern.

* `PatternSet.IsFit`, `PatternSet.Flaw`: lists that a set is made of, and what is wrong at the first
  position of any other;
* `PatternSet.firstFault?_append`, `PatternSet.firstFault?_eq_some_iff`: how a list is looked
  through;
* `PatternSet.ofList_eq_ok_iff`, `PatternSet.ofList_eq_error_iff`: when a set is made, and else for
  which fault it is refused;
* `PatternSet.get?_eq_some_iff`: what is found by its name;
* `PatternSet.patterns_vetted`: all of it for the set of a list.
-/

import Mathlib.Data.List.Induction
import Mathlib.Data.List.Nodup
import PromptRelay.Proofs.Pattern.Selection
import PromptRelay.Proofs.Run.Faults
import PromptRelay.Setup.Error

namespace PromptRelay

/-- A pattern that can be run can be run under any greater limit. -/
theorem HopPattern.fault?_eq_none_of_le {pattern : HopPattern} {catalog : Catalog}
    {maxHops limit : Nat} (sound : pattern.fault? catalog maxHops = none) (le : maxHops ≤ limit) :
    pattern.fault? catalog limit = none := by
  obtain ⟨someHop, few, known⟩ := fault?_eq_none_iff.mp sound
  exact fault?_eq_none_iff.mpr ⟨someHop, Nat.le_trans few le, known⟩

namespace PatternSet

variable {catalog : Catalog} {maxHops : Nat} {seen : List String}
  {earlier later patterns : List HopPattern} {pattern : HopPattern} {fault : PatternSetFault}

/-! ### Lists of patterns -/

/-- The patterns can be run and have distinct names. -/
structure IsFit (catalog : Catalog) (maxHops : Nat) (patterns : List HopPattern) : Prop where
  sound : ∀ pattern ∈ patterns, pattern.fault? catalog maxHops = none
  distinct : (patterns.map HopPattern.name).Nodup

/-- A pattern cannot stand behind some names: it cannot be run, or else its name is one of them. -/
inductive Flaw (catalog : Catalog) (maxHops : Nat) (seen : List String) (pattern : HopPattern) :
    PatternSetFault → Prop where
  | own {cause : ChainError} (flaw : pattern.Flaw catalog maxHops cause) :
      Flaw catalog maxHops seen pattern (.unrunnable cause)
  | repeated (sound : pattern.fault? catalog maxHops = none) (known : pattern.name ∈ seen) :
      Flaw catalog maxHops seen pattern (.duplicateName pattern.name)

/-- Only which names have been seen matters, not in which order. -/
theorem Flaw.of_mem_iff {names : List String} (same : ∀ name, name ∈ seen ↔ name ∈ names)
    (flaw : Flaw catalog maxHops seen pattern fault) :
    Flaw catalog maxHops names pattern fault := by
  cases flaw with
  | own flaw => exact .own flaw
  | repeated sound known => exact .repeated sound ((same _).mp known)

/-! ### The pass through a list -/

/-- **A list is looked through** piece by piece. -/
theorem firstFault?_append :
    firstFault? catalog maxHops seen (earlier ++ later) =
      (firstFault? catalog maxHops seen earlier).or
        (firstFault? catalog maxHops ((earlier.map HopPattern.name).reverse ++ seen) later) := by
  induction earlier generalizing seen with
  | nil => rfl
  | cons first earlier hypothesis =>
    rw [List.cons_append, List.map_cons, List.reverse_cons, List.append_assoc]
    rw [firstFault?, firstFault?]
    cases first.fault? catalog maxHops with
    | some cause => rfl
    | none =>
      dsimp only
      split
      · rfl
      · exact hypothesis

theorem firstFault?_singleton_eq_some_iff :
    firstFault? catalog maxHops seen [pattern] = some fault ↔
      Flaw catalog maxHops seen pattern fault := by
  unfold firstFault?
  cases found : pattern.fault? catalog maxHops with
  | some cause =>
    have flaw := HopPattern.fault?_eq_some_iff.mp found
    constructor
    · intro same
      cases same
      exact .own flaw
    · intro other
      cases other with
      | own other =>
        rw [← HopPattern.fault?_eq_some_iff, found] at other
        cases other
        rfl
      | repeated sound _ =>
        rw [found] at sound
        cases sound
  | none =>
    dsimp only
    constructor
    · intro same
      split at same
      · rename_i known
        cases same
        exact .repeated found known
      · cases same
    · intro flaw
      cases flaw with
      | own flaw =>
        rw [← HopPattern.fault?_eq_some_iff, found] at flaw
        cases flaw
      | repeated _ known => rw [if_pos known]

/-- **A list passes** when its patterns can be run and no name comes twice. -/
theorem firstFault?_eq_none_iff :
    firstFault? catalog maxHops seen patterns = none ↔
      IsFit catalog maxHops patterns ∧ ∀ pattern ∈ patterns, pattern.name ∉ seen := by
  induction patterns generalizing seen with
  | nil =>
    have nothing : IsFit catalog maxHops [] := ⟨(fun _ member => by cases member), .nil⟩
    exact iff_of_true rfl ⟨nothing, fun _ member => by cases member⟩
  | cons first patterns hypothesis =>
    unfold firstFault?
    cases sound : first.fault? catalog maxHops with
    | some cause =>
      refine iff_of_false (fun same => by cases same) fun passes => ?_
      have none := passes.1.sound first List.mem_cons_self
      rw [sound] at none
      cases none
    | none =>
      dsimp only
      split
      · rename_i known
        exact iff_of_false (fun same => by cases same) fun passes =>
          passes.2 first List.mem_cons_self known
      · rename_i new
        rw [hypothesis]
        constructor
        · rintro ⟨fit, unseen⟩
          refine ⟨⟨List.forall_mem_cons.mpr ⟨sound, fit.sound⟩,
            List.nodup_cons.mpr ⟨?_, fit.distinct⟩⟩,
            List.forall_mem_cons.mpr ⟨new, fun other member known => ?_⟩⟩
          · intro repeated
            obtain ⟨other, member, same⟩ := List.mem_map.mp repeated
            exact unseen other member (same ▸ List.mem_cons_self)
          · exact unseen other member (List.mem_cons_of_mem _ known)
        · rintro ⟨fit, unseen⟩
          obtain ⟨fresh, distinct⟩ := List.nodup_cons.mp fit.distinct
          refine ⟨⟨fun other member => fit.sound other (List.mem_cons_of_mem _ member), distinct⟩,
            fun other member known => ?_⟩
          rcases List.mem_cons.mp known with same | known
          · exact fresh (same ▸ List.mem_map_of_mem member)
          · exact unseen other (List.mem_cons_of_mem _ member) known

theorem isFit_iff :
    firstFault? catalog maxHops [] patterns = none ↔ IsFit catalog maxHops patterns := by
  rw [firstFault?_eq_none_iff]
  exact and_iff_left fun _ _ => List.not_mem_nil

/-- A pattern behind others that are fit. -/
theorem firstFault?_concat_eq_some_iff (fit : IsFit catalog maxHops earlier) :
    firstFault? catalog maxHops [] (earlier ++ [pattern]) = some fault ↔
      Flaw catalog maxHops (earlier.map HopPattern.name) pattern fault := by
  have same (name : String) : name ∈ (earlier.map HopPattern.name).reverse ++ [] ↔
      name ∈ earlier.map HopPattern.name := by
    rw [List.append_nil, List.mem_reverse]
  rw [firstFault?_append, isFit_iff.mpr fit, Option.none_or, firstFault?_singleton_eq_some_iff]
  exact ⟨Flaw.of_mem_iff same, Flaw.of_mem_iff fun name => (same name).symm⟩

/-- **The fault of a list** is the flaw at the first position that has one. -/
theorem firstFault?_eq_some_iff :
    firstFault? catalog maxHops [] patterns = some fault ↔ ∃ earlier pattern later,
      patterns = earlier ++ pattern :: later ∧ IsFit catalog maxHops earlier ∧
      Flaw catalog maxHops (earlier.map HopPattern.name) pattern fault := by
  constructor
  · intro found
    -- From behind: the last pattern is to blame only where those before it are fit.
    induction patterns using List.reverseRecOn with
    | nil => cases found
    | append_singleton earlier pattern hypothesis =>
      cases before : firstFault? catalog maxHops [] earlier with
      | some cause =>
        rw [firstFault?_append, before, Option.some_or] at found
        obtain ⟨first, flawed, rest, rfl, fit, flaw⟩ := hypothesis (before.trans found)
        exact ⟨first, flawed, rest ++ [pattern], by simp, fit, flaw⟩
      | none =>
        have fit := isFit_iff.mp before
        exact ⟨earlier, pattern, [], rfl, fit, (firstFault?_concat_eq_some_iff fit).mp found⟩
  · rintro ⟨earlier, pattern, later, rfl, fit, flaw⟩
    rw [List.append_cons, firstFault?_append, (firstFault?_concat_eq_some_iff fit).mpr flaw,
      Option.some_or]

/-! ### Sets of lists -/

/-- **A set is made** of a list of patterns that can be run and have distinct names. -/
theorem ofList_eq_ok_iff {set : PatternSet} :
    ofList patterns catalog maxHops = .ok set ↔
      maxHops ≠ 0 ∧ IsFit catalog maxHops patterns ∧ set = ⟨patterns, maxHops⟩ := by
  unfold ofList
  split
  · rename_i zero
    exact iff_of_false (fun made => by cases made) fun fits => fits.1 zero
  · rename_i someHops
    cases found : firstFault? catalog maxHops [] patterns with
    | some fault =>
      refine iff_of_false (fun made => by cases made) fun fits => ?_
      have none := isFit_iff.mpr fits.2.1
      rw [found] at none
      cases none
    | none =>
      have fit := isFit_iff.mp found
      rw [Except.ok.injEq, eq_comm]
      exact ⟨fun same => ⟨someHops, fit, same⟩, fun fits => fits.2.2⟩

/-- **A list is refused** where no hops are allowed, and else for the flaw at the first position that
has one. -/
theorem ofList_eq_error_iff :
    ofList patterns catalog maxHops = .error fault ↔
      (maxHops = 0 ∧ fault = .zeroMaxHops) ∨ (maxHops ≠ 0 ∧ ∃ earlier pattern later,
        patterns = earlier ++ pattern :: later ∧ IsFit catalog maxHops earlier ∧
        Flaw catalog maxHops (earlier.map HopPattern.name) pattern fault) := by
  rw [← firstFault?_eq_some_iff]
  unfold ofList
  by_cases zero : maxHops = 0
  · rw [if_pos zero]
    simp [zero, eq_comm]
  · rw [if_neg zero]
    cases firstFault? catalog maxHops [] patterns <;> simp [zero]

/-- The patterns of a set are those that were given, and each of them may be run. -/
theorem sound_of_ofList {set : PatternSet} (made : ofList patterns catalog maxHops = .ok set) :
    set.patterns = patterns ∧ ∀ pattern ∈ patterns, pattern.fault? catalog maxHops = none := by
  obtain ⟨_, fit, rfl⟩ := ofList_eq_ok_iff.mp made
  exact ⟨rfl, fit.sound⟩

/-- **A pattern is found** by its name where names are distinct. -/
theorem get?_eq_some_iff {set : PatternSet} {name : String}
    (distinct : (set.patterns.map HopPattern.name).Nodup) :
    set.get? name = some pattern ↔ pattern ∈ set.patterns ∧ pattern.name = name := by
  constructor
  · exact fun found => ⟨mem_of_get? found, name_of_get? found⟩
  · rintro ⟨member, rfl⟩
    cases found : set.get? pattern.name with
    | none => exact absurd rfl (get?_eq_none_iff.mp found pattern member)
    | some other =>
      have same := name_of_get? found
      rw [List.inj_on_of_nodup_map distinct (mem_of_get? found) member same]

/-! ### All of it -/

/-- **Patterns are vetted once.** A set is made exactly where some hops are allowed, each pattern has
between one hop and so many of them, all with providers of the catalog, and no name comes twice. Any
other list is refused because no hops are allowed, or else for the first position at which a pattern
cannot be run, or can be but repeats a name; a pattern that cannot be run is told of as in a run. The
set then finds under a name the one pattern that has it. Whatever it finds can be run, with its own
limit and with any greater one. -/
theorem patterns_vetted (patterns : List HopPattern) (catalog : Catalog) (maxHops : Nat) :
    ((∃ set, ofList patterns catalog maxHops = .ok set) ↔
      0 < maxHops ∧
      (∀ pattern ∈ patterns, 1 ≤ pattern.providers.length ∧
        pattern.providers.length ≤ maxHops ∧
        ∀ id ∈ pattern.providers, ∃ provider ∈ catalog.providers, provider.id = id) ∧
      (patterns.map HopPattern.name).Nodup) ∧
    (∀ fault, ofList patterns catalog maxHops = .error fault ↔
      (maxHops = 0 ∧ fault = .zeroMaxHops) ∨
      (maxHops ≠ 0 ∧ ∃ earlier pattern later, patterns = earlier ++ pattern :: later ∧
        (∀ other ∈ earlier, other.fault? catalog maxHops = none) ∧
        (earlier.map HopPattern.name).Nodup ∧
        ((∃ cause, pattern.Flaw catalog maxHops cause ∧ fault = .unrunnable cause) ∨
          pattern.fault? catalog maxHops = none ∧ pattern.name ∈ earlier.map HopPattern.name ∧
            fault = .duplicateName pattern.name))) ∧
    ((SetupError.patterns .zeroMaxHops).kind = .configuration ∧
      (SetupError.patterns .zeroMaxHops).reason = "max_hops must be greater than 0" ∧
      (∀ name, (SetupError.patterns (.duplicateName name)).kind = .validation ∧
        (SetupError.patterns (.duplicateName name)).reason = s!"Duplicate pattern name '{name}'") ∧
      (∀ fault, (SetupError.patterns (.unrunnable (.patternInvalid fault))).kind = .validation) ∧
      (∀ id, (SetupError.patterns (.unrunnable (.providerUnknown id))).kind = .notFound) ∧
      ∀ cause, (SetupError.patterns (.unrunnable cause)).reason = cause.message) ∧
    ∀ set, ofList patterns catalog maxHops = .ok set →
      set.patterns = patterns ∧ set.maxHops = maxHops ∧
      (∀ name pattern, set.get? name = some pattern ↔
        pattern ∈ patterns ∧ pattern.name = name) ∧
      (∀ name, set.get? name = none ↔ ∀ pattern ∈ patterns, pattern.name ≠ name) ∧
      ∀ pattern, (pattern ∈ set.patterns ∨ ∃ name, set.get? name = some pattern) →
        ∀ limit, set.maxHops ≤ limit → pattern.fault? catalog limit = none := by
  refine ⟨?_, fun fault => ?_, ⟨rfl, rfl, fun _ => ⟨rfl, rfl⟩, fun _ => rfl, fun _ => rfl,
    fun _ => rfl⟩, fun set made => ?_⟩
  · simp only [ofList_eq_ok_iff, exists_and_left, exists_eq, and_true, ← Nat.pos_iff_ne_zero,
      Nat.one_le_iff_ne_zero, ne_eq, List.length_eq_zero_iff, ← List.mem_map]
    refine and_congr_right fun _ => ?_
    constructor
    · intro fit
      exact ⟨fun pattern member => HopPattern.fault?_eq_none_iff.mp (fit.sound pattern member),
        fit.distinct⟩
    · rintro ⟨sound, distinct⟩
      exact ⟨fun pattern member => HopPattern.fault?_eq_none_iff.mpr (sound pattern member),
        distinct⟩
  · rw [ofList_eq_error_iff]
    refine or_congr_right (and_congr_right fun _ => exists_congr fun earlier =>
      exists_congr fun pattern => exists_congr fun later => ?_)
    constructor
    · rintro ⟨split, fit, flaw⟩
      refine ⟨split, fit.sound, fit.distinct, ?_⟩
      cases flaw with
      | own flaw => exact .inl ⟨_, flaw, rfl⟩
      | repeated sound known => exact .inr ⟨sound, known, rfl⟩
    · rintro ⟨split, sound, distinct, ⟨cause, flaw, rfl⟩ | ⟨own, known, rfl⟩⟩
      · exact ⟨split, ⟨sound, distinct⟩, .own flaw⟩
      · exact ⟨split, ⟨sound, distinct⟩, .repeated own known⟩
  · obtain ⟨_, fit, rfl⟩ := ofList_eq_ok_iff.mp made
    refine ⟨rfl, rfl, fun name pattern => get?_eq_some_iff fit.distinct,
      fun name => get?_eq_none_iff, fun pattern there limit le => ?_⟩
    have member : pattern ∈ patterns := there.elim id fun ⟨_, found⟩ => mem_of_get? found
    exact HopPattern.fault?_eq_none_of_le (fit.sound pattern member) le

/-- Two patterns that share a provider, under the least limit that fits both. -/
theorem patterns_vetted_pair :
    let llama : Provider := { id := "llama", displayName := "Llama", kind := .localServer }
    let quick : HopPattern := { name := "quick", providers := ["llama"] }
    let deep : HopPattern := { name := "deep", providers := ["llama", "llama"] }
    ∃ catalog set, Catalog.ofList [llama] = .ok catalog ∧
      ofList [quick, deep] catalog 2 = .ok set ∧ set.get? "deep" = some deep ∧
      set.get? "quick" = some quick ∧ set.get? "long" = none ∧ deep.fault? catalog 3 = none := by
  intro llama quick deep
  obtain ⟨catalog, isCatalog⟩ := Catalog.exists_ofList_iff.mpr
    (show Catalog.IsFit [llama] from ⟨by decide +kernel, by decide⟩)
  have listed : catalog.providers = [llama] := (Catalog.ofList_eq_ok_iff.mp isCatalog).2
  obtain ⟨whenMade, _, _, known⟩ := patterns_vetted [quick, deep] catalog 2
  obtain ⟨set, made⟩ := whenMade.mpr (by rw [listed]; decide)
  obtain ⟨patterns, limit, found, unknown, runs⟩ := known set made
  exact ⟨catalog, set, isCatalog, made, (found _ _).mpr ⟨by simp, rfl⟩,
    (found _ _).mpr ⟨by simp, rfl⟩, (unknown _).mpr (by decide),
    runs deep (.inl (by rw [patterns]; simp)) 3 (by rw [limit]; decide)⟩

end PatternSet

end PromptRelay
