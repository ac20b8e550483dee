/-
**What a score depends on.**

A score looks at the providers of the successful records, in the order of the records, and at nothing
else of them. How many of these providers are distinct is the size of a set, so it lies between one
and their number and does not depend on their order.

* `successfulProviders`: what a score looks at;
* `distinctCount_eq_card`: the distinct ones are counted as a set is;
* `Catalog.qualityOf_of_lookup`, `Catalog.qualityOf_of_unknown`: the quality that an id adds;
* `RarityTier.classify_eq_legendary_iff`, `RarityTier.classify_eq_rare_iff`,
  `RarityTier.rank_classify_le`: the tiers, and that more hops never lower one;
* `score_eq_of_providers`, `score_insert_failed`: what leaves a score as it is;
* `scored_by_successes`: all of it.
-/

import Mathlib.Data.Finset.Card
import Mathlib.Data.List.Induction
import PromptRelay.Chain.Scoring
import PromptRelay.Proofs.Provider.Catalogs

namespace PromptRelay

/-! ### Distinct ids -/

section Distinct

variable {values : List String}

/-- One more id counts unless it has been there before. -/
theorem distinctCount_concat (values : List String) (value : String) :
    distinctCount (values ++ [value]) =
      distinctCount values + if value ∈ values then 0 else 1 := by
  unfold distinctCount
  rw [List.eraseDups_append, List.length_append]
  by_cases known : value ∈ values
  · simp [List.removeAll, known]
  · simp [List.removeAll, known, List.eraseDups_cons]

/-- **Distinct ids are counted** as the members of a set. -/
theorem distinctCount_eq_card (values : List String) :
    distinctCount values = values.toFinset.card := by
  induction values using List.reverseRecOn with
  | nil => rfl
  | append_singleton values value hypothesis =>
    have last : (values ++ [value]).toFinset = insert value values.toFinset := by
      ext other
      simp
    rw [distinctCount_concat, hypothesis, last]
    by_cases known : value ∈ values
    · rw [if_pos known, Finset.insert_eq_of_mem (List.mem_toFinset.mpr known), Nat.add_zero]
    · rw [if_neg known, Finset.card_insert_of_notMem (mt List.mem_toFinset.mp known)]

theorem distinctCount_le_length : distinctCount values ≤ values.length := by
  rw [distinctCount_eq_card]
  exact List.toFinset_card_le values

theorem distinctCount_eq_length_iff : distinctCount values = values.length ↔ values.Nodup := by
  rw [distinctCount_eq_card]
  exact Multiset.toFinset_card_eq_card_iff_nodup

theorem distinctCount_pos (someValue : 0 < values.length) : 0 < distinctCount values := by
  obtain ⟨value, member⟩ := List.exists_mem_of_length_pos someValue
  rw [distinctCount_eq_card]
  exact Finset.card_pos.mpr ⟨value, List.mem_toFinset.mpr member⟩

theorem distinctCount_perm {others : List String} (same : values.Perm others) :
    distinctCount values = distinctCount others := by
  rw [distinctCount_eq_card, distinctCount_eq_card, List.toFinset_eq_of_perm _ _ same]

end Distinct

/-! ### Qualities -/

namespace Catalog

variable {catalog : Catalog} {id : String}

theorem qualityOf_of_lookup {provider : Provider} (found : catalog.lookup id = .ok provider) :
    catalog.qualityOf id = provider.quality := by
  unfold qualityOf
  rw [lookup_eq_ok_iff.mp found]

theorem qualityOf_of_unknown (unknown : catalog.contains id = false) :
    catalog.qualityOf id = 0.0 := by
  have missing := Bool.eq_false_iff.mp unknown
  rw [ne_eq, contains_iff_exists_find?, not_exists] at missing
  unfold qualityOf
  rw [Option.eq_none_iff_forall_ne_some.mpr missing]

end Catalog

/-! ### Tiers -/

namespace RarityTier

/-- The place of a tier, the commonest at zero. -/
def rank : RarityTier → Nat
  | .normal => 0
  | .rare => 1
  | .legendary => 2

variable {count : Nat} {quality diversity : Float}

theorem classify_eq_legendary_iff :
    classify count quality diversity = .legendary ↔
      6 ≤ count ∧ 0.9 < quality ∧ 0.7 < diversity := by
  unfold classify
  split
  · rename_i high
    simpa [and_assoc] using high
  · rename_i low
    refine iff_of_false (fun same => ?_) (by simpa [and_assoc] using low)
    split at same <;> cases same

theorem classify_eq_rare_iff :
    classify count quality diversity = .rare ↔
      ¬ (6 ≤ count ∧ 0.9 < quality ∧ 0.7 < diversity) ∧
        4 ≤ count ∧ 0.8 < quality ∧ 0.5 < diversity := by
  rw [← classify_eq_legendary_iff]
  unfold classify
  split
  · simp
  · split
    · rename_i middling
      simpa [and_assoc] using middling
    · rename_i low
      simpa [and_assoc] using low

/-- **More hops never lower a tier** where quality and diversity stay as they are. -/
theorem rank_classify_le {more : Nat} (le : count ≤ more) (quality diversity : Float) :
    (classify count quality diversity).rank ≤ (classify more quality diversity).rank := by
  cases tier : classify count quality diversity with
  | normal => exact Nat.zero_le _
  | rare =>
    obtain ⟨_, enough, good, diverse⟩ := classify_eq_rare_iff.mp tier
    by_cases high : 6 ≤ more ∧ 0.9 < quality ∧ 0.7 < diversity
    · rw [classify_eq_legendary_iff.mpr high]
      decide
    · rw [classify_eq_rare_iff.mpr ⟨high, Nat.le_trans enough le, good, diverse⟩]
  | legendary =>
    obtain ⟨enough, good, diverse⟩ := classify_eq_legendary_iff.mp tier
    rw [classify_eq_legendary_iff.mpr ⟨Nat.le_trans enough le, good, diverse⟩]

end RarityTier

/-! ### Scores -/

/-- The providers of the successful records. -/
def successfulProviders (hops : List HopRecord) : List String :=
  (hops.filter HopRecord.succeeded).map HopRecord.provider

section Scores

variable {catalog : Catalog} {hops others before after : List HopRecord} {failed : HopRecord}

/-- **A score depends** on the providers of the successful records alone. -/
theorem score_eq_of_providers (same : successfulProviders hops = successfulProviders others)
    (catalog : Catalog) : score hops catalog = score others catalog := by
  unfold successfulProviders at same
  unfold score
  rw [same]

theorem score_insert_failed (isFailed : failed.succeeded = false) (catalog : Catalog) :
    score (before ++ failed :: after) catalog = score (before ++ after) catalog := by
  refine score_eq_of_providers ?_ catalog
  unfold successfulProviders
  rw [List.filter_append, List.filter_cons_of_neg (by simp [isFailed]), ← List.filter_append]

/-- What a score looks at is told by the provider and the success of each record. -/
theorem successfulProviders_congr
    (same : List.Forall₂ (fun hop other : HopRecord =>
      hop.provider = other.provider ∧ hop.succeeded = other.succeeded) hops others) :
    successfulProviders hops = successfulProviders others := by
  unfold successfulProviders
  induction same with
  | nil => rfl
  | cons alike _ hypothesis =>
    rw [List.filter_cons, List.filter_cons, alike.2]
    split
    · rw [List.map_cons, List.map_cons, alike.1, hypothesis]
    · exact hypothesis

theorem successfulProviders_perm (same : hops.Perm others) :
    (successfulProviders hops).Perm (successfulProviders others) :=
  (same.filter _).map _

theorem score_of_none (nothing : (successfulProviders hops).length = 0) (catalog : Catalog) :
    score hops catalog = { quality := 0.0, diversity := 0.0, tier := .normal } := by
  unfold successfulProviders at nothing
  unfold score
  rw [if_pos nothing]

theorem score_of_some (someHop : 0 < (successfulProviders hops).length) (catalog : Catalog) :
    (score hops catalog).quality =
        ((successfulProviders hops).map catalog.qualityOf).foldl (· + ·) (-0.0) /
          Float.ofNat (successfulProviders hops).length ∧
      (score hops catalog).diversity =
        Float.ofNat (distinctCount (successfulProviders hops)) /
          Float.ofNat (successfulProviders hops).length := by
  have notNone := Nat.pos_iff_ne_zero.mp someHop
  unfold successfulProviders at notNone
  unfold score
  rw [if_neg notNone]
  exact ⟨rfl, rfl⟩

/-- The tier is that of quality and diversity, also where there is nothing to score. -/
theorem score_tier (hops : List HopRecord) (catalog : Catalog) :
    (score hops catalog).tier = .classify (hops.filter HopRecord.succeeded).length
      (score hops catalog).quality (score hops catalog).diversity := by
  unfold score
  dsimp only
  rw [List.length_map]
  split
  · -- without a success the score is the one that nothing has, of the commonest tier
    rename_i none
    rw [none]
    rfl
  · rfl

end Scores

/-- **A score is one of the successful providers.** Failed records neither add to it nor take from
it, and of the others only the providers matter. Without a success all is zero. Else the diversity
is the share of distinct providers, which does not depend on the order of the records and is full
exactly where no provider comes twice; the quality is the mean of what the catalog tells of each
provider in order, nothing for one that it does not have. The tier follows from both and the number
of successes, and more successes never lower it. -/
theorem scored_by_successes (hops : List HopRecord) (catalog : Catalog) :
    (∀ before failed after, failed.succeeded = false →
      score (before ++ failed :: after) catalog = score (before ++ after) catalog) ∧
    (∀ others, List.Forall₂ (fun hop other : HopRecord =>
        hop.provider = other.provider ∧ hop.succeeded = other.succeeded) hops others →
      score others catalog = score hops catalog) ∧
    ((hops.filter HopRecord.succeeded).length = 0 →
      score hops catalog = { quality := 0.0, diversity := 0.0, tier := .normal }) ∧
    (∀ count, (hops.filter HopRecord.succeeded).length = count → 0 < count →
      ∃ distinct, (successfulProviders hops).toFinset.card = distinct ∧
        1 ≤ distinct ∧ distinct ≤ count ∧
        (distinct = count ↔ (successfulProviders hops).Nodup) ∧
        (score hops catalog).diversity = Float.ofNat distinct / Float.ofNat count ∧
        (score hops catalog).quality =
          ((successfulProviders hops).map catalog.qualityOf).foldl (· + ·) (-0.0) /
            Float.ofNat count) ∧
    (∀ others, hops.Perm others →
      (successfulProviders others).toFinset.card = (successfulProviders hops).toFinset.card) ∧
    (∀ id provider, catalog.lookup id = .ok provider →
      catalog.qualityOf id = provider.quality) ∧
    (∀ id, catalog.contains id = false → catalog.qualityOf id = 0.0) ∧
    (score hops catalog).tier = .classify (hops.filter HopRecord.succeeded).length
      (score hops catalog).quality (score hops catalog).diversity ∧
    ∀ count quality diversity,
      (RarityTier.classify count quality diversity = .legendary ↔
        6 ≤ count ∧ 0.9 < quality ∧ 0.7 < diversity) ∧
      (RarityTier.classify count quality diversity = .rare ↔
        ¬ (6 ≤ count ∧ 0.9 < quality ∧ 0.7 < diversity) ∧
          4 ≤ count ∧ 0.8 < quality ∧ 0.5 < diversity) ∧
      ∀ more, count ≤ more →
        (RarityTier.classify count quality diversity).rank ≤
          (RarityTier.classify more quality diversity).rank := by
  have length : (hops.filter HopRecord.succeeded).length = (successfulProviders hops).length :=
    (List.length_map _).symm
  refine ⟨fun before failed after isFailed => score_insert_failed isFailed catalog,
    fun others same => (score_eq_of_providers (successfulProviders_congr same) catalog).symm,
    fun nothing => score_of_none (length ▸ nothing) catalog, fun count isCount someHop => ?_,
    fun others same => ?_, fun id provider => Catalog.qualityOf_of_lookup,
    fun id => Catalog.qualityOf_of_unknown, score_tier hops catalog,
    fun count quality diversity => ⟨RarityTier.classify_eq_legendary_iff,
      RarityTier.classify_eq_rare_iff, fun more le => RarityTier.rank_classify_le le _ _⟩⟩
  · rw [length] at isCount
    subst isCount
    obtain ⟨quality, diversity⟩ := score_of_some someHop catalog
    exact ⟨_, (distinctCount_eq_card _).symm, distinctCount_pos someHop, distinctCount_le_length,
      distinctCount_eq_length_iff, diversity, quality⟩
  · rw [← distinctCount_eq_card, ← distinctCount_eq_card]
    exact (distinctCount_perm (successfulProviders_perm same)).symm

/-- One provider has answered twice, and failed between. -/
theorem scored_by_successes_twice :
    let llama : Provider := { id := "llama", displayName := "Llama", kind := .localServer }
    let answered : HopRecord := .success 0 "llama" "Who is there?" ⟨"It is I.", 4, 0.1⟩ 5
    let failed : HopRecord := .failure 1 "llama" "Who is there?" (.timeout 5) 5
    ∃ catalog, Catalog.ofList [llama] = .ok catalog ∧
      score ([answered] ++ failed :: [answered]) catalog = score [answered, answered] catalog ∧
      score [{ answered with prompt := "Who?" }] catalog = score [answered] catalog ∧
      score [failed] catalog = {} ∧
      (score [answered, answered] catalog).diversity = Float.ofNat 1 / Float.ofNat 2 ∧
      catalog.qualityOf "llama" = 0.5 ∧ catalog.qualityOf "gpt" = 0.0 := by
  intro llama answered failed
  obtain ⟨catalog, isCatalog⟩ := Catalog.exists_ofList_iff.mpr
    (show Catalog.IsFit [llama] from ⟨by decide +kernel, by decide⟩)
  have listed : catalog.providers = [llama] := (Catalog.ofList_eq_ok_iff.mp isCatalog).2
  obtain ⟨_, _, _, shares, _, known, unknown, _⟩ := scored_by_successes [answered, answered] catalog
  obtain ⟨distinct, card, _, _, _, diversity, _⟩ := shares 2 rfl (by decide)
  refine ⟨catalog, isCatalog, (scored_by_successes [] catalog).1 _ _ _ rfl,
    (scored_by_successes [answered] catalog).2.1 _ (.cons ⟨rfl, rfl⟩ .nil),
    (scored_by_successes [failed] catalog).2.2.1 rfl, ?_, ?_, ?_⟩
  · rw [diversity, ← card]
    rfl
  · exact known "llama" llama (Catalog.lookup_eq_ok_iff.mpr
      (Catalog.find?_eq_some_iff.mpr ⟨by rw [listed]; simp, rfl⟩))
  · refine unknown "gpt" (Bool.eq_false_iff.mpr (mt Catalog.contains_iff.mp ?_))
    rw [listed]
    decide

end PromptRelay
