/-
**Records in the order of the pattern.**

Records arrive in any order and are sorted by their indices. Where no index comes twice there is one
such order, whatever the order of arrival was.

* `Increasing`: records with strictly increasing indices;
* `sortRecords_eq_of_perm`: sorting any arrangement of increasing records gives these.
-/

import PromptRelay.Chain.Basic

namespace PromptRelay

namespace Chain

/-- Records with strictly increasing indices. -/
def Increasing (hops : List HopRecord) : Prop :=
  hops.Pairwise fun first second => first.index < second.index

theorem increasing_iff (hops : List HopRecord) :
    Increasing hops ↔ (hops.map HopRecord.index).Pairwise (· < ·) :=
  List.pairwise_map.symm

/-- Among increasing records each index stands for one. -/
theorem Increasing.eq_of_index_eq {hops : List HopRecord} (increasing : Increasing hops)
    {first second : HopRecord} (firstMember : first ∈ hops) (secondMember : second ∈ hops)
    (same : first.index = second.index) : first = second := by
  induction hops with
  | nil => cases firstMember
  | cons hop hops hypothesis =>
    obtain ⟨least, rest⟩ := List.pairwise_cons.mp increasing
    rcases List.mem_cons.mp firstMember with rfl | firstLater
    · rcases List.mem_cons.mp secondMember with rfl | secondLater
      · rfl
      · exact absurd same (Nat.ne_of_lt (least second secondLater))
    · rcases List.mem_cons.mp secondMember with rfl | secondLater
      · exact absurd same.symm (Nat.ne_of_lt (least first firstLater))
      · exact hypothesis rest firstLater secondLater

theorem sortRecords_perm (hops : List HopRecord) : (sortRecords hops).Perm hops :=
  List.mergeSort_perm hops _

theorem sortRecords_sorted (hops : List HopRecord) :
    (sortRecords hops).Pairwise fun first second => first.index ≤ second.index := by
  have sorted : (sortRecords hops).Pairwise fun first second =>
      decide (first.index ≤ second.index) = true :=
    List.pairwise_mergeSort (fun first second third => by simpa using Nat.le_trans)
      (fun first second => by simpa using Nat.le_total first.index second.index) hops
  exact sorted.imp fun ordered => of_decide_eq_true ordered

/-- **One order**: any arrangement of increasing records is sorted into these. -/
theorem sortRecords_eq_of_perm {hops ordered : List HopRecord} (arranged : hops.Perm ordered)
    (increasing : Increasing ordered) : sortRecords hops = ordered := by
  have same : (sortRecords hops).Perm ordered := (sortRecords_perm hops).trans arranged
  refine same.eq_of_pairwise ?_ (sortRecords_sorted hops) (increasing.imp Nat.le_of_lt)
  intro first second member otherMember forward backward
  exact increasing.eq_of_index_eq (same.mem_iff.mp member) otherMember
    (Nat.le_antisymm forward backward)

theorem sortRecords_of_increasing {hops : List HopRecord} (increasing : Increasing hops) :
    sortRecords hops = hops :=
  sortRecords_eq_of_perm (List.Perm.refl hops) increasing

end Chain

end PromptRelay
