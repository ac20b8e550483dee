/-
**Where a run of all hops at once lands.**

All hops are launched, those that need no time have ended by then, and the others land in the order
of their ends. In whatever order they land, the records are the same in the end: those of the hops
that end before the time limit, and of one turn of those that end with it.

* `Flight.inTime_perm`: the hops that are taken before the time limit, up to their order;
* `Flight.lands`: the hops that are recorded, `Flight.arrivals_perm` says that these arrive;
* `Flight.AllLand`, `Flight.someoneLeft_iff`: the time limit leaves no hop out, and else it does.
-/

import Mathlib.Data.List.SplitBy
import PromptRelay.Proofs.Run.Passage

namespace PromptRelay

open scoped List

namespace Flight

/-! ### The order of landing -/

theorem inTurns_perm (flights : List Flight) : (inTurns flights).Perm flights := by
  induction flights using inTurns.induct with
  | case1 flights few =>
    unfold inTurns
    rw [if_pos few]
  | case2 flights many hypothesis =>
    unfold inTurns
    rw [if_neg many]
    have rest := (hypothesis.trans (List.reverse_perm _)).append_left (flights.take turnSize)
    rwa [List.take_append_drop] at rest

theorem inOrderOfEnd_perm (flights : List Flight) : (inOrderOfEnd flights).Perm flights := by
  unfold inOrderOfEnd
  have turns : ∀ groups : List (List Flight), (groups.flatMap inTurns).Perm groups.flatten := by
    intro groups
    induction groups with
    | nil => exact List.Perm.refl []
    | cons group groups hypothesis =>
      rw [List.flatMap_cons, List.flatten_cons]
      exact (inTurns_perm group).append hypothesis
  refine (turns _).trans ?_
  rw [List.flatten_splitBy]
  exact List.mergeSort_perm _ _

/-- Before the time limit stops the run it takes the hops that end before the limit, and one turn of
those that end with it. -/
theorem inTime_perm (limit : Nat) (flights : List Flight) :
    (inTime limit flights).Perm
      ((flights.filter fun flight => flight.seen.delay < limit) ++
        (flights.filter fun flight => flight.seen.delay = limit).take turnSize) :=
  (inOrderOfEnd_perm _).append_right _

/-- The hops that end with the time limit, as they stand in line. -/
def atLimit (limit : Nat) (turn : Turn) (flights : List Flight) : List Flight :=
  inLine turn (flights.filter fun flight => flight.seen.delay = limit)

/-- The hops that a flight launches but does not end at once, as they stand in line. -/
def waiting (turn : Turn) (flights : List Flight) : List Flight :=
  inLine turn (flights.filter fun flight => !flight.isInstant)

theorem inLine_perm (turn : Turn) (flights : List Flight) :
    (inLine turn flights).Perm flights := by
  cases turn with
  | free => exact List.Perm.refl flights
  | full => exact List.reverse_perm flights

theorem filter_inLine (turn : Turn) (flights : List Flight) (chosen : Flight → Bool) :
    (inLine turn flights).filter chosen = inLine turn (flights.filter chosen) := by
  cases turn with
  | free => rfl
  | full => exact List.filter_reverse

/-! ### The hops that are recorded -/

/-- The hops that end as they start, and those that land before the time limit stops the run, as
they arrive. -/
def arrivals (limit : Nat) (turn : Turn) (flights : List Flight) : List Flight :=
  flights.filter isInstant ++ inTime limit (waiting turn flights)

/-- The hop is recorded: it ends before the time limit, or with it and within one turn. -/
def lands (limit : Nat) (turn : Turn) (flights : List Flight) (flight : Flight) : Bool :=
  flight.seen.delay < limit || (flight.seen.delay = limit &&
    flight.call.index ∈ ((atLimit limit turn flights).take turnSize).map (·.call.index))

/-- The time limit leaves no hop out: none ends after it, and no more end with it than a turn
takes. -/
def AllLand (limit : Nat) (flights : List Flight) : Prop :=
  (∀ flight ∈ flights, flight.seen.delay ≤ limit) ∧ endingAt limit flights ≤ turnSize

section Recorded

variable {limit : Nat} {turn : Turn} {providers : List String} {flights : List Flight}

theorem waiting_filter_lt (limit : Nat) (turn : Turn) (flights : List Flight) :
    ((waiting turn flights).filter fun flight => flight.seen.delay < limit) =
      inLine turn ((flights.filter fun flight => flight.seen.delay < limit).filter
        fun flight => !flight.isInstant) := by
  unfold waiting
  rw [filter_inLine, List.filter_filter, List.filter_filter]
  apply congrArg (inLine turn)
  apply List.filter_congr
  intro flight _
  exact Bool.and_comm _ _

theorem waiting_filter_eq (positive : 0 < limit) (turn : Turn) (flights : List Flight) :
    ((waiting turn flights).filter fun flight => flight.seen.delay = limit) =
      atLimit limit turn flights := by
  unfold waiting atLimit
  rw [filter_inLine, List.filter_filter]
  apply congrArg (inLine turn)
  apply List.filter_congr
  intro flight _
  unfold isInstant
  by_cases ends : flight.seen.delay = limit
  · simp [ends, Nat.ne_of_gt positive]
  · simp [ends]

/-- Those arrive that end before the limit, and one turn of those that end with it. -/
theorem arrivals_perm_append (positive : 0 < limit) (turn : Turn) (flights : List Flight) :
    (arrivals limit turn flights).Perm
      ((flights.filter fun flight => flight.seen.delay < limit) ++
        (atLimit limit turn flights).take turnSize) := by
  have instant : flights.filter isInstant =
      (flights.filter fun flight => flight.seen.delay < limit).filter isInstant := by
    rw [List.filter_filter]
    apply List.filter_congr
    intro flight _
    unfold isInstant
    by_cases now : flight.seen.delay = 0
    · simp [now, positive]
    · simp [now]
  have landing := inTime_perm limit (waiting turn flights)
  rw [waiting_filter_lt, waiting_filter_eq positive] at landing
  unfold arrivals
  rw [instant]
  refine (landing.append_left _).trans ?_
  rw [← List.append_assoc]
  refine List.Perm.append_right _ ?_
  exact ((inLine_perm turn _).append_left _).trans (List.filter_append_perm _ _)

theorem mem_take_atLimit {flight : Flight}
    (member : flight ∈ (atLimit limit turn flights).take turnSize) :
    flight ∈ flights ∧ flight.seen.delay = limit := by
  have inside := (inLine_perm turn _).mem_iff.mp (List.mem_of_mem_take member)
  exact ⟨List.mem_of_mem_filter inside, of_decide_eq_true (List.mem_filter.mp inside).2⟩

/-- Of the recorded hops those end before the limit that do so of all hops. -/
theorem filter_lands_lt (limit : Nat) (turn : Turn) (flights : List Flight) :
    ((flights.filter (lands limit turn flights)).filter fun flight => flight.seen.delay < limit) =
      flights.filter fun flight => flight.seen.delay < limit := by
  rw [List.filter_filter]
  apply List.filter_congr
  intro flight _
  unfold lands
  by_cases before : flight.seen.delay < limit <;> simp [before]

/-- The other recorded hops are the first turn of those that end with the limit. -/
theorem take_atLimit_perm (turn : Turn) (numbered : Numbered providers flights) :
    ((atLimit limit turn flights).take turnSize).Perm
      ((flights.filter (lands limit turn flights)).filter
        fun flight => !decide (flight.seen.delay < limit)) := by
  have nodupLine : (atLimit limit turn flights).Nodup :=
    (inLine_perm turn _).nodup_iff.mpr (numbered.nodup.filter _)
  rw [List.perm_ext_iff_of_nodup (nodupLine.sublist (List.take_sublist _ _))
    ((numbered.nodup.filter _).filter _)]
  intro flight
  rw [List.mem_filter, List.mem_filter]
  constructor
  · intro member
    obtain ⟨inside, ends⟩ := mem_take_atLimit member
    refine ⟨⟨inside, ?_⟩, by simp [ends]⟩
    unfold lands
    simp only [ends, Nat.lt_irrefl, decide_false, Bool.false_or, decide_true, Bool.true_and]
    exact decide_eq_true (List.mem_map_of_mem member)
  · rintro ⟨⟨inside, recorded⟩, notEarly⟩
    unfold lands at recorded
    rw [Bool.not_eq_true'] at notEarly
    rw [notEarly, Bool.false_or, Bool.and_eq_true, decide_eq_true_iff, decide_eq_true_iff]
      at recorded
    -- the indices of the line are looked at, and each stands for one hop
    obtain ⟨other, member, same⟩ := List.mem_map.mp recorded.2
    rw [numbered.eq_of_index_eq inside (mem_take_atLimit member).1 same.symm]
    exact member

/-- **Those arrive that are recorded**, each once. -/
theorem arrivals_perm (positive : 0 < limit) (turn : Turn)
    (numbered : Numbered providers flights) :
    (arrivals limit turn flights).Perm (flights.filter (lands limit turn flights)) :=
  let recorded := flights.filter (lands limit turn flights)
  calc arrivals limit turn flights
    _ ~ (flights.filter fun flight => flight.seen.delay < limit) ++
          (atLimit limit turn flights).take turnSize := arrivals_perm_append positive turn flights
    _ = (recorded.filter fun flight => flight.seen.delay < limit) ++
          (atLimit limit turn flights).take turnSize := by rw [filter_lands_lt]
    _ ~ (recorded.filter fun flight => flight.seen.delay < limit) ++
          recorded.filter fun flight => !decide (flight.seen.delay < limit) :=
      (take_atLimit_perm turn numbered).append_left _
    _ ~ recorded := List.filter_append_perm _ _

theorem mem_of_mem_arrivals (positive : 0 < limit) {turn : Turn}
    (numbered : Numbered providers flights) {flight : Flight}
    (member : flight ∈ arrivals limit turn flights) : flight ∈ flights :=
  List.mem_of_mem_filter ((arrivals_perm positive turn numbered).mem_iff.mp member)

/-- No hop arrives twice. -/
theorem nodup_arrivals (positive : 0 < limit) (turn : Turn)
    (numbered : Numbered providers flights) :
    ((arrivals limit turn flights).map fun flight => flight.call.index).Nodup := by
  rw [((arrivals_perm positive turn numbered).map _).nodup_iff]
  refine List.Nodup.sublist (List.filter_sublist.map _) ?_
  rw [numbered.map_call_index]
  exact List.nodup_range

/-! ### The hops that are left out -/

/-- Each hop ends before the limit, with it or after it. -/
theorem length_eq_add (limit : Nat) (flights : List Flight) :
    flights.length = (flights.countP fun flight => flight.seen.delay < limit) +
      endingAt limit flights + flights.countP fun flight => limit < flight.seen.delay := by
  unfold endingAt
  induction flights with
  | nil => rfl
  | cons flight flights hypothesis =>
    simp only [List.length_cons, List.countP_cons, decide_eq_true_eq, hypothesis]
    rcases Nat.lt_trichotomy flight.seen.delay limit with before | ends | after
    · simp only [before, Nat.ne_of_lt before, Nat.lt_asymm before, if_true, if_false]
      omega
    · simp only [ends, Nat.lt_irrefl, if_true, if_false]
      omega
    · simp only [after, Nat.ne_of_gt after, Nat.lt_asymm after, if_true, if_false]
      omega

theorem length_arrivals (positive : 0 < limit) (turn : Turn) (flights : List Flight) :
    (arrivals limit turn flights).length =
      (flights.countP fun flight => flight.seen.delay < limit) +
        min turnSize (endingAt limit flights) := by
  rw [(arrivals_perm_append positive turn flights).length_eq, List.length_append,
    List.length_take, ← List.countP_eq_length_filter]
  unfold atLimit endingAt
  rw [(inLine_perm turn _).length_eq, ← List.countP_eq_length_filter]

theorem length_eq_add_waiting (turn : Turn) (flights : List Flight) :
    flights.length = (flights.filter isInstant).length + (waiting turn flights).length := by
  unfold waiting
  rw [(inLine_perm turn _).length_eq, ← List.length_append,
    (List.filter_append_perm isInstant flights).length_eq]

/-- **The time limit leaves a hop out** when one ends after it, or more end with it than a turn
takes. -/
theorem someoneLeft_iff (positive : 0 < limit) (turn : Turn) (flights : List Flight) :
    (inTime limit (waiting turn flights)).length < (waiting turn flights).length ↔
      ¬ AllLand limit flights := by
  have none : (∀ flight ∈ flights, flight.seen.delay ≤ limit) ↔
      (flights.countP fun flight => limit < flight.seen.delay) = 0 := by
    simp [List.countP_eq_zero]
  have arrived := length_arrivals positive turn flights
  unfold arrivals at arrived
  rw [List.length_append] at arrived
  have all := length_eq_add limit flights
  have launched := length_eq_add_waiting turn flights
  unfold AllLand
  rw [none]
  -- the hops are counted twice: by when they end, and by whether they wait
  omega

theorem length_filter_lands (positive : 0 < limit) (turn : Turn)
    (numbered : Numbered providers flights) :
    (flights.filter (lands limit turn flights)).length = (flights.filter isInstant).length +
      (inTime limit (waiting turn flights)).length := by
  rw [← (arrivals_perm positive turn numbered).length_eq]
  exact List.length_append

/-- Where the time limit leaves a hop out, one is not recorded. -/
theorem exists_not_lands (positive : 0 < limit) (turn : Turn)
    (numbered : Numbered providers flights) (left : ¬ AllLand limit flights) :
    ∃ flight ∈ flights, ¬ lands limit turn flights flight := by
  have someone := (someoneLeft_iff positive turn flights).mpr left
  refine List.length_filter_lt_length_iff_exists.mp ?_
  rw [length_filter_lands positive turn numbered, length_eq_add_waiting turn flights]
  omega

/-- All hops are recorded where the time limit leaves none out. -/
theorem filter_lands_of_allLand (positive : 0 < limit) (numbered : Numbered providers flights)
    (all : AllLand limit flights) : flights.filter (lands limit turn flights) = flights := by
  refine (List.filter_sublist).eq_of_length_le ?_
  have nobody := mt (someoneLeft_iff positive turn flights).mp (not_not_intro all)
  rw [length_filter_lands positive turn numbered, length_eq_add_waiting turn flights]
  omega

/-- The time limit leaves a hop out when the index of one is missing among those that arrive. -/
theorem exists_not_mem_arrivals_iff (positive : 0 < limit) (turn : Turn)
    (numbered : Numbered providers flights) :
    (∃ index < flights.length,
        index ∉ (arrivals limit turn flights).map fun flight => flight.call.index) ↔
      ¬ AllLand limit flights := by
  have arrive := arrivals_perm positive turn numbered
  constructor
  · rintro ⟨index, inside, missing⟩ all
    rw [filter_lands_of_allLand positive numbered all] at arrive
    rw [(arrive.map _).mem_iff, numbered.map_call_index, List.mem_range] at missing
    exact missing inside
  · intro left
    obtain ⟨flight, member, lost⟩ := exists_not_lands positive turn numbered left
    refine ⟨flight.call.index, numbered.index_lt member, fun arrived => ?_⟩
    obtain ⟨other, there, same⟩ := List.mem_map.mp arrived
    obtain ⟨otherMember, lands⟩ := List.mem_filter.mp (arrive.mem_iff.mp there)
    rw [numbered.eq_of_index_eq otherMember member same] at lands
    exact lost lands

/-- Where no more hops end with the limit than a turn takes, those are recorded that do not end
after it. -/
theorem lands_of_few (few : endingAt limit flights ≤ turnSize) {flight : Flight}
    (member : flight ∈ flights) :
    lands limit turn flights flight = decide (flight.seen.delay ≤ limit) := by
  have whole : (atLimit limit turn flights).take turnSize = atLimit limit turn flights := by
    refine List.take_of_length_le ?_
    unfold atLimit
    rw [(inLine_perm turn _).length_eq, ← List.countP_eq_length_filter]
    exact few
  unfold lands
  rw [whole]
  rcases Nat.lt_trichotomy flight.seen.delay limit with before | ends | after
  · simp [before, Nat.le_of_lt before]
  · have inside : flight ∈ atLimit limit turn flights := by
      refine (inLine_perm turn _).mem_iff.mpr (List.mem_filter.mpr ⟨member, ?_⟩)
      exact decide_eq_true ends
    simp only [ends, Nat.lt_irrefl, decide_false, Bool.false_or, decide_true, Bool.true_and,
      Nat.le_refl]
    exact decide_eq_true (List.mem_map_of_mem inside)
  · simp [Nat.lt_asymm after, Nat.ne_of_gt after, Nat.not_le_of_gt after]

end Recorded

end Flight

end PromptRelay
