/-
**Hops that pass through a run.**

While the chain is running each hop that ends is told of and recorded. What is left of it is its
record and the word of its start and its end.

* `Flight.record`, `Flight.departure`, `Flight.arrival`: the record and the two events of a hop;
* `Flight.Numbered`: hops that bear the indices of a pattern's providers;
* `Progress.settled`, `Progress.settle_of_running`: a running chain records what came of a hop;
* `Progress.through`: where a run stands after hops that ran one after the other, and
  `Progress.pass_eq_through`: one hop after the other leads there.
-/

import Mathlib.Algebra.GroupWithZero.Nat
import PromptRelay.Proofs.Chain.Life
import PromptRelay.Proofs.Chain.Order
import PromptRelay.Run.Parallel

namespace PromptRelay

namespace HopRecord

/-! ### Records of what came of a hop -/

/-- The word that a hop has ended with this record. -/
def arrival (record : HopRecord) : Event :=
  .hopCompleted record.index record.provider record.succeeded record.cost record.duration

variable {index : Nat} {provider prompt : String} {result : Except HopError HopOutput}
  {duration : Nat}

@[simp]
theorem ofResult_index : (ofResult index provider prompt result duration).index = index := by
  cases result <;> rfl

@[simp]
theorem ofResult_provider :
    (ofResult index provider prompt result duration).provider = provider := by
  cases result <;> rfl

@[simp]
theorem ofResult_prompt : (ofResult index provider prompt result duration).prompt = prompt := by
  cases result <;> rfl

@[simp]
theorem ofResult_duration :
    (ofResult index provider prompt result duration).duration = duration := by
  cases result <;> rfl

theorem ofResult_succeeded_iff :
    (ofResult index provider prompt result duration).succeeded = true ↔
      ∃ output, result = .ok output := by
  cases result with
  | error error => simp [ofResult, failure]
  | ok output => simp [ofResult, success]

end HopRecord

namespace Event

/-- The index of the hop whose start is told. -/
def startedIndex? : Event → Option Nat
  | .hopStarted index _ => some index
  | _ => none

/-- The index of the hop whose end is told. -/
def completedIndex? : Event → Option Nat
  | .hopCompleted index .. => some index
  | _ => none

/-- The word that a hop is under way. -/
def isHopStarted : Event → Bool
  | .hopStarted .. => true
  | _ => false

/-- The word that a hop has ended. -/
def isHopCompleted : Event → Bool
  | .hopCompleted .. => true
  | _ => false

/-- The word that the budget is exceeded. -/
def isBudgetExceeded : Event → Bool
  | .budgetExceeded .. => true
  | _ => false

/-- Indices are read off the words of started hops alone. -/
theorem filterMap_startedIndex? (events : List Event) :
    events.filterMap startedIndex? = (events.filter isHopStarted).filterMap startedIndex? := by
  rw [List.filterMap_filter]
  apply congrArg fun reading => events.filterMap reading
  funext event
  cases event <;> rfl

theorem filterMap_completedIndex? (events : List Event) :
    events.filterMap completedIndex? =
      (events.filter isHopCompleted).filterMap completedIndex? := by
  rw [List.filterMap_filter]
  apply congrArg fun reading => events.filterMap reading
  funext event
  cases event <;> rfl

end Event

namespace Flight

/-- What the chain keeps of the hop. -/
def record (flight : Flight) : HopRecord :=
  Progress.recordOf flight.call flight.seen

/-- The word that the hop is under way. -/
def departure (flight : Flight) : Event :=
  .hopStarted flight.call.index flight.call.provider

/-- The word of what came of the hop. -/
def arrival (flight : Flight) : Event :=
  .hopCompleted flight.call.index flight.call.provider flight.record.succeeded flight.record.cost
    flight.record.duration

variable (flight : Flight)

@[simp]
theorem record_index : flight.record.index = flight.call.index :=
  HopRecord.ofResult_index

@[simp]
theorem record_provider : flight.record.provider = flight.call.provider :=
  HopRecord.ofResult_provider

@[simp]
theorem record_prompt : flight.record.prompt = flight.call.prompt :=
  HopRecord.ofResult_prompt

@[simp]
theorem record_duration : flight.record.duration = flight.seen.delay :=
  HopRecord.ofResult_duration

theorem record_succeeded_iff :
    flight.record.succeeded = true ↔ ∃ output, flight.seen.result = .ok output :=
  HopRecord.ofResult_succeeded_iff

/-- What is told of a hop's end is what is recorded of it. -/
theorem arrival_eq : flight.arrival = flight.record.arrival := by
  unfold arrival HopRecord.arrival
  rw [record_index, record_provider]

theorem map_arrival (flights : List Flight) :
    flights.map arrival = (flights.map record).map HopRecord.arrival := by
  rw [List.map_map]
  exact List.map_congr_left fun flight _ => flight.arrival_eq

/-- The indices of hops that are told to be under way. -/
theorem filterMap_departures (flights : List Flight) :
    (flights.map departure).filterMap Event.startedIndex? =
      flights.map fun flight => flight.call.index := by
  rw [List.filterMap_map]
  show flights.filterMap (some ∘ fun flight => flight.call.index) = _
  rw [List.filterMap_eq_map]

theorem filterMap_arrivals (flights : List Flight) :
    (flights.map arrival).filterMap Event.completedIndex? =
      flights.map fun flight => flight.call.index := by
  rw [List.filterMap_map]
  show flights.filterMap (some ∘ fun flight => flight.call.index) = _
  rw [List.filterMap_eq_map]

variable {flight}

theorem record_succeeded_of_ok {output : HopOutput} (answered : flight.seen.result = .ok output) :
    flight.record.succeeded = true :=
  flight.record_succeeded_iff.mpr ⟨output, answered⟩

/-- A hop with an error failed, for the reason that the error gives. -/
theorem record_of_error {error : HopError} (refused : flight.seen.result = .error error) :
    flight.record = .failure flight.call.index flight.call.provider flight.call.prompt error
      flight.seen.delay := by
  unfold record Progress.recordOf HopRecord.ofResult
  rw [refused]

/-! ### Hops by their indices -/

theorem getElem?_of_begins {first whole : List Flight} (begins : first <+: whole) {place : Nat}
    {flight : Flight} (found : first[place]? = some flight) : whole[place]? = some flight := by
  obtain ⟨rest, rfl⟩ := begins
  rw [List.getElem?_append_left (List.getElem?_eq_some_iff.mp found).1]
  exact found

theorem take_of_begins {first whole : List Flight} (begins : first <+: whole) {place : Nat}
    (inside : place < first.length) : first.take (place + 1) = whole.take (place + 1) := by
  obtain ⟨rest, rfl⟩ := begins
  exact (List.take_append_of_le_length inside).symm

/-- Hops each of which has its place as its index, and the provider of this place. -/
def Numbered (providers : List String) (flights : List Flight) : Prop :=
  ∀ (place : Nat) (flight : Flight), flights[place]? = some flight →
    flight.call.index = place ∧ providers[place]? = some flight.call.provider

namespace Numbered

variable {providers : List String} {flights : List Flight}

theorem of_prefix {first : List Flight} (numbered : Numbered providers flights)
    (begins : first <+: flights) : Numbered providers first := by
  intro place flight found
  exact numbered place flight (getElem?_of_begins begins found)

/-- The index of a hop is its place. -/
theorem getElem?_index (numbered : Numbered providers flights) {flight : Flight}
    (member : flight ∈ flights) : flights[flight.call.index]? = some flight := by
  obtain ⟨place, found⟩ := List.mem_iff_getElem?.mp member
  rw [(numbered place flight found).1]
  exact found

theorem index_lt (numbered : Numbered providers flights) {flight : Flight}
    (member : flight ∈ flights) : flight.call.index < flights.length :=
  (List.getElem?_eq_some_iff.mp (numbered.getElem?_index member)).1

theorem map_index (numbered : Numbered providers flights) :
    (flights.map Flight.record).map HopRecord.index = List.range flights.length := by
  apply List.ext_getElem?
  intro place
  rw [List.map_map, List.getElem?_map]
  cases found : flights[place]? with
  | none =>
    rw [List.getElem?_eq_none (by simpa using found)]
    rfl
  | some flight =>
    rw [List.getElem?_range (List.getElem?_eq_some_iff.mp found).1]
    simp [(numbered place flight found).1]

theorem map_call_index (numbered : Numbered providers flights) :
    (flights.map fun flight => flight.call.index) = List.range flights.length := by
  rw [← numbered.map_index, List.map_map]
  exact List.map_congr_left fun flight _ => flight.record_index.symm

/-- Hops of all providers start in the order of the pattern. -/
theorem map_departure (numbered : Numbered providers flights)
    (length : flights.length = providers.length) :
    flights.map departure =
      providers.mapIdx fun index provider => .hopStarted index provider := by
  apply List.ext_getElem?
  intro place
  rw [List.getElem?_map, List.getElem?_mapIdx]
  cases found : flights[place]? with
  | none =>
    rw [List.getElem?_eq_none_iff, length, ← List.getElem?_eq_none_iff] at found
    rw [found]
    rfl
  | some flight =>
    obtain ⟨index, named⟩ := numbered place flight found
    rw [named, ← index]
    rfl

/-- The records are in the order of the pattern. -/
theorem increasing (numbered : Numbered providers flights) :
    Chain.Increasing (flights.map Flight.record) := by
  rw [Chain.increasing_iff, numbered.map_index]
  exact List.pairwise_lt_range

theorem pairwise (numbered : Numbered providers flights) :
    flights.Pairwise fun first second => first.call.index < second.call.index := by
  have increasing := numbered.increasing
  unfold Chain.Increasing at increasing
  simpa using List.pairwise_map.mp increasing

theorem nodup (numbered : Numbered providers flights) : flights.Nodup := by
  refine numbered.pairwise.imp ?_
  rintro first _ less rfl
  exact Nat.lt_irrefl _ less

/-- Each index stands for one hop. -/
theorem eq_of_index_eq (numbered : Numbered providers flights) {first second : Flight}
    (firstMember : first ∈ flights) (secondMember : second ∈ flights)
    (same : first.call.index = second.call.index) : first = second := by
  have found := numbered.getElem?_index firstMember
  rw [same, numbered.getElem?_index secondMember] at found
  exact (Option.some.inj found).symm

end Numbered

end Flight

namespace Progress

/-- Where a run stands when a hop has ended, its end told and recorded. -/
def settled (progress : Progress) (flight : Flight) : Progress :=
  { progress with
    chain := progress.chain.withHops [flight.record]
    events := progress.events ++ [flight.arrival] }

theorem settled_running {progress : Progress} (running : progress.chain.status = .running)
    (flight : Flight) : (progress.settled flight).chain.status = .running :=
  running

/-- A running chain records what came of a hop. -/
theorem settle_of_running {progress : Progress} (running : progress.chain.status = .running)
    (flight : Flight) :
    progress.settle flight.call flight.seen = .ok (progress.settled flight) := by
  have taken : progress.chain.record flight.record =
      .ok (progress.chain.withHops [flight.record]) :=
    Chain.record_eq_ok_iff.mpr ⟨running, rfl⟩
  unfold Flight.record at taken
  unfold settle tell
  simp only [taken]
  rfl

/-- Where a run stands after hops that ran one after the other. -/
def through (progress : Progress) (flights : List Flight) : Progress where
  chain := progress.chain.withHops (flights.map Flight.record)
  events := progress.events ++ flights.flatMap fun flight => [flight.departure, flight.arrival]
  elapsed := progress.elapsed + (flights.map fun flight => flight.seen.delay).sum
  turn := if flights.all Flight.isInstant then progress.turn else .free

@[simp]
theorem through_nil (progress : Progress) : progress.through [] = progress := by
  simp [through]

/-- Hops pass in turn. -/
theorem through_cons (progress : Progress) (flight : Flight) (flights : List Flight) :
    progress.through (flight :: flights) = (progress.through [flight]).through flights := by
  simp only [through, Progress.mk.injEq]
  refine ⟨?_, ?_, ?_, ?_⟩
  · rw [← Chain.withHops_append]
    rfl
  · simp
  · simp [Nat.add_assoc]
  · cases instant : flight.isInstant <;> simp [instant]

/-- The hops that pass are started in turn. -/
theorem through_departures (progress : Progress) (flights : List Flight) :
    (progress.through flights).events.filter Event.isHopStarted =
      progress.events.filter Event.isHopStarted ++ flights.map Flight.departure := by
  have words : (flights.flatMap fun flight => [flight.departure, flight.arrival]).filter
      Event.isHopStarted = flights.map Flight.departure := by
    induction flights with
    | nil => rfl
    | cons flight flights hypothesis =>
      rw [List.flatMap_cons, List.filter_append, hypothesis]
      rfl
  unfold through
  rw [List.filter_append, words]

theorem through_started (progress : Progress) (flights : List Flight) :
    (progress.through flights).events.filterMap Event.startedIndex? =
      progress.events.filterMap Event.startedIndex? ++
        flights.map fun flight => flight.call.index := by
  rw [Event.filterMap_startedIndex?, through_departures, List.filterMap_append,
    ← Event.filterMap_startedIndex?, Flight.filterMap_departures]

/-- The hops that pass end in turn. -/
theorem through_arrivals (progress : Progress) (flights : List Flight) :
    (progress.through flights).events.filter Event.isHopCompleted =
      progress.events.filter Event.isHopCompleted ++ flights.map Flight.arrival := by
  have words : (flights.flatMap fun flight => [flight.departure, flight.arrival]).filter
      Event.isHopCompleted = flights.map Flight.arrival := by
    induction flights with
    | nil => rfl
    | cons flight flights hypothesis =>
      rw [List.flatMap_cons, List.filter_append, hypothesis]
      rfl
  unfold through
  rw [List.filter_append, words]

/-- No passing hop exceeds the budget by itself. -/
theorem through_budgetExceeded (progress : Progress) (flights : List Flight) :
    (progress.through flights).events.countP Event.isBudgetExceeded =
      progress.events.countP Event.isBudgetExceeded := by
  unfold through
  rw [List.countP_append, Nat.add_eq_left, List.countP_eq_zero]
  intro event member
  obtain ⟨flight, _, told⟩ := List.mem_flatMap.mp member
  simp only [List.mem_cons, List.not_mem_nil, or_false] at told
  rcases told with rfl | rfl
  · exact Bool.false_ne_true
  · exact Bool.false_ne_true

/-- **One hop passes**: it is launched, waited for and settled. -/
theorem pass_eq_through {progress : Progress} (running : progress.chain.status = .running)
    (flight : Flight) :
    ((progress.launch flight.call).wait flight.seen.delay).settle flight.call flight.seen =
      .ok (progress.through [flight]) := by
  have stillRunning :
      ((progress.launch flight.call).wait flight.seen.delay).chain.status = .running := by
    unfold wait
    split <;> exact running
  rw [settle_of_running stillRunning]
  apply congrArg Except.ok
  unfold wait settled through launch tell
  by_cases instant : flight.seen.delay = 0
  · simp [instant, Flight.isInstant, Flight.departure]
  · simp [instant, Flight.isInstant, Flight.departure]

end Progress

end PromptRelay
