/-
**What an observer is told of a run.**

A run that is refused before it starts tells of its failure and of nothing else. Any other run tells
first that it has started and last how it ended, and in between it tells of its hops. One hop after
the other each hop ends before the next one starts. Hops that run together start in the order of the
pattern and end in any order, each after its own start. In both modes a hop without an end is the
mark of a run that its time limit has cut.

* `Event.Rounds`, `SequentialBody`: what is told of hops one after the other;
* `Event.Heralded`, `ParallelBody`: what is told of hops that run together;
* `Plan.Stops.body`, `Plan.Lands.body`: a run tells this until it stops;
* `Registry.lifecycle_told`: all that is told of a run, whatever its plan and its chain.
-/

import PromptRelay.Proofs.Run.Fan
import PromptRelay.Proofs.Run.Legs

namespace PromptRelay

variable {World : Type}

namespace Event

/-- The word that a run has ended, well or not. -/
def isClosing : Event → Bool
  | .chainCompleted .. => true
  | .chainFailed .. => true
  | _ => false

/-- Words of a number of hops, from the first of the pattern on, each of which has started and ended
before the next one starts. -/
inductive Rounds (providers : List String) : Nat → List Event → Prop where
  | nothing : Rounds providers 0 []
  | next {count : Nat} {words : List Event} (earlier : Rounds providers count words)
      {provider : String} (named : providers[count]? = some provider) (succeeded : Bool)
      (cost : Float) (duration : Nat) :
      Rounds providers (count + 1) (words ++
        [.hopStarted count provider, .hopCompleted count provider succeeded cost duration])

/-- Words that tell of the end of a hop only after its start. -/
def Heralded (words : List Event) : Prop :=
  ∀ before index provider succeeded cost duration,
    before ++ [.hopCompleted index provider succeeded cost duration] <+: words →
      .hopStarted index provider ∈ before

end Event

/-- What is told of a run one hop after the other, between its start and its end. It is `cut` where
the last hop has started and not ended. -/
inductive SequentialBody (providers : List String) (cut : Prop) : List Event → Prop where
  /-- The last word is the end of a hop. -/
  | ended {count : Nat} {words : List Event} (rounds : Event.Rounds providers (count + 1) words)
      (whole : ¬ cut) : SequentialBody providers cut words
  /-- The last word, after the end of a hop, is that the budget is exceeded. -/
  | overspent {count : Nat} {words : List Event}
      (rounds : Event.Rounds providers (count + 1) words) (whole : ¬ cut)
      (totalCost budget : Float) (skipped : Nat) :
      SequentialBody providers cut (words ++ [.budgetExceeded totalCost budget skipped])
  /-- The last word is the start of a hop. -/
  | cut {count : Nat} {words : List Event} (rounds : Event.Rounds providers count words)
      {provider : String} (named : providers[count]? = some provider) (late : cut) :
      SequentialBody providers cut (words ++ [.hopStarted count provider])

/-- What is told of a run of all hops at once, between its start and its end. It is `cut` where some
hop has not ended. -/
structure ParallelBody (providers : List String) (cut : Prop) (body : List Event) : Prop where
  /-- Every hop starts once, in the order of the pattern. -/
  started : body.filter Event.isHopStarted =
    providers.mapIdx fun index provider => .hopStarted index provider
  /-- No hop ends twice. -/
  once : (body.filterMap Event.completedIndex?).Nodup
  /-- Every hop ends after its own start. -/
  heralded : Event.Heralded body
  missing : (∃ index < providers.length, index ∉ body.filterMap Event.completedIndex?) ↔ cut
  /-- Nothing else is told, but for an exceeded budget where all hops have ended. -/
  words : ∃ hops, (∀ event ∈ hops, event.isHopStarted = true ∨ event.isHopCompleted = true) ∧
    (body = hops ∨ ¬ cut ∧ ∃ totalCost budget, body = hops ++ [.budgetExceeded totalCost budget 0])

/-! ### The first and the last word -/

namespace Execution.ClosedBy

variable {execution : Execution} {last : Event}

theorem isClosing (closed : execution.ClosedBy last) : last.isClosing = true := by
  cases closed <;> rfl

/-- The last word is that the chain is completed when the run ends well. -/
theorem completed_iff (closed : execution.ClosedBy last) :
    (∃ totalCost tier, last = .chainCompleted totalCost tier) ↔
      ∃ text, execution.outcome = .ok text := by
  cases closed with
  | completed ok scored => exact iff_of_true ⟨_, _, rfl⟩ ⟨_, ok⟩
  | failed failed =>
    refine iff_of_false (fun ⟨_, _, same⟩ => Event.noConfusion same) fun ⟨text, ok⟩ => ?_
    rw [failed] at ok
    cases ok

/-- The last word is that the chain has failed, for the reason that the error gives, when the run
ends with this error. -/
theorem failed_iff (closed : execution.ClosedBy last) (reason : String) :
    last = .chainFailed reason ↔
      ∃ error, execution.outcome = .error error ∧ reason = error.message := by
  cases closed with
  | completed ok scored =>
    refine iff_of_false Event.noConfusion fun ⟨error, otherwise, _⟩ => ?_
    rw [ok] at otherwise
    cases otherwise
  | failed failed =>
    rw [failed]
    constructor
    · intro same
      exact ⟨_, rfl, (Event.chainFailed.inj same).symm⟩
    · rintro ⟨error, same, rfl⟩
      rw [Except.error.inj same]

end Execution.ClosedBy

/-! ### One hop after the other -/

namespace Event.Rounds

variable {providers : List String}

theorem not_isClosing {count : Nat} {words : List Event} (rounds : Rounds providers count words) :
    ∀ event ∈ words, event.isClosing = false := by
  induction rounds with
  | nothing =>
    intro event member
    cases member
  | next earlier named succeeded cost duration hypothesis =>
    intro event member
    rcases List.mem_append.mp member with early | late
    · exact hypothesis event early
    · simp only [List.mem_cons, List.not_mem_nil, or_false] at late
      rcases late with rfl | rfl <;> rfl

/-- The words of hops that pass one after the other. -/
theorem of_numbered {flights : List Flight} (numbered : Flight.Numbered providers flights) :
    Rounds providers flights.length
      (flights.flatMap fun flight => [flight.departure, flight.arrival]) := by
  induction flights using List.reverseRecOn with
  | nil => exact .nothing
  | append_singleton flights last hypothesis =>
    have earlier := hypothesis (numbered.of_prefix (List.prefix_append flights [last]))
    obtain ⟨index, named⟩ := numbered flights.length last (by simp)
    have round := earlier.next named last.record.succeeded last.record.cost last.record.duration
    rw [← index] at round
    rw [List.length_append, List.flatMap_append, ← index]
    exact round

end Event.Rounds

theorem SequentialBody.not_isClosing {providers : List String} {cut : Prop} {body : List Event}
    (told : SequentialBody providers cut body) : ∀ event ∈ body, event.isClosing = false := by
  intro event member
  cases told with
  | ended rounds whole => exact rounds.not_isClosing event member
  | overspent rounds whole totalCost budget skipped =>
    rcases List.mem_append.mp member with early | late
    · exact rounds.not_isClosing event early
    · rw [List.mem_singleton.mp late]
      rfl
  | cut rounds named late =>
    rcases List.mem_append.mp member with early | late
    · exact rounds.not_isClosing event early
    · rw [List.mem_singleton.mp late]
      rfl

/-- **A run one hop after the other** tells of its hops in turn until it stops. -/
theorem Plan.Stops.body {plan : Plan} {progress : Progress} {providers : List String}
    {flights : List Flight} {stopped : Progress × Ending}
    (stops : plan.Stops progress flights stopped) (numbered : Flight.Numbered providers flights)
    (someHop : 0 < flights.length) {cut : Prop} (limited : cut ↔ stopped.2 = .timedOut) :
    ∃ body, stopped.1.events = progress.events ++ body ∧ SequentialBody providers cut body := by
  have rounds := Event.Rounds.of_numbered (numbered.of_prefix (plan.kept_prefix progress flights))
  -- where the run stops by itself it has kept a hop
  have ended : 0 < (plan.kept progress flights).length → Event.Rounds providers
      ((plan.kept progress flights).length - 1 + 1)
      ((plan.kept progress flights).flatMap fun flight => [flight.departure, flight.arrival]) := by
    intro someKept
    rw [Nat.sub_add_cancel someKept]
    exact rounds
  cases stops with
  | cut next rest course =>
    have begins := plan.course_prefix progress.chain.totalCost flights
    obtain ⟨index, named⟩ := numbered.of_prefix begins (plan.kept progress flights).length next
      (by rw [course]; simp)
    have told := SequentialBody.cut rounds named (limited.mpr rfl)
    rw [← index] at told
    exact ⟨_, List.append_assoc _ _ _, told⟩
  | aborted last source whole isLast failed abort =>
    have someKept := List.length_pos_of_mem (List.mem_of_getLast? isLast)
    exact ⟨_, rfl, .ended (ended someKept) fun late => Ending.noConfusion (limited.mp late)⟩
  | overspent last output whole isLast answered beyond left =>
    have someKept := List.length_pos_of_mem (List.mem_of_getLast? isLast)
    exact ⟨_, List.append_assoc _ _ _, .overspent (ended someKept)
      (fun late => Ending.noConfusion (limited.mp late)) _ _ _⟩
  | finished whole course goesOn =>
    have someKept : 0 < (plan.kept progress flights).length := by
      rw [whole]
      exact someHop
    exact ⟨_, rfl, .ended (ended someKept) fun late => Ending.noConfusion (limited.mp late)⟩

/-! ### All hops at once -/

namespace Event.Heralded

variable {words : List Event}

theorem nil : Heralded [] := by
  intro before index provider succeeded cost duration begins
  have nothing := List.prefix_nil.mp begins
  simp at nothing

/-- A word that is no end of a hop may follow, or the end of a hop that has started. -/
theorem concat (heralded : Heralded words) {event : Event}
    (started : ∀ index provider succeeded cost duration,
      event = .hopCompleted index provider succeeded cost duration →
        .hopStarted index provider ∈ words) : Heralded (words ++ [event]) := by
  intro before index provider succeeded cost duration begins
  rcases List.prefix_concat_iff.mp begins with whole | early
  · obtain ⟨rfl, same⟩ := List.append_inj' whole rfl
    exact started index provider succeeded cost duration (List.singleton_inj.mp same).symm
  · exact heralded before index provider succeeded cost duration early

/-- Ends of hops that have started may follow. -/
theorem append_arrivals (heralded : Heralded words) {flights : List Flight}
    (started : ∀ flight ∈ flights, flight.departure ∈ words) :
    Heralded (words ++ flights.map Flight.arrival) := by
  induction flights generalizing words with
  | nil =>
    rw [List.map_nil, List.append_nil]
    exact heralded
  | cons flight flights hypothesis =>
    have first : Heralded (words ++ [flight.arrival]) := by
      refine heralded.concat fun index provider succeeded cost duration same => ?_
      obtain ⟨rfl, rfl, _⟩ := Event.hopCompleted.inj same
      exact started flight List.mem_cons_self
    rw [List.map_cons, List.append_cons]
    exact hypothesis first fun other member =>
      List.mem_append_left _ (started other (List.mem_cons_of_mem flight member))

/-- The words of hops that are launched may follow. -/
theorem append_launchWords (heralded : Heralded words) (flights : List Flight) :
    Heralded (words ++ flights.flatMap Flight.launchWords) := by
  induction flights generalizing words with
  | nil =>
    rw [List.flatMap_nil, List.append_nil]
    exact heralded
  | cons flight flights hypothesis =>
    have departed : Heralded (words ++ [flight.departure]) :=
      heralded.concat fun _ _ _ _ _ same => Event.noConfusion same
    rw [List.flatMap_cons, ← List.append_assoc]
    apply hypothesis
    unfold Flight.launchWords
    split
    · have started : ∀ other ∈ [flight], other.departure ∈ words ++ [flight.departure] := by
        intro other member
        rw [List.mem_singleton.mp member]
        exact List.mem_append_right words List.mem_cons_self
      have arrived := departed.append_arrivals started
      rw [List.append_assoc] at arrived
      exact arrived
    · exact departed

end Event.Heralded

namespace Flight

/-- What is told of hops that run together, until they have ended or the time limit stops them. -/
def words (limit : Nat) (turn : Turn) (flights : List Flight) : List Event :=
  flights.flatMap launchWords ++ (inTime limit (waiting turn flights)).map arrival

variable {limit : Nat} {turn : Turn} {flights : List Flight}

theorem isHop_of_mem_words {event : Event} (member : event ∈ words limit turn flights) :
    event.isHopStarted = true ∨ event.isHopCompleted = true := by
  rcases List.mem_append.mp member with early | late
  · obtain ⟨flight, _, word⟩ := List.mem_flatMap.mp early
    exact flight.isHop_of_mem_launchWords word
  · obtain ⟨flight, _, rfl⟩ := List.mem_map.mp late
    exact .inr rfl

/-- Hops that run together end after they have started. -/
theorem heralded_words {providers : List String} (positive : 0 < limit)
    (numbered : Numbered providers flights) : Event.Heralded (words limit turn flights) := by
  refine (Event.Heralded.nil.append_launchWords flights).append_arrivals fun flight member => ?_
  have inside : flight ∈ flights :=
    mem_of_mem_arrivals positive numbered (List.mem_append_right _ member)
  have departed := List.mem_map_of_mem (f := departure) inside
  rw [← departures_launchWords] at departed
  exact List.mem_of_mem_filter departed

end Flight

/-- **A run of all hops at once** tells of their starts in order, and of their ends until it
stops. -/
theorem Plan.Lands.body {plan : Plan} {progress : Progress} {providers : List String}
    {flights : List Flight} {stopped : Progress × Ending}
    (lands : plan.Lands progress flights stopped) (running : progress.chain.status = .running)
    (positive : 0 < plan.settings.chainTimeout) (numbered : Flight.Numbered providers flights)
    (length : flights.length = providers.length) {cut : Prop}
    (limited : cut ↔ stopped.2 = .timedOut) :
    ∃ body, stopped.1.events = progress.events ++ body ∧ ParallelBody providers cut body := by
  let hops := Flight.words plan.settings.chainTimeout progress.turn flights
  obtain ⟨body, told, whole⟩ : ∃ body, stopped.1.events = progress.events ++ body ∧
      (body = hops ∨ stopped.2 = .settled ∧ ∃ totalCost,
        body = hops ++ [.budgetExceeded totalCost plan.settings.budget 0]) := by
    refine ⟨hops ++ (if stopped.2 = .settled then stopped.1.overspent plan else []), ?_, ?_⟩
    · rw [lands.events running]
      unfold hops Flight.words
      simp only [List.append_assoc]
    · rcases overspent_cases plan stopped with nothing | ⟨settled, totalCost, word⟩
      · rw [nothing, List.append_nil]
        exact .inl rfl
      · rw [word]
        exact .inr ⟨settled, totalCost, rfl⟩
  have departures : body.filter Event.isHopStarted = flights.map Flight.departure := by
    have all := lands.departures running
    rw [told, List.filter_append] at all
    exact List.append_cancel_left all
  have completed : body.filterMap Event.completedIndex? =
      (Flight.arrivals plan.settings.chainTimeout progress.turn flights).map
        fun flight => flight.call.index := by
    have all := lands.arrivals running
    rw [told, List.filter_append] at all
    rw [Event.filterMap_completedIndex?, List.append_cancel_left all, Flight.filterMap_arrivals]
  have heralded : Event.Heralded hops := Flight.heralded_words positive numbered
  refine ⟨body, told, ?_, ?_, ?_, ?_, hops, fun _ => Flight.isHop_of_mem_words, ?_⟩
  · rw [departures, numbered.map_departure length]
  · rw [completed]
    exact Flight.nodup_arrivals positive progress.turn numbered
  · rcases whole with rfl | ⟨_, totalCost, rfl⟩
    · exact heralded
    · exact heralded.concat fun _ _ _ _ _ same => Event.noConfusion same
  · rw [completed, ← length, Flight.exists_not_mem_arrivals_iff positive progress.turn numbered,
      limited, lands.timedOut_iff]
  · rcases whole with same | ⟨settled, totalCost, same⟩
    · exact .inl same
    · refine .inr ⟨fun late => ?_, totalCost, plan.settings.budget, same⟩
      rw [limited, settled] at late
      cases late

theorem ParallelBody.not_isClosing {providers : List String} {cut : Prop} {body : List Event}
    (told : ParallelBody providers cut body) : ∀ event ∈ body, event.isClosing = false := by
  obtain ⟨hops, areHops, whole⟩ := told.words
  have quiet : ∀ event ∈ hops, event.isClosing = false := by
    intro event member
    have isHop := areHops event member
    cases event <;> simp_all [Event.isHopStarted, Event.isHopCompleted, Event.isClosing]
  intro event member
  rcases whole with same | ⟨_, totalCost, budget, same⟩
  · rw [same] at member
    exact quiet event member
  · rw [same] at member
    rcases List.mem_append.mp member with early | late
    · exact quiet event early
    · rw [List.mem_singleton.mp late]
      rfl

/-! ### Whole runs -/

/-- A plan with a fault does not start, and no plan starts a chain that is not pending. -/
theorem Plan.exists_start_error {plan : Plan} {chain : Chain}
    (refused : plan.fault? ≠ none ∨ chain.status ≠ .pending) :
    ∃ error, plan.start chain = .error error :=
  ⟨_, start_of_refused refused⟩

namespace Registry

/-- **The observer of a run is told how it begins, what becomes of its hops, and how it ends.** A
run that is refused tells of its failure alone. Any other run tells first that it has started and
last, once, that its chain is completed or has failed, as its result says. -/
theorem lifecycle_told (registry : Registry (StateM World)) (plan : Plan) (chain : Chain)
    (turn : Turn) (world : World) :
    let execution := registry.perform plan chain turn world
    let cut := execution.outcome = .error (.chainTimeoutExceeded plan.settings.chainTimeout)
    (plan.fault? ≠ none ∨ chain.status ≠ .pending → ∃ error,
      execution.outcome = .error error ∧ execution.events = [.chainFailed error.message]) ∧
    (plan.fault? = none → chain.status = .pending → ∃ body last,
      execution.events = [plan.opening] ++ body ++ [last] ∧
      (∀ event ∈ [plan.opening] ++ body, event.isClosing = false) ∧
      ((∃ totalCost tier, last = .chainCompleted totalCost tier) ↔
        ∃ text, execution.outcome = .ok text) ∧
      (∀ reason, last = .chainFailed reason ↔
        ∃ error, execution.outcome = .error error ∧ reason = error.message) ∧
      (plan.settings.mode = .sequential → SequentialBody plan.pattern.providers cut body) ∧
      (plan.settings.mode = .parallel → ParallelBody plan.pattern.providers cut body)) := by
  refine ⟨fun refused => ?_, fun sound pending => ?_⟩
  · obtain ⟨error, started⟩ := Plan.exists_start_error refused
    refine ⟨error, ?_⟩
    unfold perform execute
    rw [started]
    exact ⟨rfl, rfl⟩
  · have quiet : ∀ body : List Event, (∀ event ∈ body, event.isClosing = false) →
        ∀ event ∈ [plan.opening] ++ body, event.isClosing = false := by
      intro body silent event member
      rcases List.mem_append.mp member with first | later
      · rw [List.mem_singleton.mp first]
        rfl
      · exact silent event later
    cases mode : plan.settings.mode with
    | sequential =>
      obtain ⟨stopped, stops, concluded⟩ :=
        registry.perform_sequential mode sound pending turn world
      obtain ⟨last, told, closed⟩ := concluded.events
      have someHop : 0 < (registry.legs plan chain world).length := by
        rw [registry.length_legs]
        exact Plan.hopCount_pos sound
      have limited := stops.timeUp_iff concluded
      obtain ⟨body, words, inTurn⟩ :=
        stops.body (registry.numbered_legs plan chain world) someHop limited
      rw [words] at told
      exact ⟨body, last, told, quiet body inTurn.not_isClosing, closed.completed_iff,
        closed.failed_iff, fun _ => inTurn, fun other => by cases other⟩
    | parallel =>
      obtain ⟨stopped, lands, concluded⟩ :=
        registry.perform_parallel mode sound pending turn world
      obtain ⟨last, told, closed⟩ := concluded.events
      have limited := lands.timeUp_iff concluded
      obtain ⟨body, words, together⟩ := lands.body rfl (Plan.timeouts_pos sound).2
        (registry.numbered_fan plan chain.input world)
        (registry.length_fan plan chain.input world) limited
      rw [words] at told
      exact ⟨body, last, told, quiet body together.not_isClosing, closed.completed_iff,
        closed.failed_iff, fun other => (by cases other), fun _ => together⟩

/-- Of two hops that need 10 ms each, the second has not ended after 15 ms. -/
theorem lifecycle_told_solo :
    let plan := Plan.solo 2 { chainTimeout := 15 }
    let execution := rehearsed.perform plan .solo .free (.after 10 0.1)
    ∃ body last, execution.events = [plan.opening] ++ body ++ [last] ∧
      last = .chainFailed (ChainError.chainTimeoutExceeded 15).message ∧
      SequentialBody ["solo", "solo"] True body := by
  obtain ⟨_, starts⟩ :=
    lifecycle_told rehearsed (.solo 2 { chainTimeout := 15 }) .solo .free (.after 10 0.1)
  obtain ⟨body, last, told, _, _, failed, inTurn, _⟩ := starts (by decide +kernel) rfl
  have cut : (rehearsed.perform (.solo 2 { chainTimeout := 15 }) .solo .free
      (.after 10 0.1)).outcome = .error (.chainTimeoutExceeded 15) := by
    rfl
  refine ⟨body, last, told, (failed _).mpr ⟨_, cut, rfl⟩, ?_⟩
  have words : SequentialBody ["solo", "solo"] ((rehearsed.perform
      (.solo 2 { chainTimeout := 15 }) .solo .free (.after 10 0.1)).outcome =
        .error (.chainTimeoutExceeded 15)) body := inTurn rfl
  rw [eq_true cut] at words
  exact words

end Registry

end PromptRelay
