/-
**Hops that run together.**

All hops are launched in the order of the pattern, those that need no time end at once, and the
others are recorded as they arrive. The run stops when the time limit leaves a hop out, or when all
hops have ended and their records are put in order.

* `Progress.launched`, `Progress.landed`, `Progress.arrived`: where a run stands when its hops have
  been started, and when they have ended;
* `Progress.fly_of_running`, `Plan.Lands`, `Progress.fly_lands`: where a run stops, and the two ways in
  which it does;
* `Plan.Lands.chain`, `Plan.Lands.events`: what is recorded and told until then.
-/

import PromptRelay.Proofs.Run.Conclusion
import PromptRelay.Proofs.Run.Landing

namespace PromptRelay

/-! ### Words of the hops -/

/-- What is told of a hop while the hops are launched. -/
def Flight.launchWords (flight : Flight) : List Event :=
  if flight.isInstant then [flight.departure, flight.arrival] else [flight.departure]

/-- Launched hops are started in turn. -/
theorem Flight.departures_launchWords (flights : List Flight) :
    (flights.flatMap launchWords).filter Event.isHopStarted = flights.map departure := by
  induction flights with
  | nil => rfl
  | cons flight flights hypothesis =>
    have word : flight.launchWords.filter Event.isHopStarted = [flight.departure] := by
      unfold launchWords
      split
      · rfl
      · rfl
    rw [List.flatMap_cons, List.filter_append, hypothesis, word]
    rfl

/-- Of launched hops those end that need no time. -/
theorem Flight.arrivals_launchWords (flights : List Flight) :
    (flights.flatMap launchWords).filter Event.isHopCompleted =
      (flights.filter isInstant).map arrival := by
  induction flights with
  | nil => rfl
  | cons flight flights hypothesis =>
    rw [List.flatMap_cons, List.filter_append, hypothesis]
    cases instant : flight.isInstant with
    | false =>
      rw [List.filter_cons_of_neg (by simp [instant])]
      unfold launchWords
      rw [instant]
      rfl
    | true =>
      rw [List.filter_cons_of_pos instant]
      unfold launchWords
      rw [instant]
      rfl

/-- Nothing is told of the budget while hops are launched. -/
theorem Flight.isBudgetExceeded_launchWords {flights : List Flight} {event : Event}
    (member : event ∈ flights.flatMap launchWords) : event.isBudgetExceeded = false := by
  obtain ⟨flight, _, word⟩ := List.mem_flatMap.mp member
  unfold launchWords at word
  split at word
  · simp only [List.mem_cons, List.not_mem_nil, or_false] at word
    rcases word with rfl | rfl <;> rfl
  · rw [List.mem_singleton.mp word]
    rfl

/-- Hops that are launched start, and may end. -/
theorem Flight.isHop_of_mem_launchWords (flight : Flight) {event : Event}
    (member : event ∈ flight.launchWords) :
    event.isHopStarted = true ∨ event.isHopCompleted = true := by
  unfold launchWords at member
  split at member
  · simp only [List.mem_cons, List.not_mem_nil, or_false] at member
    rcases member with rfl | rfl
    · exact .inl rfl
    · exact .inr rfl
  · rw [List.mem_singleton.mp member]
    exact .inl rfl

theorem Flight.isBudgetExceeded_arrival {flights : List Flight} {event : Event}
    (member : event ∈ flights.map arrival) : event.isBudgetExceeded = false := by
  obtain ⟨flight, _, rfl⟩ := List.mem_map.mp member
  rfl

namespace Progress

/-- Where a run stands when its hops were started. -/
def launched (progress : Progress) (flights : List Flight) : Progress :=
  { progress with
    chain := progress.chain.withHops ((flights.filter Flight.isInstant).map Flight.record)
    events := progress.events ++ flights.flatMap Flight.launchWords }

/-- Where a run stands when these hops have ended, each at its time. -/
def landed (progress : Progress) (flights : List Flight) : Progress :=
  { progress with
    chain := progress.chain.withHops (flights.map Flight.record)
    events := progress.events ++ flights.map Flight.arrival
    elapsed := (flights.getLast?.map fun flight => flight.seen.delay).getD progress.elapsed }

theorem launchAll_of_running {progress : Progress} (running : progress.chain.status = .running)
    (flights : List Flight) : progress.launchAll flights = .ok (progress.launched flights) := by
  induction flights generalizing progress with
  | nil => simp [launchAll, launched]
  | cons flight flights hypothesis =>
    have stillRunning : (progress.launch flight.call).chain.status = .running := running
    unfold launchAll
    by_cases instant : flight.isInstant
    · rw [if_pos instant, settle_of_running stillRunning flight]
      show ((progress.launch flight.call).settled flight).launchAll flights = _
      rw [hypothesis (settled_running stillRunning flight)]
      simp [settled, launched, launch, tell, Flight.launchWords, Flight.departure, instant,
        ← Chain.withHops_append]
    · rw [if_neg instant, hypothesis stillRunning]
      simp [launched, launch, tell, Flight.launchWords, Flight.departure, instant]

theorem landAll_of_running {progress : Progress} (running : progress.chain.status = .running)
    (flights : List Flight) : progress.landAll flights = .ok (progress.landed flights) := by
  induction flights generalizing progress with
  | nil => simp [landAll, landed]
  | cons flight flights hypothesis =>
    let waited : Progress := { progress with elapsed := flight.seen.delay }
    have stillRunning : waited.chain.status = .running := running
    unfold landAll
    rw [settle_of_running stillRunning flight]
    show (waited.settled flight).landAll flights = _
    rw [hypothesis (settled_running stillRunning flight)]
    simp [waited, settled, landed, ← Chain.withHops_append, List.getLast?_cons]

/-- Where a run stands when the hops that arrive before its time limit have ended. -/
def arrived (progress : Progress) (limit : Nat) (flights : List Flight) : Progress :=
  (progress.launched flights).landed (Flight.inTime limit (Flight.waiting progress.turn flights))

@[simp]
theorem arrived_chain (progress : Progress) (limit : Nat) (flights : List Flight) :
    (progress.arrived limit flights).chain = progress.chain.withHops
      ((Flight.arrivals limit progress.turn flights).map Flight.record) := by
  unfold arrived launched landed Flight.arrivals
  rw [List.map_append, Chain.withHops_append]

theorem gather_chain {progress : Progress} (running : progress.chain.status = .running)
    (plan : Plan) :
    (progress.gather plan).chain =
      { progress.chain with hops := Chain.sortRecords progress.chain.hops } := by
  unfold gather
  simp only [Chain.sortHops_of_running running]
  split
  · rfl
  · rfl

/-- What a run is told at last whose hops have all ended: that the budget is exceeded, if it is. -/
def overspent (progress : Progress) (plan : Plan) : List Event :=
  if plan.settings.budget < progress.chain.totalCost then
    [.budgetExceeded progress.chain.totalCost plan.settings.budget 0]
  else []

theorem gather_events {progress : Progress} (running : progress.chain.status = .running)
    (plan : Plan) :
    (progress.gather plan).events = progress.events ++ (progress.gather plan).overspent plan := by
  unfold overspent
  rw [gather_chain running]
  unfold gather
  simp only [Chain.sortHops_of_running running]
  split
  · rfl
  · exact (List.append_nil _).symm

end Progress

/-- The ways in which a run stops that has launched these hops together. -/
inductive Plan.Lands (plan : Plan) (progress : Progress) (flights : List Flight) :
    Progress × Ending → Prop where
  /-- The chain's time limit leaves a hop out. -/
  | cut (turn : Turn) (left : ¬ Flight.AllLand plan.settings.chainTimeout flights) :
      Lands plan progress flights
        ({ progress.arrived plan.settings.chainTimeout flights with turn }, .timedOut)
  /-- Every hop has ended. -/
  | gathered (turn : Turn) (all : Flight.AllLand plan.settings.chainTimeout flights) :
      Lands plan progress flights
        (({ progress.arrived plan.settings.chainTimeout flights with turn }).gather plan, .settled)

/-- Where the flight of the hops of a running chain ends. -/
theorem Progress.fly_of_running {progress : Progress} (running : progress.chain.status = .running)
    (plan : Plan) (flights : List Flight) :
    progress.fly plan flights =
      let limit := plan.settings.chainTimeout
      let waiting := Flight.waiting progress.turn flights
      let landing := Flight.inTime limit waiting
      let arrived := progress.arrived limit flights
      if landing.length < waiting.length then
        ({ arrived with turn := Flight.turnAtLimit limit landing }, .timedOut)
      else
        ({ arrived with turn := Flight.turnAfter progress.turn landing }.gather plan, .settled) := by
  have stillRunning : (progress.launched flights).chain.status = .running := running
  unfold fly
  simp only [launchAll_of_running running, landAll_of_running stillRunning]
  rfl

/-- **The flight of the hops** ends with the time limit when it leaves a hop out, and else with all
hops gathered. -/
theorem Progress.fly_lands {progress : Progress} (running : progress.chain.status = .running)
    {plan : Plan} (positive : 0 < plan.settings.chainTimeout) (flights : List Flight) :
    plan.Lands progress flights (progress.fly plan flights) := by
  have someoneLeft := Flight.someoneLeft_iff positive progress.turn flights
  rw [fly_of_running running]
  dsimp only
  split
  · rename_i left
    exact .cut _ (someoneLeft.mp left)
  · rename_i nobody
    exact .gathered _ (not_not.mp (mt someoneLeft.mpr nobody))

namespace Plan

variable {plan : Plan} {progress : Progress} {flights : List Flight} {stopped : Progress × Ending}

/-- The chain of a run that has stopped: its records are those that have arrived, in order where
every hop has ended. -/
theorem Lands.chain (lands : plan.Lands progress flights stopped)
    (running : progress.chain.status = .running) :
    let arrived := progress.chain.withHops
      ((Flight.arrivals plan.settings.chainTimeout progress.turn flights).map Flight.record)
    (stopped.2 = .timedOut ∧ stopped.1.chain = arrived) ∨
      (stopped.2 = .settled ∧
        stopped.1.chain = { arrived with hops := Chain.sortRecords arrived.hops }) := by
  have chain := progress.arrived_chain plan.settings.chainTimeout flights
  have arrived : (progress.arrived plan.settings.chainTimeout flights).chain.status = .running :=
    running
  cases lands with
  | cut turn left => exact .inl ⟨rfl, chain⟩
  | gathered turn all =>
    let whole := { progress.arrived plan.settings.chainTimeout flights with turn }
    have stillRunning : whole.chain.status = .running := arrived
    refine .inr ⟨rfl, (Progress.gather_chain stillRunning plan).trans ?_⟩
    have taken : whole.chain = progress.chain.withHops
        ((Flight.arrivals plan.settings.chainTimeout progress.turn flights).map Flight.record) :=
      chain
    rw [taken]

/-- But for the order of its records, the chain of a run that has stopped has taken them as they
arrived. -/
theorem Lands.chain_but_hops (lands : plan.Lands progress flights stopped)
    (running : progress.chain.status = .running) :
    ∃ hops, stopped.1.chain = { progress.chain.withHops
      ((Flight.arrivals plan.settings.chainTimeout progress.turn flights).map Flight.record)
        with hops } := by
  rcases lands.chain running with ⟨_, stays⟩ | ⟨_, sorted⟩
  · exact ⟨_, stays⟩
  · exact ⟨_, sorted⟩

/-- What is told until a run has stopped: its hops start, they end as they arrive, and where all
have ended the budget may be exceeded. -/
theorem Lands.events (lands : plan.Lands progress flights stopped)
    (running : progress.chain.status = .running) :
    stopped.1.events = progress.events ++ flights.flatMap Flight.launchWords ++
      (Flight.inTime plan.settings.chainTimeout (Flight.waiting progress.turn flights)).map
        Flight.arrival ++ (if stopped.2 = .settled then stopped.1.overspent plan else []) := by
  have arrived : (progress.arrived plan.settings.chainTimeout flights).chain.status = .running :=
    running
  cases lands with
  | cut turn left => exact (List.append_nil _).symm
  | gathered turn all =>
    let whole := { progress.arrived plan.settings.chainTimeout flights with turn }
    have stillRunning : whole.chain.status = .running := arrived
    exact Progress.gather_events stillRunning plan

/-- The time limit stops the run when it leaves a hop out. -/
theorem Lands.timedOut_iff (lands : plan.Lands progress flights stopped) :
    stopped.2 = .timedOut ↔ ¬ Flight.AllLand plan.settings.chainTimeout flights := by
  cases lands with
  | cut turn left => exact iff_of_true rfl left
  | gathered turn all => exact iff_of_false Ending.noConfusion (not_not_intro all)

theorem Lands.timeUp_iff {execution : Execution} (lands : plan.Lands progress flights stopped)
    (concluded : stopped.1.Concluded plan stopped.2 execution) :
    execution.outcome = .error (.chainTimeoutExceeded plan.settings.chainTimeout) ↔
      stopped.2 = .timedOut :=
  concluded.timeUp_iff (by cases lands <;> simp)

/-- A run that has settled may tell last that the budget is exceeded. -/
theorem overspent_cases (plan : Plan) (stopped : Progress × Ending) :
    (if stopped.2 = .settled then stopped.1.overspent plan else []) = [] ∨
      stopped.2 = .settled ∧ ∃ totalCost,
        (if stopped.2 = .settled then stopped.1.overspent plan else []) =
          [.budgetExceeded totalCost plan.settings.budget 0] := by
  by_cases settled : stopped.2 = .settled
  · rw [if_pos settled]
    unfold Progress.overspent
    split
    · exact .inr ⟨settled, _, rfl⟩
    · exact .inl rfl
  · exact .inl (if_neg settled)

/-- Word of an exceeded budget is nothing else. -/
theorem isBudgetExceeded_of_mem_overspent {event : Event}
    (member : event ∈ if stopped.2 = .settled then stopped.1.overspent plan else []) :
    ∃ total, event = .budgetExceeded total plan.settings.budget 0 := by
  rcases overspent_cases plan stopped with nothing | ⟨_, total, word⟩
  · rw [nothing] at member
    cases member
  · rw [word] at member
    exact ⟨total, List.mem_singleton.mp member⟩

/-- A run that has stopped has started all its hops in turn. -/
theorem Lands.departures (lands : plan.Lands progress flights stopped)
    (running : progress.chain.status = .running) :
    stopped.1.events.filter Event.isHopStarted =
      progress.events.filter Event.isHopStarted ++ flights.map Flight.departure := by
  have silentRest : (if stopped.2 = .settled then stopped.1.overspent plan else []).filter
      Event.isHopStarted = [] := by
    apply List.filter_eq_nil_iff.mpr
    intro event member
    obtain ⟨total, rfl⟩ := isBudgetExceeded_of_mem_overspent member
    exact Bool.false_ne_true
  have silentArrivals : ∀ landing : List Flight,
      (landing.map Flight.arrival).filter Event.isHopStarted = [] := by
    intro landing
    apply List.filter_eq_nil_iff.mpr
    intro event member
    obtain ⟨flight, _, rfl⟩ := List.mem_map.mp member
    exact Bool.false_ne_true
  rw [lands.events running, List.filter_append, List.filter_append, List.filter_append, silentRest,
    silentArrivals, List.append_nil, List.append_nil, Flight.departures_launchWords]

/-- The hops of a run that has stopped have ended as they arrived. -/
theorem Lands.arrivals (lands : plan.Lands progress flights stopped)
    (running : progress.chain.status = .running) :
    stopped.1.events.filter Event.isHopCompleted =
      progress.events.filter Event.isHopCompleted ++
        (Flight.arrivals plan.settings.chainTimeout progress.turn flights).map Flight.arrival := by
  have silentRest : (if stopped.2 = .settled then stopped.1.overspent plan else []).filter
      Event.isHopCompleted = [] := by
    apply List.filter_eq_nil_iff.mpr
    intro event member
    obtain ⟨total, rfl⟩ := isBudgetExceeded_of_mem_overspent member
    exact Bool.false_ne_true
  have allArrivals : ∀ landing : List Flight,
      (landing.map Flight.arrival).filter Event.isHopCompleted = landing.map Flight.arrival := by
    intro landing
    refine List.filter_eq_self.mpr fun event member => ?_
    obtain ⟨flight, _, rfl⟩ := List.mem_map.mp member
    rfl
  rw [lands.events running, List.filter_append, List.filter_append, List.filter_append, silentRest,
    allArrivals, List.append_nil, Flight.arrivals_launchWords, List.append_assoc]
  unfold Flight.arrivals
  rw [List.map_append]

end Plan

end PromptRelay
