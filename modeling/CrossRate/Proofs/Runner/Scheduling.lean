import CrossRate.Proofs.Session.Lawful

/-!
# Tickers in order

A world changes by calls to its schedule and by whatever else goes on between them
(`Runner.Reaches`). In every world that is reached each resource with a ticker is registered and
just one of the tickers that were ever wound up for it runs, and there is none at a loader without
the network. What a call does then can be told from its resources and the world alone
(`Runner.isScheduled_of_reaches`).
-/

namespace CrossRate

/-! ### Periods -/

namespace Resource

/-- A resource has a property that should be a period but is none. -/
def IsMalformed (r : Resource) : Prop :=
  ∃ key value, (key = periodKey ∨ key = delayKey) ∧ r.properties.get? key = some value
    ∧ Period.parse? value = none

theorem checkPeriod_eq_error_iff {r : Resource} {key : String} {e : LoadError} :
  r.checkPeriod key = .error e
    ↔ ∃ value, r.properties.get? key = some value ∧ Period.parse? value = none
        ∧ e = .invalidSettings (.malformedPeriod r.id key value)
  := by
  rw [checkPeriod]
  cases found : r.properties.get? key with
  | none => simp
  | some value => cases parsed : Period.parse? value <;> simp [parsed, eq_comm]

/-- A resource that is not valid has a malformed period, and the error names it. -/
theorem exists_malformed_of_validate {r : Resource} {e : LoadError} (h : r.validate = .error e) :
  ∃ key value, (key = periodKey ∨ key = delayKey) ∧ r.properties.get? key = some value
    ∧ Period.parse? value = none ∧ e = .invalidSettings (.malformedPeriod r.id key value)
  := by
  obtain period | ⟨_, -, delay⟩ := bind_eq_error_iff.1 h
  · obtain ⟨value, found, unread, rfl⟩ := checkPeriod_eq_error_iff.1 period
    exact ⟨periodKey, value, .inl rfl, found, unread, rfl⟩
  · obtain ⟨value, found, unread, rfl⟩ := checkPeriod_eq_error_iff.1 delay
    exact ⟨delayKey, value, .inr rfl, found, unread, rfl⟩

theorem isMalformed_iff {r : Resource} : r.IsMalformed ↔ ∃ e, r.validate = .error e
  := by
  constructor
  · rintro ⟨key, value, keys, found, unread⟩
    cases valid : r.validate with
    | error e => exact ⟨e, rfl⟩
    | ok _ =>
      obtain ⟨_, period, delay⟩ := bind_eq_ok_iff.1 valid
      have refused : r.checkPeriod key
          = .error (.invalidSettings (.malformedPeriod r.id key value)) :=
        checkPeriod_eq_error_iff.2 ⟨value, found, unread, rfl⟩
      obtain rfl | rfl := keys
      · rw [period] at refused
        cases refused
      · rw [delay] at refused
        cases refused
  · rintro ⟨e, refused⟩
    obtain ⟨key, value, keys, found, unread, -⟩ := exists_malformed_of_validate refused
    exact ⟨key, value, keys, found, unread⟩

end Resource

/-- A loader refuses a resource whose identifier is taken and one with a malformed period. -/
theorem Loader.exists_admits_eq_error_iff {σ : Type} (l : Loader σ) (r : Resource) :
  (∃ e, l.admits r = .error e) ↔ l.isRegistered r.id = true ∨ r.IsMalformed
  := by
  rw [Resource.isMalformed_iff, isRegistered, admits]
  cases r.validate with
  | error e => simp [Except.bind]
  | ok _ => cases l.resources.contains r.id <;> simp [Except.bind]

/-! ### Calls -/

/-- What may be asked of a schedule. -/
inductive SchedulerCall where
  /-- To register a resource and do what its policy asks for. -/
  | register (r : Resource)
  /-- To put a new schedule in place of the one there is. -/
  | reconfigure (resources : List Resource)
  /-- To stop all tickers. -/
  | shutdown

namespace Runner

variable {ω η : Type} (h : Runner ω η) (fits : ω → Prop)

/-- The world after a call. -/
def call (w : ω) : SchedulerCall → ω
  | .register r => (h.register r w).2
  | .reconfigure resources => (h.reconfigure resources w).2
  | .shutdown => h.shutdown w

/-- What a world comes to by calls while other things go on between them, and the calls that were
made, each with the world at the time. -/
inductive Reaches (start : ω) : List (ω × SchedulerCall) → Recorded ω → Prop
  | begun : Reaches start [] ⟨start, []⟩
  | called {calls : List (ω × SchedulerCall)} {p : Recorded ω} (call : SchedulerCall) :
    Reaches start calls p →
      Reaches start (calls ++ [(p.world, call)]) (h.recording.call p call)
  | meanwhile {calls : List (ω × SchedulerCall)} {p : Recorded ω} {w : ω} :
    Reaches start calls p → h.StandsBy fits p.world w →
      Reaches start calls { p with world := w }

/-- The record of tickers does not interfere with calls. -/
theorem world_call_recording (p : Recorded ω) (call : SchedulerCall) :
  (h.recording.call p call).world = h.call p.world call
  := by
  cases call with
  | register r => apply (h.register_recording r p).2
  | reconfigure rs => apply (h.registerAll_recording rs _).2
  | shutdown => rfl

/-! ### The invariant -/

/-- A world whose tickers are in order. -/
structure IsInOrder (p : Recorded ω) : Prop where
  fits : fits p.world
  registered {id : String} : (h.schedule p.world).contains id = true →
    (h.loader p.world).isRegistered id = true
  offline : (h.loader p.world).settings.offline = true → ∀ id,
    (h.schedule p.world).contains id = false
  /-- The next ticker gets a mark of its own. -/
  marked : ∀ e ∈ p.wound, e.2.mark < (h.schedule p.world).started
  running (id : String) :
    (h.running p id).length = ((h.schedule p.world).contains id).toNat

variable {h fits} {p p' : Recorded ω} {r : Resource}

namespace TakesIn

variable (takesIn : h.TakesIn fits r p p')

include takesIn

theorem isRegistered_iff (id : String) :
  (h.loader p'.world).isRegistered id = true
    ↔ (h.loader p.world).isRegistered id = true ∨ r.id = id
  := by
  simp only [Loader.isRegistered, OrderedMap.contains, takesIn.resources]
  by_cases here : r.id = id <;> simp [here]

theorem contains_iff (id : String) :
  (h.schedule p'.world).contains id = true
    ↔ (h.schedule p.world).contains id = true
        ∨ r.id = id ∧ (h.loader p.world).policyFor r = .scheduled
  := by
  rw [takesIn.schedule]
  split
  · rename_i policy
    rw [Schedule.contains_start, Bool.or_eq_true, decide_eq_true_iff, or_comm, @eq_comm _ id]
    simp [policy]
  · rename_i other
    simp [other]

theorem policyFor (s : Resource) :
  (h.loader p'.world).policyFor s = (h.loader p.world).policyFor s
  := Loader.policyFor_congr s takesIn.settings

end TakesIn

namespace IsInOrder

variable (inOrder : h.IsInOrder fits p)

include inOrder

theorem standsBy {w : ω} (stands : h.StandsBy fits p.world w) :
  h.IsInOrder fits { p with world := w }
  where
  fits := stands.fits
  registered := by
    intro id scheduled
    rw [stands.schedule] at scheduled
    rw [Loader.isRegistered, stands.resources]
    apply inOrder.registered scheduled
  offline := by
    rw [stands.schedule, stands.settings]
    apply inOrder.offline
  marked := by
    rw [stands.schedule]
    apply inOrder.marked
  running := by
    intro id
    have same := inOrder.running id
    rw [Runner.running] at same ⊢
    rw [stands.schedule]
    apply same

/-- A ticker that is started takes the place of the one that its resource has. -/
theorem running_start (takesIn : h.TakesIn fits r p p')
    (policy : (h.loader p.world).policyFor r = .scheduled) (id : String) :
  (h.running p' id).length = ((h.schedule p'.world).contains id).toNat
  := by
  have schedule := takesIn.schedule
  have wound := takesIn.wound
  rw [if_pos policy] at schedule wound
  rw [Runner.running, wound, schedule, Schedule.contains_start, List.filter_append,
    List.length_append]
  by_cases here : id = r.id
  · subst here
    -- No ticker that was wound up before has the mark of the one that is started.
    have old : p.wound.filter (fun e => e.1 = r.id
        ∧ some ((h.schedule p.world).tickerFor (h.loader p.world).settings r) = some e.2) = [] := by
      apply List.filter_eq_nil_iff.2
      intro e he same
      obtain ⟨-, same⟩ := of_decide_eq_true same
      have marked := inOrder.marked e he
      rw [← Option.some.inj same] at marked
      exact Nat.lt_irrefl _ marked
    simp only [Schedule.start, OrderedMap.get?_insert, if_true, old]
    simp
  · have others := inOrder.running id
    rw [Runner.running] at others
    simp only [Schedule.start, OrderedMap.get?_insert, if_neg here]
    simpa [here, Ne.symm here] using others

/-- Tickers stay in order when a resource is taken in. -/
theorem takesIn (takesIn : h.TakesIn fits r p p') : h.IsInOrder fits p'
  where
  fits := takesIn.fits
  registered := by
    intro id scheduled
    apply (takesIn.isRegistered_iff id).2
    obtain old | ⟨new, -⟩ := (takesIn.contains_iff id).1 scheduled
    · exact .inl (inOrder.registered old)
    · exact .inr new
  offline := by
    intro offline id
    rw [takesIn.settings] at offline
    have other : (h.loader p.world).policyFor r ≠ .scheduled := by
      obtain policy | policy := Loader.policyFor_of_offline r offline <;> simp [policy]
    rw [takesIn.schedule, if_neg other]
    apply inOrder.offline offline
  marked := by
    intro e he
    rw [takesIn.wound] at he
    rw [takesIn.schedule]
    split
    · rename_i policy
      rw [if_pos policy, List.mem_append, List.mem_singleton] at he
      obtain old | rfl := he
      · apply Nat.lt_succ_of_lt (inOrder.marked e old)
      · apply Nat.lt_succ_self
    · rename_i other
      rw [if_neg other] at he
      apply inOrder.marked e he
  running := by
    intro id
    by_cases policy : (h.loader p.world).policyFor r = .scheduled
    · apply inOrder.running_start takesIn policy
    · have schedule := takesIn.schedule
      have wound := takesIn.wound
      rw [if_neg policy] at schedule wound
      have same := inOrder.running id
      rw [Runner.running] at same ⊢
      rw [wound, schedule]
      apply same

variable (orderly : h.IsOrderly fits)

include orderly

theorem shutdown : h.IsInOrder fits (h.recording.shutdown p)
  := by
  obtain ⟨fitting, -, stopped⟩ := orderly.shutdown inOrder.fits
  have schedule : h.schedule (h.recording.shutdown p).world = (h.schedule p.world).stop := stopped
  constructor
  case fits => apply fitting
  case registered =>
    intro id scheduled
    rw [schedule, Schedule.contains_stop] at scheduled
    cases scheduled
  case offline =>
    intro _ id
    rw [schedule, Schedule.contains_stop]
  case marked =>
    rw [schedule]
    apply inOrder.marked
  case running =>
    intro id
    rw [Runner.running, schedule, Schedule.contains_stop]
    simp [Schedule.stop]

theorem registerAll (rs : List Resource) : h.IsInOrder fits (h.recording.registerAll rs p).2
  := by
  induction rs generalizing p with
  | nil => apply inOrder
  | cons r rs ih =>
    obtain ⟨e, -, -, refused⟩ | ⟨-, p', takesIn, next⟩ := orderly.registerAll_cons inOrder.fits r rs
    · rw [refused]
      apply inOrder
    · rw [next]
      apply ih (inOrder.takesIn takesIn)

/-- Tickers stay in order with every call. -/
theorem call (call : SchedulerCall) : h.IsInOrder fits (h.recording.call p call)
  := by
  cases call with
  | register r =>
    obtain ⟨e, -, refused⟩ | ⟨-, done, p', registered, takesIn⟩ := orderly.register inOrder.fits r
    · rw [Runner.call, refused]
      apply inOrder
    · rw [Runner.call, registered]
      apply inOrder.takesIn takesIn
  | reconfigure rs => apply (inOrder.shutdown orderly).registerAll orderly rs
  | shutdown => apply inOrder.shutdown orderly

end IsInOrder

/-- Where no ticker has been started, all are in order. -/
theorem isInOrder_begun {start : ω} (fit : fits start)
    (idle : ∀ id, (h.schedule start).contains id = false) :
  h.IsInOrder fits ⟨start, []⟩
  where
  fits := fit
  registered := by
    intro id scheduled
    rw [idle id] at scheduled
    cases scheduled
  offline := fun _ => idle
  marked := fun _ none => absurd none List.not_mem_nil
  running := by
    intro id
    rw [idle id]
    rfl

/-- They stay so whatever is called and whatever else goes on. -/
theorem isInOrder_of_reaches (orderly : h.IsOrderly fits) {start : ω} (fit : fits start)
    (idle : ∀ id, (h.schedule start).contains id = false) {calls : List (ω × SchedulerCall)}
    (reached : h.Reaches fits start calls p) :
  h.IsInOrder fits p
  := by
  induction reached with
  | begun => apply isInOrder_begun fit idle
  | called call _ inOrder => apply inOrder.call orderly
  | meanwhile _ stands inOrder => apply inOrder.standsBy stands

/-! ### What a list comes to -/

variable (h) in
/-- What a world becomes when all resources of a list are taken in. -/
structure TakesAllIn (rs : List Resource) (p p' : Recorded ω) : Prop where
  contains_iff (id : String) : (h.schedule p'.world).contains id = true
    ↔ (h.schedule p.world).contains id = true
        ∨ ∃ r ∈ rs, r.id = id ∧ (h.loader p.world).policyFor r = .scheduled
  /-- The first resource of an identifier is registered, unless there is one before. -/
  resources (id : String) : (h.loader p'.world).resources.get? id
    = ((h.loader p.world).resources.get? id).or (rs.find? (·.id = id))

/-- A list that is not refused is taken in. -/
theorem IsOrderly.takesAllIn (orderly : h.IsOrderly fits) (hp : fits p.world) {rs : List Resource}
    (accepted : (h.recording.registerAll rs p).1 = .ok ()) :
  h.TakesAllIn rs p (h.recording.registerAll rs p).2
  := by
  induction rs generalizing p with
  | nil => constructor <;> simp [Runner.registerAll]
  | cons r rs ih =>
    obtain ⟨e, -, -, refused⟩ | ⟨-, p', takesIn, next⟩ := orderly.registerAll_cons hp r rs
    · rw [refused] at accepted
      cases accepted
    · rw [next] at accepted ⊢
      have later := ih takesIn.fits accepted
      constructor
      case contains_iff =>
        intro id
        rw [later.contains_iff, takesIn.contains_iff, or_assoc]
        simp only [takesIn.policyFor, List.mem_cons, exists_eq_or_imp]
      case resources =>
        intro id
        rw [later.resources, takesIn.resources, Option.or_assoc, List.find?_cons]
        by_cases here : r.id = id <;> simp [here]

/-! ### The main result -/

variable (h) in
/-- A world with tickers in order, and what calls make of it. -/
structure KeepsOrder (p : Recorded ω) : Prop where
  registered {id : String} : (h.schedule p.world).contains id = true →
    (h.loader p.world).isRegistered id = true
  /-- One ticker runs for a resource that is scheduled, and none for any other. -/
  running (id : String) :
    (h.running p id).length = if (h.schedule p.world).contains id then 1 else 0
  offline : (h.loader p.world).settings.offline = true → ∀ id,
    (h.schedule p.world).contains id = false
  stopped (id : String) : (h.schedule (h.shutdown p.world)).contains id = false
    ∧ h.running (h.recording.shutdown p) id = []
  /-- A resource is refused if its identifier is taken or one of its periods malformed. -/
  refused_iff (r : Resource) : (∃ e w, h.register r p.world = (.error e, w))
    ↔ (h.loader p.world).isRegistered r.id = true ∨ r.IsMalformed
  /-- Then nothing at all has changed. -/
  refused {r : Resource} {e : LoadError} {w : ω} :
    h.register r p.world = (.error e, w) → w = p.world
  /-- A list that is accepted decides alone which resources are scheduled. All that it names are
  registered, and those that were before are so as before. -/
  reconfigured {rs : List Resource} {w : ω} : h.reconfigure rs p.world = (.ok (), w) →
    (∀ id, (h.schedule w).contains id = true
        ↔ ∃ r ∈ rs, r.id = id ∧ (h.loader p.world).policyFor r = .scheduled)
      ∧ (∀ r ∈ rs, (h.loader w).isRegistered r.id = true)
      ∧ ∀ id r, (h.loader p.world).resources.get? id = some r →
          (h.loader w).resources.get? id = some r

/-- A resource is refused if the loader does not admit it, and then nothing changes. -/
theorem register_eq_error_iff {e : LoadError} {w w' : ω} :
  h.register r w = (.error e, w') ↔ (h.loader w).admits r = .error e ∧ w' = w
  := by
  rw [register_eq]
  cases (h.loader w).admits r <;> simp [eq_comm]

/-- What comes of a new schedule that is accepted. -/
theorem IsOrderly.reconfigured (orderly : h.IsOrderly fits) {w w' : ω} (hw : fits w)
    {rs : List Resource} (accepted : h.reconfigure rs w = (.ok (), w')) :
  (∀ id, (h.schedule w').contains id = true
      ↔ ∃ r ∈ rs, r.id = id ∧ (h.loader w).policyFor r = .scheduled)
    ∧ (∀ r ∈ rs, (h.loader w').isRegistered r.id = true)
    ∧ ∀ id r, (h.loader w).resources.get? id = some r → (h.loader w').resources.get? id = some r
  := by
  let p : Recorded ω := ⟨w, []⟩
  let stopped := h.recording.shutdown p
  obtain ⟨fitting, loader, schedule⟩ := orderly.shutdown hw
  obtain ⟨outcome, world⟩ := h.registerAll_recording rs stopped
  rw [show h.registerAll rs stopped.world = (.ok (), w') from accepted] at outcome world
  have takesAllIn := orderly.takesAllIn (p := stopped) fitting outcome
  have resources (id : String) := takesAllIn.resources id
  have contains (id : String) := takesAllIn.contains_iff id
  rw [world] at resources contains
  have loader : h.loader stopped.world = h.loader w := loader
  have schedule : h.schedule stopped.world = (h.schedule w).stop := schedule
  rw [loader] at resources contains
  rw [schedule] at contains
  refine ⟨?_, ?_, ?_⟩
  · intro id
    rw [contains, Schedule.contains_stop]
    simp
  · intro r mem
    rw [Loader.isRegistered, OrderedMap.contains, resources, Option.isSome_or, Bool.or_eq_true]
    right
    rw [List.find?_isSome]
    exact ⟨r, mem, by simp⟩
  · intro id r found
    rw [resources, found]
    rfl

/-- In every world that is reached from one without tickers, whatever is called and whatever
goes on meanwhile, the tickers are in order and calls do what they should. -/
theorem keepsOrder_of_reaches (orderly : h.IsOrderly fits) {start : ω} (fit : fits start)
    (idle : ∀ id, (h.schedule start).contains id = false) {calls : List (ω × SchedulerCall)}
    (reached : h.Reaches fits start calls p) :
  h.KeepsOrder p
  := by
  have inOrder := isInOrder_of_reaches orderly fit idle reached
  have stopped := inOrder.shutdown orderly
  constructor
  case registered => exact inOrder.registered
  case running =>
    intro id
    rw [inOrder.running]
    cases (h.schedule p.world).contains id <;> rfl
  case offline => apply inOrder.offline
  case stopped =>
    intro id
    have none : (h.schedule (h.shutdown p.world)).contains id = false := by
      rw [(orderly.shutdown inOrder.fits).2.2, Schedule.contains_stop]
    use none
    apply List.length_eq_zero_iff.1
    have running := stopped.running id
    rw [show (h.recording.shutdown p).world = h.shutdown p.world from rfl, none] at running
    apply running
  case refused_iff =>
    intro r
    rw [← Loader.exists_admits_eq_error_iff]
    simp [register_eq_error_iff]
  case refused =>
    intro r e w refused
    apply (register_eq_error_iff.1 refused).2
  case reconfigured => exact orderly.reconfigured inOrder.fits

/-- In a session a resource is registered, and refused when it is registered again. Then a new
schedule drops its ticker and starts one for another resource, which it names twice. -/
theorem keepsOrder_of_reaches_new_schedule :
  ∃ (start : Session) (calls : List (Session × SchedulerCall)) (p : Recorded Session)
      (weekly hourly : Resource),
    weekly = { id := "IMF", policy := .scheduled, properties := .ofList [("period", "168:00")] }
      ∧ hourly = { id := "ECB", policy := .scheduled, properties := .ofList [("period", "1:00")] }
      ∧ calls.map (·.2) = [.register weekly, .register weekly,
          .reconfigure [{ weekly with policy := .onDemand }, hourly, hourly]]
      ∧ (Session.runner Session.mainSeat).Reaches (Session.HasPlaces Session.mainSeat) start calls p
      ∧ (p.world.schedule 0).contains "IMF" = false
      ∧ (p.world.schedule 0).contains "ECB" = true
      ∧ (Session.runner Session.mainSeat).KeepsOrder p
  := by
  let h := Session.runner Session.mainSeat
  let weekly : Resource :=
    { id := "IMF", policy := .scheduled, properties := .ofList [("period", "168:00")] }
  let hourly : Resource :=
    { id := "ECB", policy := .scheduled, properties := .ofList [("period", "1:00")] }
  let start : Session := { first := { today := ⟨739195, by decide, by decide⟩ } }
  have places : Session.HasPlaces Session.mainSeat start := by
    simp [Session.HasPlaces, Session.Seats, Session.mainSeat, start]
  have idle : h.Reaches (Session.HasPlaces Session.mainSeat) start [] ⟨start, []⟩ := .begun
  have reached := ((idle.called (.register weekly)).called (.register weekly)).called
    (.reconfigure [{ weekly with policy := .onDemand }, hourly, hourly])
  refine ⟨start, _, _, weekly, hourly, rfl, rfl, rfl, reached, ?_, ?_, ?_⟩
  · decide +kernel
  · decide +kernel
  · exact keepsOrder_of_reaches (Session.isOrderly_runner _) places (fun _ => rfl) reached

end Runner

end CrossRate
