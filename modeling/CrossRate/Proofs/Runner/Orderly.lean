import CrossRate.Proofs.Loading.Run
import CrossRate.Runner.AtOnce

/-!
# Orderly runners

A runner is orderly if its desk and its schedule can be put in place of others, and if loads and
the winding of tickers change neither what is registered nor what is scheduled
(`Runner.IsOrderly`). What comes of a resource that is registered, or that is met in a list, is
then the same for all of them (`Runner.TakesIn`). To tell how many tickers there are, a runner can
record which ones it winds up (`Runner.recording`).
-/

namespace CrossRate

/-! ### Loaders -/

namespace Loader

variable {σ : Type} (l : Loader σ) (r : Resource)

/-- Whether a resource can be registered. -/
def admits : Except LoadError Unit :=
  r.validate.bind fun _ =>
    if l.resources.contains r.id then .error (.alreadyRegistered r.id) else .ok ()

/-- The loader with another resource. -/
def adding : Loader σ := { l with resources := l.resources.insert r.id r }

theorem register_eq : l.register r = (l.admits r).map (fun _ => l.adding r)
  := by
  rw [register, admits]
  cases r.validate with
  | error e => rfl
  | ok _ =>
    simp only [bind, Except.bind]
    split <;> rfl

/-- A resource whose identifier is free is admitted if its periods are well-formed. -/
theorem admits_of_free (free : l.isRegistered r.id = false) : l.admits r = r.validate
  := by
  rw [isRegistered] at free
  rw [admits, free]
  cases r.validate <;> rfl

/-- A resource is admitted if its periods are well-formed and its identifier is free. -/
theorem admits_eq_ok_iff :
  l.admits r = .ok () ↔ r.validate = .ok () ∧ l.isRegistered r.id = false
  := by
  rw [admits, isRegistered]
  cases r.validate with
  | error e => simp [Except.bind]
  | ok _ => cases l.resources.contains r.id <;> simp [Except.bind]

theorem policyFor_of_offline {l : Loader σ} (offline : l.settings.offline = true) :
  l.policyFor r = .never ∨ l.policyFor r = .onDemand
  := by
  rw [policyFor]
  split
  · exact .inr rfl
  · exact .inl (if_pos offline)

/-- Policies depend on the settings only. -/
theorem policyFor_congr {l l' : Loader σ} (settings : l'.settings = l.settings) :
  l'.policyFor r = l.policyFor r
  := by rw [policyFor, policyFor, settings]

end Loader

namespace Runner

variable {ω η : Type} (h : Runner ω η) (fits : ω → Prop)

/-- The world with another resource registered. -/
def adding (r : Resource) (w : ω) : ω := h.modifyDesk (·.modifyLoader (·.adding r)) w

/-- A resource is registered if the loader admits it, and then its policy is followed. -/
theorem register_eq (r : Resource) (w : ω) :
  h.register r w
    = match (h.loader w).admits r with
      | .error e => (.error e, w)
      | .ok _ => (.ok (h.follow r (h.adding r w)).1, (h.follow r (h.adding r w)).2)
  := by
  rw [register, Loader.register_eq]
  cases (h.loader w).admits r <;> rfl

/-! ### Laws -/

/-- Two worlds in which the same resources are registered, at loaders with the same settings, and
the same tickers are scheduled. -/
structure StandsBy (w w' : ω) : Prop where
  fits : fits w'
  settings : (h.loader w').settings = (h.loader w).settings
  resources : (h.loader w').resources = (h.loader w).resources
  schedule : h.schedule w' = h.schedule w

/-- The laws of a runner for what is registered and scheduled, in the worlds that it fits. -/
structure IsOrderly : Prop where
  desk_setDesk {w : ω} (d : Desk) : fits w → h.desk (h.setDesk d w) = d
  schedule_setDesk {w : ω} (d : Desk) : fits w → h.schedule (h.setDesk d w) = h.schedule w
  fits_setDesk {w : ω} (d : Desk) : fits w → fits (h.setDesk d w)
  desk_setSchedule {w : ω} (s : Schedule) : fits w → h.desk (h.setSchedule s w) = h.desk w
  schedule_setSchedule {w : ω} (s : Schedule) : fits w → h.schedule (h.setSchedule s w) = s
  fits_setSchedule {w : ω} (s : Schedule) : fits w → fits (h.setSchedule s w)
  load {w : ω} (id : String) (way : LoadWay) : fits w → h.StandsBy fits w (h.load id way w).2
  start {w : ω} (id : String) : fits w → h.StandsBy fits w (h.start id w).2
  wind {w : ω} (id : String) (ticker : Ticker) :
    fits w → h.StandsBy fits w (h.wind id ticker w)

/-! ### Records of tickers -/

/-- A world with a record of the tickers that were wound up in it, each for a resource. -/
structure Recorded (ω : Type) where
  world : ω
  wound : List (String × Ticker) := []

/-- The same runner with a record of the tickers that it winds up. -/
def recording : Runner (Recorded ω) η where
  desk p := h.desk p.world
  setDesk d p := { p with world := h.setDesk d p.world }
  schedule p := h.schedule p.world
  setSchedule s p := { p with world := h.setSchedule s p.world }
  load id way p := ((h.load id way p.world).1, { p with world := (h.load id way p.world).2 })
  start id p := ((h.start id p.world).1, { p with world := (h.start id p.world).2 })
  await load p := ((h.await load p.world).1, { p with world := (h.await load p.world).2 })
  watch load number p := { p with world := h.watch load number p.world }
  wind id ticker p := ⟨h.wind id ticker p.world, p.wound ++ [(id, ticker)]⟩
  awaitGate number p := { p with world := h.awaitGate number p.world }

/-- The tickers of a resource that run: those that were wound up and are scheduled still. -/
def running (p : Recorded ω) (id : String) : List (String × Ticker) :=
  p.wound.filter fun e => e.1 = id ∧ (h.schedule p.world).tickers.get? id = some e.2

theorem follow_recording (r : Resource) (p : Recorded ω) :
  (h.recording.follow r p).1 = (h.follow r p.world).1
    ∧ (h.recording.follow r p).2.world = (h.follow r p.world).2
  := by
  have same : (h.recording.loader p).policyFor r = (h.loader p.world).policyFor r := rfl
  rw [follow, follow, same]
  cases (h.loader p.world).policyFor r <;> exact ⟨rfl, rfl⟩

theorem register_recording (r : Resource) (p : Recorded ω) :
  (h.recording.register r p).1 = (h.register r p.world).1
    ∧ (h.recording.register r p).2.world = (h.register r p.world).2
  := by
  have same : (h.recording.loader p).admits r = (h.loader p.world).admits r := rfl
  rw [register_eq, register_eq, same]
  cases (h.loader p.world).admits r with
  | error e => exact ⟨rfl, rfl⟩
  | ok _ =>
    obtain ⟨outcome, world⟩ := h.follow_recording r (h.recording.adding r p)
    use congrArg Except.ok outcome
    apply world

theorem registerAll_recording (rs : List Resource) (p : Recorded ω) :
  (h.recording.registerAll rs p).1 = (h.registerAll rs p.world).1
    ∧ (h.recording.registerAll rs p).2.world = (h.registerAll rs p.world).2
  := by
  induction rs generalizing p with
  | nil => exact ⟨rfl, rfl⟩
  | cons r rs ih =>
    have known : (h.recording.loader p).isRegistered r.id = (h.loader p.world).isRegistered r.id :=
      rfl
    have policy : (h.recording.loader p).policyFor r = (h.loader p.world).policyFor r := rfl
    rw [registerAll, registerAll, known, policy]
    split
    · split
      · apply ih
      · apply ih
    · obtain ⟨outcome, world⟩ := h.register_recording r p
      cases first : h.register r p.world with
      | mk result w =>
        rw [first] at outcome world
        cases first' : h.recording.register r p with
        | mk result' p' =>
          rw [first'] at outcome world
          obtain rfl : result' = result := outcome
          obtain rfl : p'.world = w := world
          cases result' with
          | error e => exact ⟨rfl, rfl⟩
          | ok done => apply ih

/-! ### Resources that are taken in -/

/-- What a world becomes when a resource gets a ticker if its policy asks for one. -/
structure Schedules (r : Resource) (p p' : Recorded ω) : Prop where
  fits : fits p'.world
  settings : (h.loader p'.world).settings = (h.loader p.world).settings
  schedule : h.schedule p'.world
    = if (h.loader p.world).policyFor r = .scheduled then
        (h.schedule p.world).start (h.loader p.world).settings r
      else h.schedule p.world
  wound : p'.wound
    = if (h.loader p.world).policyFor r = .scheduled then
        p.wound ++ [(r.id, (h.schedule p.world).tickerFor (h.loader p.world).settings r)]
      else p.wound

/-- What a world becomes when a resource is registered unless one of its identifier is, and gets
a ticker if its policy asks for one. -/
structure TakesIn (r : Resource) (p p' : Recorded ω) : Prop extends h.Schedules fits r p p' where
  resources (id : String) : (h.loader p'.world).resources.get? id
    = ((h.loader p.world).resources.get? id).or (if r.id = id then some r else none)

namespace IsOrderly

variable {h fits} (orderly : h.IsOrderly fits) {p : Recorded ω}

include orderly

/-- Stopping all tickers leaves what is registered as it is. -/
theorem shutdown {w : ω} (hw : fits w) :
  fits (h.shutdown w) ∧ h.loader (h.shutdown w) = h.loader w
    ∧ h.schedule (h.shutdown w) = (h.schedule w).stop
  where
  left := orderly.fits_setSchedule _ hw
  right := ⟨congrArg Desk.loader (orderly.desk_setSchedule _ hw),
    orderly.schedule_setSchedule _ hw⟩

/-- A registered resource is refreshed from now on. -/
theorem refresh (hp : fits p.world) {r : Resource}
    (policy : (h.loader p.world).policyFor r = .scheduled) :
  h.Schedules fits r p (h.recording.refresh r p)
    ∧ (h.loader (h.recording.refresh r p).world).resources = (h.loader p.world).resources
  := by
  let schedule := (h.schedule p.world).start (h.loader p.world).settings r
  let ticker := (h.schedule p.world).tickerFor (h.loader p.world).settings r
  have wound : h.StandsBy fits (h.setSchedule schedule p.world) (h.refresh r p.world) :=
    orderly.wind r.id ticker (orderly.fits_setSchedule schedule hp)
  have loader : h.loader (h.setSchedule schedule p.world) = h.loader p.world := by
    rw [Runner.loader, Runner.loader, orderly.desk_setSchedule schedule hp]
  constructor
  · constructor
    case fits => apply wound.fits
    case settings =>
      rw [← loader]
      apply wound.settings
    case schedule =>
      rw [if_pos policy]
      apply wound.schedule.trans (orderly.schedule_setSchedule schedule hp)
    case wound =>
      rw [if_pos policy]
      rfl
  · rw [← loader]
    apply wound.resources

/-- What the policy of a registered resource asks for is done. -/
theorem follow (hp : fits p.world) (r : Resource) :
  h.Schedules fits r p (h.recording.follow r p).2
    ∧ (h.loader (h.recording.follow r p).2.world).resources = (h.loader p.world).resources
  := by
  have stands {w : ω} (other : (h.loader p.world).policyFor r ≠ .scheduled)
      (stands : h.StandsBy fits p.world w) :
      h.Schedules fits r p { p with world := w }
        ∧ (h.loader w).resources = (h.loader p.world).resources := by
    refine ⟨⟨stands.fits, stands.settings, ?_, ?_⟩, stands.resources⟩
    · rw [if_neg other]
      apply stands.schedule
    · rw [if_neg other]
  have same : (h.recording.loader p).policyFor r = (h.loader p.world).policyFor r := rfl
  rw [Runner.follow, same]
  cases policy : (h.loader p.world).policyFor r with
  | never => apply stands (by simp [policy]) (orderly.load r.id .atHand hp)
  | onStartup => apply stands (by simp [policy]) (orderly.start r.id hp)
  | onDemand => apply stands (by simp [policy]) ⟨hp, rfl, rfl, rfl⟩
  | scheduled =>
    have started := orderly.start r.id hp
    let q : Recorded ω := { p with world := (h.start r.id p.world).2 }
    have policy' : (h.loader q.world).policyFor r = .scheduled := by
      rw [Loader.policyFor_congr r started.settings, policy]
    obtain ⟨refreshed, resources⟩ := orderly.refresh (p := q) started.fits policy'
    refine ⟨⟨refreshed.fits, refreshed.settings.trans started.settings, ?_, ?_⟩,
      resources.trans started.resources⟩
    · have schedule := refreshed.schedule
      rw [if_pos policy', started.settings, started.schedule] at schedule
      rw [if_pos policy]
      apply schedule
    · have wound := refreshed.wound
      rw [if_pos policy', started.settings, started.schedule] at wound
      rw [if_pos policy]
      apply wound

/-- A resource is registered if the loader admits it, and else nothing changes. -/
theorem register (hp : fits p.world) (r : Resource) :
  (∃ e, (h.loader p.world).admits r = .error e ∧ h.recording.register r p = (.error e, p))
    ∨ (h.loader p.world).admits r = .ok ()
      ∧ ∃ done p', h.recording.register r p = (.ok done, p') ∧ h.TakesIn fits r p p'
  := by
  have same : (h.recording.loader p).admits r = (h.loader p.world).admits r := rfl
  rw [register_eq, same]
  cases admitted : (h.loader p.world).admits r with
  | error e => exact .inl ⟨e, rfl, rfl⟩
  | ok _ =>
    right
    have free : (h.loader p.world).resources.contains r.id = false :=
      (((h.loader p.world).admits_eq_ok_iff r).1 admitted).2
    have loader : h.loader (h.recording.adding r p).world = (h.loader p.world).adding r := by
      have desk := orderly.desk_setDesk ((h.desk p.world).modifyLoader (·.adding r)) hp
      apply congrArg Desk.loader desk
    have settings : (h.loader (h.recording.adding r p).world).settings
        = (h.loader p.world).settings := by
      rw [loader, Loader.adding]
    have schedule : h.schedule (h.recording.adding r p).world = h.schedule p.world :=
      orderly.schedule_setDesk _ hp
    obtain ⟨follows, resources⟩ :=
      orderly.follow (p := h.recording.adding r p) (orderly.fits_setDesk _ hp) r
    refine ⟨rfl, _, _, rfl, ⟨⟨follows.fits, follows.settings.trans settings, ?_, ?_⟩, ?_⟩⟩
    · have followed := follows.schedule
      rw [Loader.policyFor_congr r settings, settings, schedule] at followed
      apply followed
    · have followed := follows.wound
      rw [Loader.policyFor_congr r settings, settings, schedule] at followed
      apply followed
    · intro id
      rw [resources, loader, Loader.adding, OrderedMap.get?_insert]
      by_cases here : id = r.id
      · subst here
        rw [OrderedMap.contains, Option.isSome_eq_false_iff, Option.isNone_iff_eq_none] at free
        simp [free]
      · simp [here, Ne.symm here]

/-- A resource in a list is refused and the list given up, or it is taken in and the list gone
on with. It is refused if its identifier is free but its periods are not well-formed. -/
theorem registerAll_cons (hp : fits p.world) (r : Resource) (rs : List Resource) :
  (∃ e, (h.loader p.world).isRegistered r.id = false ∧ r.validate = .error e
      ∧ h.recording.registerAll (r :: rs) p = (.error e, p))
    ∨ ((h.loader p.world).isRegistered r.id = true ∨ r.validate = .ok ())
      ∧ ∃ p', h.TakesIn fits r p p'
        ∧ h.recording.registerAll (r :: rs) p = h.recording.registerAll rs p'
  := by
  have loader : h.recording.loader p = h.loader p.world := rfl
  rw [registerAll, loader]
  cases known : (h.loader p.world).isRegistered r.id with
  | true =>
    right
    use .inl rfl
    have same (id : String) : (h.loader p.world).resources.get? id
        = ((h.loader p.world).resources.get? id).or (if r.id = id then some r else none) := by
      by_cases here : r.id = id
      · subst here
        obtain ⟨r', found⟩ := Option.isSome_iff_exists.1 known
        rw [found]
        rfl
      · simp [here]
    by_cases policy : (h.loader p.world).policyFor r = .scheduled
    · obtain ⟨refreshed, resources⟩ := orderly.refresh hp policy
      refine ⟨_, ⟨refreshed, ?_⟩, by rw [if_pos rfl, if_pos policy]⟩
      rw [resources]
      apply same
    · refine ⟨p, ⟨⟨hp, rfl, ?_, ?_⟩, same⟩, by rw [if_pos rfl, if_neg policy]⟩
      · rw [if_neg policy]
      · rw [if_neg policy]
  | false =>
    have admits := (h.loader p.world).admits_of_free r known
    obtain ⟨e, refused, registered⟩ | ⟨admitted, done, p', registered, takesIn⟩ :=
      orderly.register hp r
    · left
      use e, rfl, admits.symm.trans refused
      rw [registered]
      rfl
    · right
      use .inr (admits.symm.trans admitted), p', takesIn
      rw [registered]
      rfl

end IsOrderly

end Runner

/-- Loads that end at once leave what is registered and scheduled as it is, in every office. -/
theorem Office.isOrderly_runner (ask : Desk → Location → Except LoadError Bytes) :
  (Office.runner ask).IsOrderly (fun _ => True)
  where
  desk_setDesk := fun _ _ => rfl
  schedule_setDesk := fun _ _ => rfl
  fits_setDesk := fun _ _ => trivial
  desk_setSchedule := fun _ _ => rfl
  schedule_setSchedule := fun _ _ => rfl
  fits_setSchedule := fun _ _ => trivial
  load := by
    intro o id way _
    have loaded := Desk.admitsLoads_sameSetUp.perform
      (fun question => ask o.desk question.location) o.desk id way
    exact ⟨trivial, loaded.settings, loaded.resources, rfl⟩
  start := by
    intro o id _
    have loaded := Desk.admitsLoads_sameSetUp.perform
      (fun question => ask o.desk question.location) o.desk id .full
    exact ⟨trivial, loaded.settings, loaded.resources, rfl⟩
  wind := fun _ _ _ => ⟨trivial, rfl, rfl, rfl⟩

end CrossRate
