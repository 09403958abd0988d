import CrossRate.Proofs.Runner.Scheduling

/-!
# Malformed periods

A resource with a malformed period is refused when it is registered. A list of resources for a new
schedule registers only those whose identifiers are free, so it is the first of each such
identifier whose periods are checked. A list is rejected just if one of these is malformed, and a
ticker runs for a malformed resource only if some call has passed it over
(`Runner.checksPeriods`).
-/

namespace CrossRate

/-- The resources that a call names. -/
def SchedulerCall.names : SchedulerCall → List Resource
  | register r => [r]
  | reconfigure resources => resources
  | shutdown => []

/-- A ticker is one that a schedule may start for a resource. -/
def Ticker.IsFor (t : Ticker) (settings : LoaderSettings) (r : Resource) : Prop :=
  ∃ schedule : Schedule, t = schedule.tickerFor settings r

namespace Runner

variable {ω η : Type} (h : Runner ω η) (fits : ω → Prop)

/-- A resource that comes after others in a list is checked if its identifier is free and none of
the others has it. -/
def Checks (w : ω) (others : List Resource) (r : Resource) : Prop :=
  (h.loader w).isRegistered r.id = false ∧ ∀ s ∈ others, s.id ≠ r.id

/-- A call passes a resource over if it names it in a list where it is not checked. -/
def PassesOver (w : ω) (call : SchedulerCall) (r : Resource) : Prop :=
  ∃ earlier later, call = .reconfigure (earlier ++ r :: later) ∧ ¬ h.Checks w earlier r

variable {h fits} {p p' : Recorded ω} {r : Resource}

/-- What is checked when a resource has been taken in is what is checked after it. -/
theorem TakesIn.checks_iff (takesIn : h.TakesIn fits r p p') (others : List Resource)
    (s : Resource) :
  h.Checks p'.world others s ↔ h.Checks p.world (r :: others) s
  := by
  have known := takesIn.isRegistered_iff s.id
  simp only [Checks, List.forall_mem_cons, ← Bool.not_eq_true, known, not_or, and_assoc, ne_eq]

/-- A ticker after a resource has been taken in is that of the resource or one from before. -/
theorem TakesIn.get?_tickers (takesIn : h.TakesIn fits r p p') (id : String) :
  (h.schedule p'.world).tickers.get? id
    = if r.id = id ∧ (h.loader p.world).policyFor r = .scheduled then
        some ((h.schedule p.world).tickerFor (h.loader p.world).settings r)
      else (h.schedule p.world).tickers.get? id
  := by
  rw [takesIn.schedule]
  by_cases policy : (h.loader p.world).policyFor r = .scheduled
  · rw [if_pos policy, Schedule.start, OrderedMap.get?_insert]
    simp [policy, eq_comm]
  · rw [if_neg policy, if_neg (fun both => policy both.2)]

/-- A resource that was checked and not refused is well-formed. -/
theorem not_isMalformed_of_checks {w : ω} {others : List Resource}
    (fine : (h.loader w).isRegistered r.id = true ∨ r.validate = .ok ())
    (checked : h.Checks w others r) :
  ¬ r.IsMalformed
  := by
  intro malformed
  obtain ⟨e, invalid⟩ := Resource.isMalformed_iff.1 malformed
  obtain known | valid := fine
  · rw [checked.1] at known
    cases known
  · rw [invalid] at valid
    cases valid

namespace IsOrderly

variable (orderly : h.IsOrderly fits)

include orderly

/-- A list is rejected if one of the resources that are checked is malformed. -/
theorem registerAll_eq_error_iff (hp : fits p.world) (rs : List Resource) :
  (∃ e, (h.recording.registerAll rs p).1 = .error e)
    ↔ ∃ earlier r later, rs = earlier ++ r :: later ∧ h.Checks p.world earlier r ∧ r.IsMalformed
  := by
  induction rs generalizing p with
  | nil => simp [registerAll]
  | cons r rs ih =>
    obtain ⟨e, free, invalid, refused⟩ | ⟨fine, p', takesIn, next⟩ :=
      orderly.registerAll_cons hp r rs
    · rw [refused]
      apply iff_of_true ⟨e, rfl⟩
      use [], r, rs, rfl, ⟨free, fun _ none => absurd none List.not_mem_nil⟩
      apply Resource.isMalformed_iff.2 ⟨e, invalid⟩
    · rw [next, ih takesIn.fits]
      simp only [takesIn.checks_iff]
      constructor
      · rintro ⟨earlier, s, later, rfl, checked, malformed⟩
        exact ⟨r :: earlier, s, later, rfl, checked, malformed⟩
      · rintro ⟨earlier, s, later, split, checked, malformed⟩
        cases earlier with
        | nil =>
          obtain ⟨rfl, rfl⟩ := List.cons.inj split
          apply absurd malformed (not_isMalformed_of_checks fine checked)
        | cons first earlier =>
          obtain ⟨rfl, rfl⟩ := List.cons.inj split
          exact ⟨earlier, s, later, rfl, checked, malformed⟩

/-- The error names a malformed period of a resource in the list. -/
theorem exists_malformed_of_registerAll (hp : fits p.world) {rs : List Resource} {e : LoadError}
    (refused : (h.recording.registerAll rs p).1 = .error e) :
  ∃ r ∈ rs, r.validate = .error e
  := by
  induction rs generalizing p with
  | nil => cases refused
  | cons r rs ih =>
    obtain ⟨e', free, invalid, first⟩ | ⟨fine, p', takesIn, next⟩ :=
      orderly.registerAll_cons hp r rs
    · rw [first] at refused
      obtain rfl : e' = e := Except.error.inj refused
      exact ⟨r, List.mem_cons_self, invalid⟩
    · rw [next] at refused
      obtain ⟨s, mem, invalid⟩ := ih takesIn.fits refused
      exact ⟨s, List.mem_cons_of_mem r mem, invalid⟩

/-- A ticker after a list is one from before or that of the last resource of its identifier that
is scheduled, which is well-formed if it was checked. -/
theorem ticker_of_registerAll (hp : fits p.world) {rs : List Resource} {id : String} {t : Ticker}
    (found : (h.schedule (h.recording.registerAll rs p).2.world).tickers.get? id = some t) :
  (h.schedule p.world).tickers.get? id = some t
    ∨ ∃ earlier r later, rs = earlier ++ r :: later ∧ r.id = id
        ∧ (h.loader p.world).policyFor r = .scheduled
        ∧ t.IsFor (h.loader p.world).settings r
        ∧ (h.Checks p.world earlier r → ¬ r.IsMalformed)
  := by
  induction rs generalizing p with
  | nil => exact .inl found
  | cons r rs ih =>
    obtain ⟨e, -, -, refused⟩ | ⟨fine, p', takesIn, next⟩ := orderly.registerAll_cons hp r rs
    · rw [refused] at found
      exact .inl found
    · rw [next] at found
      obtain before | ⟨earlier, s, later, rfl, here, policy, isFor, checked⟩ :=
        ih takesIn.fits found
      · rw [takesIn.get?_tickers] at before
        split at before
        · rename_i new
          right
          use [], r, rs, rfl, new.1, new.2, ⟨_, (Option.some.inj before).symm⟩
          apply not_isMalformed_of_checks fine
        · exact .inl before
      · right
        use r :: earlier, s, later, rfl, here
        rw [takesIn.policyFor] at policy
        rw [takesIn.settings] at isFor
        rw [takesIn.checks_iff] at checked
        exact ⟨policy, isFor, checked⟩

theorem settings_registerAll (hp : fits p.world) (rs : List Resource) :
  (h.loader (h.recording.registerAll rs p).2.world).settings = (h.loader p.world).settings
  := by
  induction rs generalizing p with
  | nil => rfl
  | cons r rs ih =>
    obtain ⟨e, -, -, refused⟩ | ⟨-, p', takesIn, next⟩ := orderly.registerAll_cons hp r rs
    · rw [refused]
    · rw [next]
      apply (ih takesIn.fits).trans takesIn.settings

/-- No call changes the settings of the loader. -/
theorem settings_call (hp : fits p.world) (call : SchedulerCall) :
  (h.loader (h.recording.call p call).world).settings = (h.loader p.world).settings
  := by
  cases call with
  | register r =>
    obtain ⟨e, -, refused⟩ | ⟨-, done, p', registered, takesIn⟩ := orderly.register hp r
    · rw [Runner.call, refused]
    · rw [Runner.call, registered]
      apply takesIn.settings
  | reconfigure rs =>
    obtain ⟨fitting, loader, -⟩ := orderly.shutdown hp
    apply (orderly.settings_registerAll (p := h.recording.shutdown p) fitting rs).trans
    apply congrArg Loader.settings loader
  | shutdown => apply congrArg Loader.settings (orderly.shutdown hp).2.1

/-- A ticker after a call is one from before or that of a resource that the call names, which is
well-formed unless the call passes it over. -/
theorem ticker_of_call (hp : fits p.world) {call : SchedulerCall} {id : String} {t : Ticker}
    (found : (h.schedule (h.recording.call p call).world).tickers.get? id = some t) :
  (h.schedule p.world).tickers.get? id = some t
    ∨ ∃ r ∈ call.names, r.id = id ∧ (h.loader p.world).policyFor r = .scheduled
        ∧ t.IsFor (h.loader p.world).settings r
        ∧ (r.IsMalformed → h.PassesOver p.world call r)
  := by
  cases call with
  | register r =>
    obtain ⟨e, -, refused⟩ | ⟨admitted, done, p', registered, takesIn⟩ := orderly.register hp r
    · rw [Runner.call, refused] at found
      exact .inl found
    · rw [Runner.call, registered, takesIn.get?_tickers] at found
      split at found
      · rename_i new
        right
        use r, List.mem_singleton_self r, new.1, new.2, ⟨_, (Option.some.inj found).symm⟩
        intro malformed
        obtain ⟨valid, -⟩ := (Loader.admits_eq_ok_iff _ r).1 admitted
        obtain ⟨e, invalid⟩ := Resource.isMalformed_iff.1 malformed
        rw [invalid] at valid
        cases valid
      · exact .inl found
  | reconfigure rs =>
    obtain ⟨fitting, loader, schedule⟩ := orderly.shutdown hp
    have loader : h.loader (h.recording.shutdown p).world = h.loader p.world := loader
    have schedule : h.schedule (h.recording.shutdown p).world = (h.schedule p.world).stop :=
      schedule
    obtain before | ⟨earlier, r, later, rfl, here, policy, isFor, checked⟩ :=
      orderly.ticker_of_registerAll (p := h.recording.shutdown p) fitting found
    · rw [schedule] at before
      cases before
    · right
      rw [loader] at policy isFor
      rw [Checks, loader] at checked
      use r, List.mem_append_right earlier List.mem_cons_self, here, policy, isFor
      intro malformed
      use earlier, later, rfl
      exact fun checks => checked checks malformed
  | shutdown =>
    rw [show (h.schedule (h.recording.call p .shutdown).world) = (h.schedule p.world).stop from
      (orderly.shutdown hp).2.2] at found
    cases found

end IsOrderly

/-! ### The main result -/

variable (h fits) in
/-- What is known of the periods of resources from a world on in which no ticker has been
started. -/
structure ChecksPeriods (start : ω) : Prop where
  /-- A list is rejected if one of the resources that are checked is malformed. -/
  rejects_iff {w : ω} (rs : List Resource) : fits w →
    ((∃ e w', h.reconfigure rs w = (.error e, w'))
      ↔ ∃ earlier r later, rs = earlier ++ r :: later ∧ h.Checks w earlier r ∧ r.IsMalformed)
  /-- The error names a malformed period of a resource in the list. -/
  reason {w w' : ω} {rs : List Resource} {e : LoadError} : fits w →
    h.reconfigure rs w = (.error e, w') →
      ∃ r ∈ rs, ∃ key value, (key = Resource.periodKey ∨ key = Resource.delayKey)
        ∧ r.properties.get? key = some value ∧ Period.parse? value = none
        ∧ e = .invalidSettings (.malformedPeriod r.id key value)
  /-- A ticker is for a resource that some call has named and passed over if it is malformed. -/
  ticker {calls : List (ω × SchedulerCall)} {p : Recorded ω} {id : String} {t : Ticker} :
    h.Reaches fits start calls p → (h.schedule p.world).tickers.get? id = some t →
      ∃ w call r, (w, call) ∈ calls ∧ r ∈ call.names ∧ r.id = id
        ∧ (h.loader start).policyFor r = .scheduled ∧ t.IsFor (h.loader start).settings r
        ∧ (r.IsMalformed → h.PassesOver w call r)

/-- The settings of a reached world are those from the start. -/
theorem settings_of_reaches (orderly : h.IsOrderly fits) {start : ω} (fit : fits start)
    (idle : ∀ id, (h.schedule start).contains id = false) {calls : List (ω × SchedulerCall)}
    (reached : h.Reaches fits start calls p) :
  (h.loader p.world).settings = (h.loader start).settings
  := by
  induction reached with
  | begun => rfl
  | called call reached same =>
    have inOrder := isInOrder_of_reaches orderly fit idle reached
    apply (orderly.settings_call inOrder.fits call).trans same
  | meanwhile _ stands same => apply stands.settings.trans same

/-- The periods of a resource are checked when it is registered, and so no ticker runs for a
malformed one unless it was passed over in a list. -/
theorem checksPeriods (orderly : h.IsOrderly fits) {start : ω} (fit : fits start)
    (idle : ∀ id, (h.schedule start).contains id = false) :
  h.ChecksPeriods fits start
  := by
  constructor
  case rejects_iff =>
    intro w rs hw
    let p : Recorded ω := h.recording.shutdown ⟨w, []⟩
    obtain ⟨fitting, loader, -⟩ := orderly.shutdown hw
    have loader : h.loader p.world = h.loader w := loader
    have rejected := orderly.registerAll_eq_error_iff (p := p) fitting rs
    simp only [Checks, loader] at rejected
    rw [(h.registerAll_recording rs p).1] at rejected
    simp only [Checks, ← rejected, Prod.ext_iff, exists_and_left, exists_eq', and_true]
    rfl
  case reason =>
    intro w w' rs e hw refused
    let p : Recorded ω := h.recording.shutdown ⟨w, []⟩
    have refused : (h.recording.registerAll rs p).1 = .error e :=
      (h.registerAll_recording rs p).1.trans (congrArg Prod.fst refused)
    obtain ⟨r, mem, invalid⟩ :=
      orderly.exists_malformed_of_registerAll (p := p) (orderly.shutdown hw).1 refused
    use r, mem
    apply Resource.exists_malformed_of_validate invalid
  case ticker =>
    intro calls p id t reached found
    induction reached with
    | begun =>
      have none : ((h.schedule start).tickers.get? id).isSome = false := idle id
      rw [found] at none
      cases none
    | @called calls p call reached ih =>
      have inOrder := isInOrder_of_reaches orderly fit idle reached
      have settings := settings_of_reaches orderly fit idle reached
      obtain before | ⟨r, named, here, policy, isFor, passed⟩ :=
        orderly.ticker_of_call inOrder.fits found
      · obtain ⟨w, earlier, r, mem, rest⟩ := ih before
        exact ⟨w, earlier, r, List.mem_append_left _ mem, rest⟩
      · rw [Loader.policyFor_congr r settings] at policy
        rw [settings] at isFor
        exact ⟨p.world, call, r, List.mem_append_right _ (List.mem_singleton_self _), named, here,
          policy, isFor, passed⟩
    | meanwhile _ stands ih =>
      apply ih
      rw [← stands.schedule]
      apply found

/-- In a session without resources a list is rejected for the second of its resources. -/
theorem checksPeriods_second_malformed :
  ∃ (start w : Session) (fine malformed : Resource) (e : LoadError),
    fine = { id := "IMF", policy := .scheduled, properties := .ofList [("delay", "1:30")] }
      ∧ malformed = { id := "ECB", policy := .scheduled, properties := .ofList [("period", "soon")] }
      ∧ (Session.runner Session.mainSeat).reconfigure [fine, malformed] start = (.error e, w)
      ∧ (Session.runner Session.mainSeat).ChecksPeriods (Session.HasPlaces Session.mainSeat) start
  := by
  let start : Session := { first := { today := ⟨739196, by decide, by decide⟩ } }
  let fine : Resource :=
    { id := "IMF", policy := .scheduled, properties := .ofList [("delay", "1:30")] }
  let malformed : Resource :=
    { id := "ECB", policy := .scheduled, properties := .ofList [("period", "soon")] }
  have places : Session.HasPlaces Session.mainSeat start := by
    simp [Session.HasPlaces, Session.Seats, Session.mainSeat, start]
  have checks := checksPeriods (Session.isOrderly_runner _) places (fun _ => rfl)
  have checked : (Session.runner Session.mainSeat).Checks start [fine] malformed := by
    constructor
    · rfl
    · decide
  obtain ⟨e, w, rejected⟩ := (checks.rejects_iff [fine, malformed] places).2
    ⟨[fine], malformed, [], rfl, checked, Resource.periodKey, "soon", .inl rfl, by decide,
      by decide⟩
  exact ⟨start, w, fine, malformed, e, rfl, rfl, rejected, checks⟩

/-- A list with a malformed resource is accepted if one of its identifier is registered, and the
resource gets a ticker. -/
theorem reconfigure_accepts_malformed :
  ∃ (start w : Session) (p : Recorded Session) (malformed : Resource),
    malformed = { id := "R", policy := .scheduled, properties := .ofList [("period", "soon")] }
      ∧ malformed.IsMalformed
      ∧ (Session.runner Session.mainSeat).Reaches (Session.HasPlaces Session.mainSeat) start
          [(start, .register { id := "R", policy := .onDemand })] p
      ∧ (Session.runner Session.mainSeat).reconfigure [malformed] p.world = (.ok (), w)
      ∧ (w.schedule 0).contains "R" = true
  := by
  let h := Session.runner Session.mainSeat
  let start : Session := { first := { today := ⟨739197, by decide, by decide⟩ } }
  let malformed : Resource :=
    { id := "R", policy := .scheduled, properties := .ofList [("period", "soon")] }
  have idle : h.Reaches (Session.HasPlaces Session.mainSeat) start [] ⟨start, []⟩ := .begun
  let call : SchedulerCall := .register { id := "R", policy := .onDemand }
  let p := h.recording.call ⟨start, []⟩ call
  have accepted : (h.reconfigure [malformed] p.world).1.toOption = some () := by decide +kernel
  have scheduled : ((h.reconfigure [malformed] p.world).2.schedule 0).contains "R" = true := by
    decide +kernel
  refine ⟨start, _, p, malformed, rfl, ?_, idle.called call, ?_, scheduled⟩
  · exact ⟨Resource.periodKey, "soon", .inl rfl, by decide, by decide⟩
  · apply Prod.ext
    · apply toOption_eq_some_iff.1 accepted
    · rfl

end Runner

end CrossRate
