import CrossRate.Proofs.Session.Marking

/-!
# Resources that are refreshed

A ticker that is started for a resource ticks at the times that follow from its delay and its
period, and a load of the resource begins each time, for as long as the ticker is the one of the
resource. That is so if the clock can tell the time of the first tick. If it cannot, the ticker
never ticks, although the resource is said to be scheduled (`Refresher.isScheduled_of_register`).
-/

namespace CrossRate

/-! ### The course of a ticker -/

/-- The ticker that ticks, with its seat and its resource. -/
def Event.ticking? : Event → Option (Seat × String × Ticker)
  | .tick seat id ticker => some (seat, id, ticker)
  | _ => none

/-- A ticker that was started at a time, with its seat and its resource. -/
structure Refresher where
  seat : Seat
  id : String
  ticker : Ticker
  since : Nat

namespace Refresher

open Session

variable (c : Refresher) {s s' : Session} {log log' handled : List (Nat × Event)}

/-- Whether an event is about the ticker. -/
def concerns (event : Event) : Bool := event.ticker? = some (c.seat, c.id, c.ticker)

/-- Whether the ticker still is the one of its resource. -/
def isCurrent (s : Session) : Bool := s.isCurrent c.seat c.id c.ticker

/-- What is to come of the ticker. -/
def pending (s : Session) : List (Nat × Event) := s.openings.filter (c.concerns ·.2)

/-- The times at which the ticker has ticked. -/
def ticks (log : List (Nat × Event)) : List Nat :=
  (log.filter (·.2.ticking? = some (c.seat, c.id, c.ticker))).map Prod.fst

/-- The time of a tick, the first of which comes after the delay and one period. -/
def tickTime (k : Nat) : Nat := c.since + 1000 * c.ticker.delay + (k + 1) * c.ticker.interval

/-- The times at which the ticker should have ticked by now. -/
def timesUntil (now : Nat) : List Nat :=
  (List.range ((now - (c.since + 1000 * c.ticker.delay)) / c.ticker.interval)).map c.tickTime

/-- The clock can tell the time of the first tick. -/
def IsInRange : Prop := c.since / 1000 + c.ticker.delay + c.ticker.period ≤ Ticker.lastSecond

instance : Decidable c.IsInRange := inferInstanceAs (Decidable (_ ≤ _))

/-- A load of the resource that the ticker has started begins at a time. -/
def begins (time number : Nat) : Nat × Event :=
  (time, .begin ⟨number, c.seat.desk, c.id, .full, .ticked⟩)

/-- How far the ticker has come. -/
inductive Stands (log : List (Nat × Event)) (s : Session) : Prop where
  /-- It is about to start. -/
  | wound : s.now = c.since → c.pending s = [(c.since, .wind c.seat c.id c.ticker)] →
    c.ticks log = [] → Stands log s
  /-- It has ticked a number of times, and will tick again. -/
  | ticking (k : Nat) : c.IsInRange → c.pending s = [(c.tickTime k, .tick c.seat c.id c.ticker)] →
    c.ticks log = (List.range k).map c.tickTime → (∀ i < k, c.tickTime i ≤ s.now) → Stands log s
  /-- It has given up. -/
  | stopped : ¬ c.IsInRange → c.pending s = [] → c.ticks log = [] → Stands log s

/-- A ticker that has not been replaced is on its course. -/
structure IsTracked (log : List (Nat × Event)) (s : Session) : Prop where
  seated : c.seat.schedule < s.schedules.length
  marked : c.ticker.mark < (s.schedule c.seat.schedule).started
  stands : c.isCurrent s = true → c.Stands log s
  loads : c.isCurrent s = true → ∀ time ∈ c.ticks log, ∃ number,
    c.begins time number ∈ log ++ s.openings

variable {c}

theorem ticks_append (log handled : List (Nat × Event)) :
  c.ticks (log ++ handled) = c.ticks log ++ c.ticks handled
  := by rw [ticks, List.filter_append, List.map_append, ticks, ticks]

/-- An event that ticks is about the ticker. -/
theorem ticks_singleton_of_other {event : Event} (other : c.concerns event = false) (time : Nat) :
  c.ticks [(time, event)] = []
  := by
  cases event with
  | tick seat id ticker =>
    have another : some (seat, id, ticker) ≠ some (c.seat, c.id, c.ticker) :=
      of_decide_eq_false other
    simp [ticks, Event.ticking?, another]
  | _ => rfl

/-- What happens to others leaves the ticker where it is. -/
theorem Stands.of_pending (h : c.Stands log s) (now : s'.now = s.now)
    (pending : (c.pending s').Perm (c.pending s)) (ticks : c.ticks log' = c.ticks log) :
  c.Stands log' s'
  := by
  cases h with
  | wound started awaits none =>
    rw [awaits, List.perm_singleton] at pending
    exact .wound (now.trans started) pending (ticks.trans none)
  | ticking k fits awaits times past =>
    rw [awaits, List.perm_singleton] at pending
    rw [← now] at past
    exact .ticking k fits pending (ticks.trans times) past
  | stopped beyond awaits none =>
    rw [awaits, List.perm_nil] at pending
    exact .stopped beyond pending (ticks.trans none)

theorem firstTick?_since (positive : 0 < c.ticker.period) :
  c.ticker.firstTick? c.since = if c.IsInRange then some (c.tickTime 0) else none
  := by simp [Ticker.firstTick?, IsInRange, tickTime, positive]

/-- An event that is about the ticker brings it one step further. -/
theorem Stands.handle (h : c.Stands log s) (positive : 0 < c.ticker.period)
    (current : c.isCurrent s = true) {event : Event} (concerns : c.concerns event = true)
    {others : List (Nat × Event)} (now : s'.now = s.now)
    (before : s.openings = (s.now, event) :: others)
    (after : s'.openings.Perm (s.sequel event ++ others)) :
  c.Stands (log ++ [(s.now, event)]) s'
  := by
  have current : s.isCurrent c.seat c.id c.ticker = true := current
  have awaits : c.pending s = (s.now, event) :: others.filter (c.concerns ·.2) := by
    simp only [pending, before, List.filter_cons, concerns, if_true]
  have later : (c.pending s').Perm ((s.sequel event ++ others).filter (c.concerns ·.2)) :=
    after.filter _
  rw [List.filter_append] at later
  cases h with
  | wound started first none =>
    rw [awaits, List.cons.injEq, Prod.mk.injEq] at first
    obtain ⟨⟨-, rfl⟩, rest⟩ := first
    have silent : c.ticks (log ++ [(s.now, .wind c.seat c.id c.ticker)]) = [] := by
      rw [ticks_append, none]
      rfl
    rw [sequel, if_pos current, started, firstTick?_since positive, rest, List.append_nil] at later
    by_cases fits : c.IsInRange
    · have next : c.concerns (.tick c.seat c.id c.ticker) = true := decide_eq_true rfl
      rw [if_pos fits] at later
      simp only [Option.map_some, Option.toList_some, List.filter_cons, next, if_true,
        List.filter_nil, List.perm_singleton] at later
      exact .ticking 0 fits later silent (fun i none => absurd none (Nat.not_lt_zero i))
    · rw [if_neg fits] at later
      simp only [Option.map_none, Option.toList_none, List.filter_nil, List.perm_nil] at later
      exact .stopped fits later silent
  | ticking k fits next times past =>
    rw [awaits, List.cons.injEq, Prod.mk.injEq] at next
    obtain ⟨⟨time, rfl⟩, rest⟩ := next
    have next : c.concerns (.tick c.seat c.id c.ticker) = true := decide_eq_true rfl
    have begun : c.concerns (.begin ⟨s.loads, c.seat.desk, c.id, .full, .ticked⟩) = false := rfl
    have following : s.now + c.ticker.interval = c.tickTime (k + 1) := by
      rw [time, tickTime, tickTime, Nat.succ_mul (k + 1)]
      omega
    rw [sequel, if_pos current, rest, List.append_nil] at later
    simp only [List.filter_cons, next, begun, if_true, List.filter_nil, following] at later
    refine .ticking (k + 1) fits (List.perm_singleton.1 later) ?_ ?_
    · rw [ticks_append, times, List.range_succ, List.map_append, List.map_singleton, ← time]
      simp [ticks, Event.ticking?]
    · intro i before
      rw [now]
      obtain old | rfl := Nat.lt_succ_iff_lt_or_eq.1 before
      · apply past i old
      · apply Nat.le_of_eq time.symm
  | stopped beyond none =>
    rw [awaits] at none
    cases none

/-- What is handled for others, and what follows on it, does not concern the ticker. -/
theorem Stands.handle_of_other (h : c.Stands log s) {event : Event}
    (other : c.concerns event = false) {others : List (Nat × Event)} (now : s'.now = s.now)
    (before : s.openings = (if event.opens then [(s.now, event)] else []) ++ others)
    (after : s'.openings.Perm (s.sequel event ++ others)) :
  c.Stands (log ++ [(s.now, event)]) s'
  := by
  have first : (if event.opens then [(s.now, event)] else []).filter (c.concerns ·.2) = [] := by
    split <;> simp [other]
  have following : (s.sequel event).filter (c.concerns ·.2) = [] := by
    rw [List.filter_eq_nil_iff]
    intro e mem concerns
    have about : e.2.ticker? = some (c.seat, c.id, c.ticker) := of_decide_eq_true concerns
    obtain same | none := ticker?_of_mem_sequel mem
    · rw [same] at about
      exact absurd about (of_decide_eq_false other)
    · rw [none] at about
      cases about
  apply h.of_pending now
  · have kept : (c.pending s').Perm ((s.sequel event ++ others).filter (c.concerns ·.2)) :=
      after.filter _
    rw [List.filter_append, following] at kept
    have mine : c.pending s = [] ++ others.filter (c.concerns ·.2) := by
      rw [pending, before, List.filter_append, first]
    rw [mine]
    apply kept
  · rw [ticks_append, ticks_singleton_of_other other, List.append_nil]

/-- While time passes nothing is due. -/
theorem Stands.time (h : c.Stands log s) (later : s.now ≤ s'.now)
    (openings : s'.openings = s.openings) (idle : ∀ e ∈ s.openings, s.now < e.1) :
  c.Stands log s'
  := by
  have same : c.pending s' = c.pending s := by rw [pending, openings, pending]
  cases h with
  | wound started awaits none =>
    have due : (c.since, .wind c.seat c.id c.ticker) ∈ c.pending s := by
      rw [awaits]
      apply List.mem_singleton_self
    have ahead := idle _ (List.mem_filter.1 due).1
    rw [started] at ahead
    exact absurd ahead (Nat.lt_irrefl _)
  | ticking k fits awaits times past =>
    exact .ticking k fits (same.trans awaits) times (fun i old => Nat.le_trans (past i old) later)
  | stopped beyond awaits none => exact .stopped beyond (same.trans awaits) none

/-- Whatever happens, the ticker goes on as long as it is the one of its resource. -/
theorem Stands.progresses (h : c.Stands log s) (positive : 0 < c.ticker.period)
    (current : c.isCurrent s = true)
    (marked : c.ticker.mark < (s.schedule c.seat.schedule).started)
    (progresses : s.Progresses handled s') :
  c.Stands (log ++ handled) s'
  := by
  cases progresses with
  | event event others now _ before after =>
    cases concerns : c.concerns event with
    | true =>
      rw [opens_of_ticker? (of_decide_eq_true concerns)] at before
      apply h.handle positive current concerns now before after
    | false => apply h.handle_of_other concerns now before after
  | loads started now _ openings =>
    rw [List.append_nil]
    apply h.of_pending now _ rfl
    have begun : (started.map (s.now, .begin ·)).filter (c.concerns ·.2) = [] := by
      rw [List.filter_eq_nil_iff]
      intro e mem
      obtain ⟨t, -, rfl⟩ := List.mem_map.1 mem
      simp [concerns, Event.ticker?]
    have kept := openings.filter (c.concerns ·.2)
    rw [List.filter_append, begun] at kept
    apply kept
  | time later _ openings idle =>
    rw [List.append_nil]
    apply h.time later openings idle
  | refresh seat settings r _ now _ openings =>
    rw [List.append_nil]
    apply h.of_pending now _ rfl
    -- The ticker that is started has a later mark.
    have other : c.concerns (.wind seat r.id
        ((s.schedule seat.schedule).tickerFor settings r)) = false := by
      apply decide_eq_false
      intro about
      obtain ⟨rfl, -, same⟩ : seat = c.seat ∧ r.id = c.id ∧ _ = c.ticker := by
        simpa [Event.ticker?] using about
      rw [← same] at marked
      exact Nat.lt_irrefl _ marked
    have kept := openings.filter (c.concerns ·.2)
    rw [List.filter_cons_of_neg (by simp [other])] at kept
    apply kept
  | schedules now openings =>
    rw [List.append_nil]
    apply h.of_pending now _ rfl
    rw [pending, openings]
    apply List.Perm.refl

/-- The load that a tick starts is to begin at once, or it has begun. -/
theorem exists_begins (loads : ∀ time ∈ c.ticks log, ∃ number,
      c.begins time number ∈ log ++ s.openings) (current : c.isCurrent s = true)
    (progresses : s.Progresses handled s') {time : Nat} (mem : time ∈ c.ticks (log ++ handled)) :
  ∃ number, c.begins time number ∈ (log ++ handled) ++ s'.openings
  := by
  rw [ticks_append] at mem
  obtain old | new := List.mem_append.1 mem
  · obtain ⟨number, found⟩ := loads time old
    use number
    rw [List.append_assoc]
    obtain begun | awaits := List.mem_append.1 found
    · apply List.mem_append_left _ begun
    · apply List.mem_append_right
      apply List.mem_append.2 (progresses.mem_openings awaits)
  · cases progresses with
    | event event others _ _ _ after =>
      use s.loads
      apply List.mem_append_right
      apply after.mem_iff.2
      apply List.mem_append_left
      rw [ticks] at new
      obtain ⟨e, ticked, rfl⟩ := List.mem_map.1 new
      obtain ⟨single, ticking⟩ := List.mem_filter.1 ticked
      obtain rfl := List.mem_singleton.1 single
      cases event with
      | tick seat id ticker =>
        obtain ⟨rfl, rfl, rfl⟩ : seat = c.seat ∧ id = c.id ∧ ticker = c.ticker := by
          simpa [Event.ticking?] using ticking
        have current : s.isCurrent c.seat c.id c.ticker = true := current
        simp [sequel, current, begins]
      | _ => simp [Event.ticking?] at ticking
    | _ => cases new

/-- A ticker that has not been replaced stays on its course, whatever happens. -/
theorem IsTracked.progresses (h : c.IsTracked log s) (positive : 0 < c.ticker.period)
    (progresses : s.Progresses handled s') :
  c.IsTracked (log ++ handled) s'
  := by
  obtain ⟨length, started⟩ := progresses.started_le
  -- A ticker that has come to be scheduled just now has a later mark.
  have was (current : c.isCurrent s' = true) : c.isCurrent s = true := by
    obtain old | ⟨new, -⟩ := progresses.get?_tickers (of_decide_eq_true current)
    · apply decide_eq_true old
    · exact absurd h.marked (by omega)
  constructor
  case seated => apply Nat.lt_of_lt_of_le h.seated length
  case marked => apply Nat.lt_of_lt_of_le h.marked (started _)
  case stands =>
    intro current
    apply (h.stands (was current)).progresses positive (was current) h.marked progresses
  case loads =>
    intro current time mem
    apply exists_begins (h.loads (was current)) (was current) progresses mem

/-- So it does while the session lasts. -/
theorem IsTracked.lasts (h : c.IsTracked [] s) (positive : 0 < c.ticker.period)
    (timely : s.IsTimely) (lasts : s.Lasts log s') :
  c.IsTracked log s'
  := by
  induction lasts with
  | refl => apply h
  | step lasts happens ih =>
    apply ih.progresses positive (happens.progresses (lasts.isTimely timely)).2

/-- When nothing is due, the ticker has ticked at its times if it ticks at all. -/
theorem Stands.ticks_eq (h : c.Stands log s) (positive : 0 < c.ticker.period)
    (timely : s.IsTimely) (idle : s.nextDue? = none) :
  c.ticks log = if c.IsInRange then c.timesUntil s.now else []
  := by
  have ahead {e : Nat × Event} (mem : e ∈ c.pending s) : s.now < e.1 :=
    timely.lt_of_nextDue? idle (List.mem_filter.1 (List.mem_filter.1 mem).1).1
  cases h with
  | wound started awaits none =>
    rw [awaits] at ahead
    have ahead := ahead (List.mem_singleton_self _)
    rw [started] at ahead
    exact absurd ahead (Nat.lt_irrefl _)
  | ticking k fits awaits times past =>
    rw [awaits] at ahead
    have ahead : s.now < c.tickTime k := ahead (List.mem_singleton_self _)
    -- The next tick is ahead, and the last one, if there was one, is past.
    have count : (s.now - (c.since + 1000 * c.ticker.delay)) / c.ticker.interval = k := by
      rw [tickTime] at ahead
      apply Nat.div_eq_of_lt_le
      · cases k with
        | zero => simp
        | succ k =>
          have last := past k (Nat.lt_succ_self k)
          rw [tickTime] at last
          omega
      · have some : 0 < (k + 1) * c.ticker.interval :=
          Nat.mul_pos (Nat.succ_pos k) (Nat.mul_pos (by decide) positive)
        omega
    rw [if_pos fits, times, timesUntil, count]
  | stopped beyond awaits none => rw [if_neg beyond, none]

/-- The times at which it should have ticked are past. -/
theorem le_of_mem_timesUntil (positive : 0 < c.ticker.period) {now time : Nat}
    (mem : time ∈ c.timesUntil now) :
  time ≤ now
  := by
  obtain ⟨k, before, rfl⟩ := List.mem_map.1 mem
  have interval : 0 < c.ticker.interval := Nat.mul_pos (by decide) positive
  have enough := (Nat.le_div_iff_mul_le interval).1 (Nat.succ_le_of_lt (List.mem_range.1 before))
  have some : 0 < (k + 1) * c.ticker.interval := Nat.mul_pos (Nat.succ_pos k) interval
  rw [tickTime]
  rw [Nat.succ_eq_add_one] at enough
  omega

/-! ### Tickers that can run -/

variable (c)

/-- The ticker can run: its interval is not empty, the clock can tell the time of its first tick,
and whatever becomes of the session, by now the ticker has ticked and a load has begun at each of
its times, unless the ticker has been replaced. -/
structure CanRun (s : Session) : Prop where
  positive : 0 < c.ticker.interval
  representable : (c.ticker.firstTick? c.since).isSome = true
  refreshed {log : List (Nat × Event)} {s' : Session} :
    s.Lasts log s' → c.isCurrent s' = true → s'.nextDue? = none →
      c.ticks log = c.timesUntil s'.now
        ∧ ∀ time ∈ c.timesUntil s'.now, ∃ number, c.begins time number ∈ log

/-- The ticker is scheduled. Its interval is not empty, and it can run just if the time of its first
tick is in the range of the clock. Otherwise it never ticks. -/
structure IsScheduled (s : Session) : Prop where
  current : c.isCurrent s = true
  contains : (s.schedule c.seat.schedule).contains c.id = true
  positive : 0 < c.ticker.interval
  canRun_iff : c.CanRun s ↔ c.IsInRange
  never : ¬ c.IsInRange → ∀ {log : List (Nat × Event)} {s' : Session},
    s.Lasts log s' → c.isCurrent s' = true → c.ticks log = []

variable {c}

/-- A ticker on its course that is in range can run. -/
theorem IsTracked.canRun (h : c.IsTracked [] s) (positive : 0 < c.ticker.period)
    (timely : s.IsTimely) (fits : c.IsInRange) :
  c.CanRun s
  where
  positive := Nat.mul_pos (by decide) positive
  representable := by rw [firstTick?_since positive, if_pos fits, Option.isSome_some]
  refreshed := by
    intro log s' lasts current idle
    have tracked := h.lasts positive timely lasts
    have ticks := (tracked.stands current).ticks_eq positive (lasts.isTimely timely) idle
    rw [if_pos fits] at ticks
    use ticks
    intro time mem
    have past := le_of_mem_timesUntil positive mem
    rw [← ticks] at mem
    obtain ⟨number, begun⟩ := tracked.loads current time mem
    use number
    obtain begun | awaits := List.mem_append.1 begun
    · apply begun
    · have ahead := (lasts.isTimely timely).lt_of_nextDue? idle (List.mem_filter.1 awaits).1
      exact absurd past (Nat.not_le_of_lt ahead)

theorem IsTracked.isScheduled (h : c.IsTracked [] s) (positive : 0 < c.ticker.period)
    (timely : s.IsTimely) (current : c.isCurrent s = true) :
  c.IsScheduled s
  where
  current := current
  contains := by
    have scheduled : (s.schedule c.seat.schedule).tickers.get? c.id = some c.ticker :=
      of_decide_eq_true current
    rw [Schedule.contains, OrderedMap.contains, scheduled, Option.isSome_some]
  positive := Nat.mul_pos (by decide) positive
  canRun_iff := by
    constructor
    · intro canRun
      have representable := canRun.representable
      rw [firstTick?_since positive] at representable
      split at representable
      · rename_i fits
        apply fits
      · cases representable
    · apply h.canRun positive timely
  never := by
    intro beyond log s' lasts current
    cases (h.lasts positive timely lasts).stands current with
    | wound _ _ none => apply none
    | ticking k fits => exact absurd fits beyond
    | stopped _ _ none => apply none

/-! ### Registration -/

/-- The period of a ticker is not zero. -/
theorem period_tickerFor_pos {settings : LoaderSettings} (valid : settings.validate = .ok ())
    (schedule : Schedule) (r : Resource) :
  0 < (schedule.tickerFor settings r).period
  := by
  rw [Schedule.tickerFor]
  cases given : r.period?.filter (0 < ·) with
  | some period =>
    have positive := (Option.filter_eq_some_iff.1 given).2
    apply of_decide_eq_true positive
  | none =>
    rw [LoaderSettings.validate] at valid
    split at valid
    · cases valid
    · split at valid
      · cases valid
      · rename_i positive
        apply Nat.pos_of_ne_zero positive

/-- A ticker that is started is on its course. -/
theorem isTracked_refresh {seat : Seat} (marked : s.IsMarked) (places : HasPlaces seat s)
    (r : Resource) {ticker : Ticker}
    (next : (s.schedule seat.schedule).tickerFor ((runner seat).loader s).settings r = ticker) :
  IsTracked ⟨seat, r.id, ticker, s.now⟩ [] ((runner seat).refresh r s)
    ∧ isCurrent ⟨seat, r.id, ticker, s.now⟩ ((runner seat).refresh r s) = true
  := by
  subst next
  let ticker := (s.schedule seat.schedule).tickerFor ((runner seat).loader s).settings r
  let c : Refresher := ⟨seat, r.id, ticker, s.now⟩
  have schedule : ((runner seat).refresh r s).schedule seat.schedule
      = (s.schedule seat.schedule).start ((runner seat).loader s).settings r := by
    rw [schedule_of_set (s := s) rfl, if_pos ⟨rfl, places.2⟩]
    rfl
  have openings : ((runner seat).refresh r s).openings.Perm
      ((s.now, .wind seat r.id ticker) :: s.openings) := openings_plan _ s.now rfl
  have fresh : s.openings.filter (c.concerns ·.2) = [] := by
    rw [List.filter_eq_nil_iff]
    intro e mem concerns
    have old := (marked.pending mem (of_decide_eq_true concerns)).2
    exact absurd old (Nat.lt_irrefl _)
  constructor
  · constructor
    case seated => apply (hasPlaces_refresh places r).2
    case marked =>
      rw [schedule]
      apply Nat.lt_succ_self
    case stands =>
      intro _
      refine .wound rfl ?_ rfl
      have awaits := openings.filter (c.concerns ·.2)
      have mine : c.concerns (.wind seat r.id ticker) = true := decide_eq_true rfl
      rw [List.filter_cons, if_pos mine, fresh, List.perm_singleton] at awaits
      apply awaits
    case loads =>
      intro _ time mem
      cases mem
  · rw [isCurrent, Session.isCurrent, schedule, Schedule.start, OrderedMap.get?_insert, if_pos rfl]
    apply decide_eq_true rfl

/-- A resource that is scheduled when it is registered is refreshed at its times, just if the clock
can tell when the first of them is. -/
theorem isScheduled_of_register {d : Desk} {seat : Seat} {r : Resource}
    {registration : Registration Nat} (reached : Lasts { first := d } log s)
    (places : HasPlaces seat s)
    (accepted : (runner seat).register r s = (.ok registration, s'))
    (policy : r.policy = .scheduled) (online : (s.desk seat.desk).loader.settings.offline = false)
    (valid : (s.desk seat.desk).loader.settings.validate = .ok ()) :
  IsScheduled
    ⟨seat, r.id,
      (s.schedule seat.schedule).tickerFor (s.desk seat.desk).loader.settings r, s.now⟩ s'
  := by
  let added := (runner seat).adding r s
  let begun := (added.start seat.desk r.id .started).2
  have settings : ((runner seat).loader added).settings = (s.desk seat.desk).loader.settings :=
    congrArg (·.loader.settings) (desk_setDesk _ places.1)
  have scheduled : ((runner seat).loader added).policyFor r = .scheduled := by
    rw [Loader.policyFor, policy, settings]
    simp [online]
  have last : s' = (runner seat).refresh r begun := by
    rw [Runner.register_eq] at accepted
    cases admitted : ((runner seat).loader s).admits r with
    | error e =>
      rw [admitted] at accepted
      cases accepted
    | ok _ =>
      rw [admitted] at accepted
      have followed : ((runner seat).follow r added).2 = s' := (Prod.mk.inj accepted).2
      rw [← followed, Runner.follow, scheduled]
      rfl
  have adding : s.GoesOn added := goesOn_setDesk s _ seat.desk
  have lasts : Lasts { first := d } ((log ++ []) ++ []) begun :=
    (reached.step (happens_setDesk s _ seat.desk)).step (.start added seat.desk r.id .started)
  have timely := lasts.isTimely (isTimely_new d)
  have marked := lasts.isMarked (isTimely_new d) (isMarked_new d)
  have fits : HasPlaces seat begun := (isOrderly_runner seat).fits_setDesk _ places
  have next : (begun.schedule seat.schedule).tickerFor ((runner seat).loader begun).settings r
      = (s.schedule seat.schedule).tickerFor (s.desk seat.desk).loader.settings r := by
    have schedule : begun.schedule seat.schedule = s.schedule seat.schedule :=
      congrArg (·.getD seat.schedule {}) adding.schedules
    rw [schedule, ← settings]
    rfl
  have now : begun.now = s.now := adding.now
  obtain ⟨tracked, current⟩ := isTracked_refresh marked fits r next
  rw [now, ← last] at tracked current
  have refreshing : Happens begun [] s' := by
    rw [last]
    exact .refresh r fits
  apply tracked.isScheduled (period_tickerFor_pos valid _ r) (refreshing.progresses timely).1
    current

/-- A resource is refreshed each minute, half a minute after it has been registered. -/
theorem isScheduled_of_register_each_minute :
  let r : Resource :=
    { id := "ECB", policy := .scheduled, properties := .ofList [("delay", "30"), ("period", "60")] }
  let start : Session := { first := { today := ⟨739195, by decide, by decide⟩ } }
  let s := ((runner mainSeat).register r start).2
  let c : Refresher := ⟨mainSeat, "ECB", ⟨60, 30, 0⟩, 0⟩
  c.IsScheduled s ∧ c.CanRun s
    ∧ ∃ log, s.Lasts log (s.advance 200) ∧ c.ticks log = [90000, 150000]
  := by
  intro r start s c
  have places : HasPlaces mainSeat start := by simp [HasPlaces, Seats, mainSeat, start]
  obtain ⟨registration, accepted⟩ :
      ∃ registration, (runner mainSeat).register r start = (.ok registration, s) := ⟨_, rfl⟩
  have reached : Lasts start [] start := .refl
  have scheduled : c.IsScheduled s :=
    isScheduled_of_register reached places accepted rfl rfl rfl
  have canRun : c.CanRun s := scheduled.canRun_iff.2 (by decide)
  have timely : start.IsTimely := isTimely_new _
  have timely : s.IsTimely := (passes_register timely places r).isTimely timely
  obtain ⟨log, lasts⟩ := passes_runUntil timely false (fun _ => false)
    (some (s.now + 1000 * 200 + 1))
  have idle : (s.advance 200).nextDue?.isNone = true := by decide +kernel
  have ticked := canRun.refreshed lasts (by decide +kernel) (Option.isNone_iff_eq_none.1 idle)
  have times : c.timesUntil (s.advance 200).now = [90000, 150000] := by decide +kernel
  exact ⟨scheduled, canRun, log, lasts, ticked.1.trans times⟩

/-- A period of almost 2 ^ 64 seconds is accepted, but the clock cannot tell the time of the first
tick. The resource is said to be scheduled, and nothing is loaded after the first load. -/
theorem not_canRun_of_longest_period :
  let r : Resource :=
    { id := "R", policy := .scheduled, properties := .ofList [("period", "18446744073709551615")] }
  let start : Session := { first := { today := ⟨739196, by decide, by decide⟩ } }
  let s := ((runner mainSeat).register r start).2
  let c : Refresher := ⟨mainSeat, "R", ⟨18446744073709551615, 0, 0⟩, 0⟩
  start.first.loader.settings.offline = false ∧ start.first.loader.settings.validate = .ok ()
    ∧ (∃ registration, (runner mainSeat).register r start = (.ok registration, s))
    ∧ c.isCurrent s = true ∧ (s.schedule 0).contains "R" = true
    ∧ c.ticker.firstTick? s.now = none ∧ ¬ c.CanRun s ∧ (s.advance 1000000).loads = 1
  := by
  intro r start s c
  have beyond : c.ticker.firstTick? s.now = none := by decide +kernel
  refine ⟨rfl, rfl, ⟨_, rfl⟩, by decide +kernel, by decide +kernel, beyond, ?_,
    by decide +kernel⟩
  intro canRun
  have representable := canRun.representable
  rw [show c.ticker.firstTick? c.since = none from beyond] at representable
  cases representable

end Refresher

end CrossRate
