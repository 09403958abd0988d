import CrossRate.Proofs.Session.Passing

/-!
# Tickers told apart

Each ticker of a schedule has a mark of its own: those that are scheduled and those that events to
come are about were started before the next one will be (`Session.IsMarked`). So a ticker that has
been replaced is never that of its resource again (`Session.Progresses.get?_tickers`).
-/

namespace CrossRate

deriving instance DecidableEq for Seat

/-- The ticker that an event is about, with its seat and its resource. -/
def Event.ticker? : Event → Option (Seat × String × Ticker)
  | .wind seat id ticker => some (seat, id, ticker)
  | .tick seat id ticker => some (seat, id, ticker)
  | _ => none

namespace Session

variable {s s' : Session} {log handled : List (Nat × Event)}

/-! ### Marks -/

/-- What is told apart by marks: the next ticker of a schedule will be another one than all those
before. -/
structure IsMarked (s : Session) : Prop where
  pending {e : Nat × Event} {seat : Seat} {id : String} {t : Ticker} :
    e ∈ s.openings → e.2.ticker? = some (seat, id, t) →
      seat.schedule < s.schedules.length ∧ t.mark < (s.schedule seat.schedule).started
  scheduled {n : Nat} {id : String} {t : Ticker} :
    (s.schedule n).tickers.get? id = some t → t.mark < (s.schedule n).started

/-- Schedules do not become fewer, nor do the tickers that they have started. -/
theorem Progresses.started_le (h : s.Progresses handled s') :
  s.schedules.length ≤ s'.schedules.length
    ∧ ∀ n, (s.schedule n).started ≤ (s'.schedule n).started
  := by
  have same (schedules : s'.schedules = s.schedules) :
      s.schedules.length ≤ s'.schedules.length
        ∧ ∀ n, (s.schedule n).started ≤ (s'.schedule n).started := by
    simp [schedule, schedules]
  cases h with
  | event event others _ schedules => apply same schedules
  | loads started _ schedules => apply same schedules
  | time _ schedules => apply same schedules
  | refresh seat settings r bound _ set =>
    constructor
    · simp [set]
    · intro n
      rw [schedule_of_set set]
      split
      · rename_i here
        rw [← here.1, Schedule.start]
        apply Nat.le_succ
      · apply Nat.le_refl
  | schedules _ _ length started => exact ⟨length, fun n => Nat.le_of_eq (started n).symm⟩

/-- A ticker is scheduled if it was before or has just been started. -/
theorem Progresses.get?_tickers (h : s.Progresses handled s') {n : Nat} {id : String} {t : Ticker}
    (scheduled : (s'.schedule n).tickers.get? id = some t) :
  (s.schedule n).tickers.get? id = some t
    ∨ t.mark = (s.schedule n).started ∧ t.mark < (s'.schedule n).started
  := by
  have same (schedules : s'.schedules = s.schedules) :
      (s.schedule n).tickers.get? id = some t := by
    rw [schedule, schedules] at scheduled
    apply scheduled
  cases h with
  | event event others _ schedules => apply Or.inl (same schedules)
  | loads started _ schedules => apply Or.inl (same schedules)
  | time _ schedules => apply Or.inl (same schedules)
  | refresh seat settings r bound _ set =>
    rw [schedule_of_set set] at scheduled ⊢
    split at scheduled
    · rename_i here
      obtain ⟨rfl, -⟩ := here
      rw [Schedule.start, OrderedMap.get?_insert] at scheduled
      split at scheduled
      · obtain rfl := Option.some.inj scheduled
        right
        simp [bound, Schedule.start, Schedule.tickerFor]
      · apply Or.inl scheduled
    · apply Or.inl scheduled
  | schedules _ _ _ _ fewer => apply Or.inl (fewer n id t scheduled)

/-- What follows on an event is about the same ticker, or about none. -/
theorem ticker?_of_mem_sequel {event : Event} {e : Nat × Event} (mem : e ∈ s.sequel event) :
  e.2.ticker? = event.ticker? ∨ e.2.ticker? = none
  := by
  cases event with
  | wind seat id ticker =>
    rw [sequel] at mem
    split at mem
    · rw [Option.mem_toList, Option.map_eq_some_iff] at mem
      obtain ⟨due, -, rfl⟩ := mem
      exact .inl rfl
    · cases mem
  | tick seat id ticker =>
    rw [sequel] at mem
    split at mem
    · rw [List.mem_cons, List.mem_singleton] at mem
      obtain rfl | rfl := mem
      · exact .inl rfl
      · exact .inr rfl
    · cases mem
  | _ => cases mem

/-- What is about a ticker opens something. -/
theorem opens_of_ticker? {event : Event} {key : Seat × String × Ticker}
    (about : event.ticker? = some key) :
  event.opens = true
  := by
  cases event with
  | wind => rfl
  | tick => rfl
  | _ => cases about

/-- An event is about a ticker that there was before, or that has just been started. -/
theorem Progresses.exists_mem_openings (h : s.Progresses handled s') {e : Nat × Event}
    (mem : e ∈ s'.openings) {seat : Seat} {id : String} {t : Ticker}
    (about : e.2.ticker? = some (seat, id, t)) :
  (∃ e' ∈ s.openings, e'.2.ticker? = some (seat, id, t))
    ∨ seat.schedule < s.schedules.length ∧ t.mark = (s.schedule seat.schedule).started
      ∧ t.mark < (s'.schedule seat.schedule).started
  := by
  cases h with
  | event event others _ _ before after =>
    left
    rw [before]
    obtain new | old := List.mem_append.1 (after.mem_iff.1 mem)
    · obtain same | none := ticker?_of_mem_sequel new
      · rw [same] at about
        exact ⟨(s.now, event), by simp [opens_of_ticker? about], about⟩
      · rw [none] at about
        cases about
    · exact ⟨e, List.mem_append_right _ old, about⟩
  | loads started _ _ openings =>
    obtain new | old := List.mem_append.1 (openings.mem_iff.1 mem)
    · obtain ⟨t, -, rfl⟩ := List.mem_map.1 new
      cases about
    · exact .inl ⟨e, old, about⟩
  | time _ _ openings =>
    rw [openings] at mem
    exact .inl ⟨e, mem, about⟩
  | refresh seat' settings r bound _ set openings =>
    obtain rfl | old := List.mem_cons.1 (openings.mem_iff.1 mem)
    · obtain ⟨rfl, rfl, rfl⟩ : seat' = seat ∧ r.id = id ∧ _ = t := by
        simpa [Event.ticker?] using about
      right
      rw [schedule_of_set set]
      simp [bound, Schedule.start, Schedule.tickerFor]
    · exact .inl ⟨e, old, about⟩
  | schedules _ openings =>
    rw [openings] at mem
    exact .inl ⟨e, mem, about⟩

/-- What is to come is handled, or it still is to come. -/
theorem Progresses.mem_openings (h : s.Progresses handled s') {e : Nat × Event}
    (mem : e ∈ s.openings) :
  e ∈ handled ∨ e ∈ s'.openings
  := by
  cases h with
  | event event others _ _ before after =>
    rw [before] at mem
    obtain first | other := List.mem_append.1 mem
    · split at first
      · apply Or.inl first
      · cases first
    · apply Or.inr (after.mem_iff.2 (List.mem_append_right _ other))
  | loads started _ _ openings =>
    apply Or.inr (openings.mem_iff.2 (List.mem_append_right _ mem))
  | time _ _ openings =>
    rw [openings]
    apply Or.inr mem
  | refresh seat settings r _ _ _ openings =>
    apply Or.inr (openings.mem_iff.2 (List.mem_cons_of_mem _ mem))
  | schedules _ openings =>
    rw [openings]
    apply Or.inr mem

/-- Tickers stay told apart, whatever happens. -/
theorem IsMarked.progresses (h : s.IsMarked) (progresses : s.Progresses handled s') :
  s'.IsMarked
  := by
  obtain ⟨length, started⟩ := progresses.started_le
  constructor
  · intro e seat id t mem about
    obtain ⟨e', mem', about'⟩ | ⟨bound, -, new⟩ := progresses.exists_mem_openings mem about
    · obtain ⟨bound, old⟩ := h.pending mem' about'
      exact ⟨Nat.lt_of_lt_of_le bound length, Nat.lt_of_lt_of_le old (started _)⟩
    · exact ⟨Nat.lt_of_lt_of_le bound length, new⟩
  · intro n id t scheduled
    obtain old | ⟨-, new⟩ := progresses.get?_tickers scheduled
    · apply Nat.lt_of_lt_of_le (h.scheduled old) (started n)
    · apply new

theorem Lasts.isMarked (h : s.Lasts log s') (timely : s.IsTimely) (marked : s.IsMarked) :
  s'.IsMarked
  := by
  induction h with
  | refl => apply marked
  | step lasts happens ih => apply ih.progresses (happens.progresses (lasts.isTimely timely)).2

/-- A new session has nothing on its agenda. -/
theorem isTimely_new (d : Desk) : IsTimely { first := d }
  := by
  constructor
  case ascending => apply List.Pairwise.nil
  all_goals
    intro e mem
    cases mem

/-- A new session has no tickers. -/
theorem isMarked_new (d : Desk) : IsMarked { first := d }
  := by
  have empty (n : Nat) : schedule { first := d } n = {} := by
    cases n <;> rfl
  constructor
  · intro e seat id t mem
    cases mem
  · intro n id t scheduled
    rw [empty] at scheduled
    cases scheduled

end Session

end CrossRate
