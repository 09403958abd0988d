import CrossRate.Proofs.Provider.Run
import CrossRate.Proofs.Table.Provenance

/-!
# The life of a provider

The events of a provider come on different days (`FeedProvider.live`). Its stage, its gate, its
table and its counts change by different events and under different conditions, but from event
to event they stay in accord (`FeedProvider.IsConsistent`) and none of them goes back
(`FeedProvider.Precedes`). This holds for every sequence of events, and at most one query in it is
given up for want of data (`FeedProvider.hasLifecycle`).
-/

namespace CrossRate

/-- Whether an event is the end of a load. -/
def ProviderEvent.isLoad : ProviderEvent → Bool
  | payload _ | failed _ => true
  | connected | asked _ => false

/-- Whether a query was given up since nothing had been loaded in time. -/
def RateError.isNotLoaded : Except RateError RateRecord → Bool
  | .error (.notLoaded ..) => true
  | _ => false

namespace RateTable

/-- A table that is installed has the shape of the one that was read. -/
theorem shape?_installed (current fresh : RateTable) :
  (current.installed fresh).shape? = fresh.shape?
  := by cases current <;> cases fresh <;> rfl

/-- A table with the layout of a direct table is one. -/
theorem exists_direct_of_shape? {table : RateTable} {shape : FeedShape}
    (same : table.shape? = some shape) (layout : shape.layout = .direct) :
  ∃ t, table = .direct t
  := by
  cases table with
  | empty => cases same
  | direct t => use t
  | dual t =>
    obtain rfl := Option.some.inj same
    cases layout

end RateTable

namespace FeedProvider

/-- The provider after events, each with the day on which it happens. -/
def live (p : FeedProvider) (events : List (Date × ProviderEvent)) : FeedProvider :=
  events.foldl (fun p e => p.after e.1 e.2) p

/-- What is replied to an event: something to a query only. -/
def reply? (p : FeedProvider) (today : Date) :
    ProviderEvent → Option (Except RateError RateRecord)
  | .asked query => some (p.rate today query).1
  | _ => none

/-- What is replied to the queries among events, in their order. -/
def replies (p : FeedProvider) :
    List (Date × ProviderEvent) → List (Except RateError RateRecord)
  | [] => []
  | e :: events => (p.reply? e.1 e.2).toList ++ (p.after e.1 e.2).replies events

variable {today : Date} {p q : FeedProvider}

@[simp]
theorem live_nil : p.live [] = p
  := rfl

@[simp]
theorem live_cons (e : Date × ProviderEvent) (events : List (Date × ProviderEvent)) :
  p.live (e :: events) = (p.after e.1 e.2).live events
  := rfl

theorem live_append (earlier later : List (Date × ProviderEvent)) :
  p.live (earlier ++ later) = (p.live earlier).live later
  := List.foldl_append

theorem sameFeed_live (events : List (Date × ProviderEvent)) : (p.live events).SameFeed p
  := by
  induction events generalizing p with
  | nil => exact ⟨rfl, rfl⟩
  | cons e events ih =>
    have same : (p.after e.1 e.2).SameFeed p := sameFeed_after e.2
    obtain ⟨settings, format⟩ := same
    rw [live_cons, SameFeed, ← settings, ← format]
    apply ih

/-! ### Tables that are read -/

/-- A table that is read has the shape that the provider expects. -/
theorem shape?_of_loaded? {event : ProviderEvent} {table : RateTable}
    (h : p.loaded? today event = some table) :
  table.shape? = some p.settings.shape
  := by
  obtain ⟨bytes, rfl, read⟩ := read_of_loaded? h
  rw [loaded?, toOption_eq_some_iff, FeedProvider.read, mapError_eq_ok_iff, read] at h
  have checked : p.checkShape table = .ok table := h
  rw [checkShape] at checked
  split at checked
  · rename_i shape found
    split at checked
    · rename_i same
      rw [found, same]
    · simp at checked
  · rename_i none
    cases format : p.format with
    | referenceRates =>
      rw [format] at read
      obtain ⟨t, -, rfl⟩ := FeedFormat.read_referenceRates_eq_ok_iff.1 read
      simp [RateTable.shape?] at none
    | sdrTable names =>
      rw [format] at read
      obtain ⟨t, -, rfl⟩ := FeedFormat.read_sdrTable_eq_ok_iff.1 read
      simp [RateTable.shape?] at none

/-! ### What an event does -/

/-- What an event may make of a provider. -/
inductive Step (p : FeedProvider) (today : Date) (event : ProviderEvent) : FeedProvider → Prop
  /-- The provider is fed from now on. -/
  | connected (load : event.isLoad = false) (nothing : p.loaded? today event = none) :
    Step p today event p.connected
  /-- A table is read and installed. -/
  | installed (table : RateTable) (load : event.isLoad = true)
    (loaded : p.loaded? today event = some table) : Step p today event (p.install table)
  /-- A load fails, with or without a payload. -/
  | failed (reason : String) (load : event.isLoad = true)
    (nothing : p.loaded? today event = none) : Step p today event (p.withFailure reason)
  /-- A query forces the gate open or leaves it as it is. -/
  | asked (gate : Gate) (load : event.isLoad = false) (nothing : p.loaded? today event = none)
    (released : gate = p.gate ∨ p.gate = .pending ∧ gate = .forced) :
    Step p today event { p with gate }

/-- A query that has waited for a gate in vain forces it open, and no other does anything. -/
theorem gate_rate (query : RateQuery) :
  (p.rate today query).2.gate
    = if query.accepts p.name && !p.gate.isOpen then .forced else p.gate
  := by
  rw [rate]
  cases query.accepts p.name with
  | false => rfl
  | true =>
    cases gate : p.gate with
    | pending => rfl
    | opened => simp [Gate.isOpen, gate]
    | forced => simp [Gate.isOpen, gate]

theorem step_after (event : ProviderEvent) : p.Step today event (p.after today event)
  := by
  cases event with
  | connected => exact .connected rfl rfl
  | payload bytes =>
    cases h : p.read today bytes with
    | ok table =>
      rw [after, apply_of_read_eq_ok h]
      apply Step.installed table rfl
      rw [loaded?, h]
      rfl
    | error e =>
      rw [after, apply_of_read_eq_error h]
      apply Step.failed e.message rfl
      rw [loaded?, h]
      rfl
  | failed reason => exact .failed reason rfl rfl
  | asked query =>
    rw [after, rate_snd_eq, gate_rate]
    apply Step.asked _ rfl rfl
    split
    · rename_i forced
      cases gate : p.gate with
      | pending => exact .inr ⟨rfl, rfl⟩
      | opened => simp [gate, Gate.isOpen] at forced
      | forced => exact .inl rfl
    · exact .inl rfl

/-! ### Progress -/

/-- A provider and what has become of it: nothing has gone back, a gate that was released has
stayed as it was, and without a load that succeeded the table has too. -/
structure Precedes (p q : FeedProvider) : Prop where
  sameFeed : q.SameFeed p
  stage : p.stage.rank ≤ q.stage.rank
  gate : p.gate ≠ .pending → q.gate = p.gate
  successes : p.successes ≤ q.successes
  failures : p.failures ≤ q.failures
  table : q.successes = p.successes → q.table = p.table

theorem Precedes.refl (p : FeedProvider) : p.Precedes p
  := ⟨⟨rfl, rfl⟩, Nat.le_refl _, fun _ => rfl, Nat.le_refl _, Nat.le_refl _, fun _ => rfl⟩

theorem Precedes.trans {r : FeedProvider} (h : p.Precedes q) (h' : q.Precedes r) :
  p.Precedes r
  where
  sameFeed := ⟨h'.sameFeed.1.trans h.sameFeed.1, h'.sameFeed.2.trans h.sameFeed.2⟩
  stage := Nat.le_trans h.stage h'.stage
  gate := by
    intro released
    have same := h.gate released
    rw [← same] at released ⊢
    apply h'.gate released
  successes := Nat.le_trans h.successes h'.successes
  failures := Nat.le_trans h.failures h'.failures
  table := by
    intro none
    have between := h.successes
    have between' := h'.successes
    rw [h'.table (by omega), h.table (by omega)]

theorem rank_le_rank_advance (stage next : ProviderStage) :
  stage.rank ≤ (stage.advance next).rank
  := by cases stage <;> cases next <;> decide

/-- No event makes a provider go back. -/
theorem Step.precedes {event : ProviderEvent} (h : p.Step today event q) : p.Precedes q
  := by
  cases h with
  | connected =>
    refine ⟨⟨rfl, rfl⟩, ?_, fun _ => rfl, Nat.le_refl _, Nat.le_refl _, fun _ => rfl⟩
    apply rank_le_rank_advance
  | installed table =>
    refine ⟨⟨rfl, rfl⟩, ?_, ?_, Nat.le_succ _, Nat.le_refl _, ?_⟩
    · apply rank_le_rank_advance
    · intro released
      simp [install, Gate.release, released]
    · intro none
      simp [install] at none
  | failed reason =>
    exact ⟨⟨rfl, rfl⟩, Nat.le_refl _, fun _ => rfl, Nat.le_refl _, Nat.le_succ _, fun _ => rfl⟩
  | asked gate load nothing released =>
    refine ⟨⟨rfl, rfl⟩, Nat.le_refl _, ?_, Nat.le_refl _, Nat.le_refl _, fun _ => rfl⟩
    intro closed
    obtain kept | ⟨pending, -⟩ := released
    · exact kept
    · exact absurd pending closed

theorem precedes_live (events : List (Date × ProviderEvent)) : p.Precedes (p.live events)
  := by
  induction events generalizing p with
  | nil => apply Precedes.refl
  | cons e events ih =>
    rw [live_cons]
    apply (step_after e.2).precedes.trans ih

/-! ### Accord -/

/-- The parts of a provider are in accord: it is ready with a table that some load has brought,
which has the shape that the provider expects and holds quotes of the provider only; its gate is
open if there has been such a load, and pending only if there has been none; and the last failure
is known if there has been one. -/
structure IsConsistent (p : FeedProvider) : Prop where
  ready_iff : p.stage = .ready ↔ 1 ≤ p.successes
  table_iff : p.table ≠ .empty ↔ 1 ≤ p.successes
  shape : p.table ≠ .empty → p.table.shape? = some p.settings.shape
  isOf : p.table.IsOf p.name
  opened : p.gate = .opened → 1 ≤ p.successes
  pending : p.gate = .pending → p.successes = 0
  failure_iff : p.lastFailure.isSome ↔ 1 ≤ p.failures

theorem isConsistent_fresh (settings : ProviderSettings) (format : FeedFormat) :
  (fresh settings format).IsConsistent
  where
  ready_iff := by simp [fresh]
  table_iff := by simp [fresh]
  shape := fun some => absurd rfl some
  isOf := trivial
  opened := by simp [fresh]
  pending := fun _ => rfl
  failure_iff := by simp [fresh]

/-- A provider with a table that has been read for it. -/
theorem IsConsistent.install {event : ProviderEvent} {table : RateTable} (h : p.IsConsistent)
    (loaded : p.loaded? today event = some table) :
  (p.install table).IsConsistent
  := by
  have shape := shape?_of_loaded? loaded
  have installed : (p.table.installed table).shape? = some p.settings.shape := by
    rw [RateTable.shape?_installed, shape]
  have some : p.table.installed table ≠ .empty := by
    intro none
    simp [none, RateTable.shape?] at installed
  constructor
  case ready_iff => simp [FeedProvider.install, advance_ready]
  case table_iff => simpa [FeedProvider.install] using some
  case shape => exact fun _ => installed
  case isOf =>
    obtain ⟨bytes, -, read⟩ := read_of_loaded? loaded
    have sound := FeedFormat.isSound_of_read read
    apply h.isOf.installed sound.isOf
    rintro s t current rfl
    have kept := h.shape (by simp [current])
    rw [current, ← shape] at kept
    simpa [RateTable.shape?] using kept
  case opened => simp [FeedProvider.install]
  case pending =>
    intro pending
    cases gate : p.gate <;> simp [FeedProvider.install, Gate.release, gate] at pending
  case failure_iff => apply h.failure_iff

/-- Every event keeps the parts of a provider in accord. -/
theorem Step.isConsistent {event : ProviderEvent} (h : p.Step today event q)
    (consistent : p.IsConsistent) :
  q.IsConsistent
  := by
  cases h with
  | connected =>
    exact { consistent with
      ready_iff := eq_ready_of_advance.trans consistent.ready_iff }
  | installed table load loaded => apply consistent.install loaded
  | failed reason =>
    exact { consistent with
      failure_iff := iff_of_true rfl (Nat.succ_pos _) }
  | asked gate load nothing released =>
    obtain rfl | ⟨pending, rfl⟩ := released
    · exact { consistent with }
    · exact { consistent with
        opened := fun forced => Gate.noConfusion forced
        pending := fun forced => Gate.noConfusion forced }

theorem IsConsistent.live (h : p.IsConsistent) (events : List (Date × ProviderEvent)) :
  (p.live events).IsConsistent
  := by
  induction events generalizing p with
  | nil => apply h
  | cons e events ih => apply ih ((step_after e.2).isConsistent h)

/-! ### Counts -/

/-- A table that is read counts as a success. -/
theorem Step.successes {event : ProviderEvent} (h : p.Step today event q) :
  q.successes = p.successes + (p.loaded? today event).isSome.toNat
  := by
  cases h with
  | connected load nothing => rw [nothing]; rfl
  | installed table load loaded => rw [loaded]; rfl
  | failed reason load nothing => rw [nothing]; rfl
  | asked gate load nothing => rw [nothing]; rfl

/-- A load counts as a success or as a failure. -/
theorem Step.loads {event : ProviderEvent} (h : p.Step today event q) :
  q.successes + q.failures = p.successes + p.failures + event.isLoad.toNat
  := by
  cases h with
  | connected load => rw [load]; rfl
  | installed table load =>
    rw [load]
    apply Nat.succ_add
  | failed reason load => rw [load]; rfl
  | asked gate load => rw [load]; rfl

/-- As many loads have succeeded as there were payloads that could be read. -/
theorem successes_live (events : List (Date × ProviderEvent)) :
  (p.live events).successes
    = p.successes + events.countP (fun e => (p.loaded? e.1 e.2).isSome)
  := by
  induction events generalizing p with
  | nil => rfl
  | cons e events ih =>
    have step : p.Step e.1 e.2 (p.after e.1 e.2) := step_after e.2
    have same (today : Date) (event : ProviderEvent) :
        (p.after e.1 e.2).loaded? today event = p.loaded? today event :=
      (sameFeed_after e.2).loaded? event
    rw [live_cons, ih, step.successes, List.countP_cons]
    simp only [same]
    cases (p.loaded? e.1 e.2).isSome <;> simp
    omega

/-- As many loads have ended, well or not, as there were ends of loads. -/
theorem loads_live (events : List (Date × ProviderEvent)) :
  (p.live events).successes + (p.live events).failures
    = p.successes + p.failures + events.countP (·.2.isLoad)
  := by
  induction events generalizing p with
  | nil => rfl
  | cons e events ih =>
    have step : p.Step e.1 e.2 (p.after e.1 e.2) := step_after e.2
    rw [live_cons, ih, step.loads, List.countP_cons]
    cases e.2.isLoad <;> simp
    omega

/-! ### Queries that are given up -/

/-- A query is given up if it is for the provider and the gate is pending. -/
theorem isNotLoaded_rate (query : RateQuery) :
  RateError.isNotLoaded (p.rate today query).1
    = (query.accepts p.name && !p.gate.isOpen)
  := by
  rw [rate]
  cases query.accepts p.name with
  | false => rfl
  | true =>
    cases p.gate.isOpen with
    | false => rfl
    | true =>
      -- An answer from the table may be an error, but of another kind.
      show RateError.isNotLoaded (p.answer today query) = false
      cases answer : p.answer today query with
      | ok r => rfl
      | error e => obtain rfl | ⟨fault, rfl⟩ := RateTable.resolve_eq_error answer <;> rfl

/-- To give up a query uses a pending gate up. -/
theorem countP_reply?_add_le (today : Date) (event : ProviderEvent) :
  (p.reply? today event).toList.countP RateError.isNotLoaded
      + (!(p.after today event).gate.isOpen).toNat
    ≤ (!p.gate.isOpen).toNat
  := by
  have gates : (!(p.after today event).gate.isOpen).toNat ≤ (!p.gate.isOpen).toNat := by
    cases pending : p.gate.isOpen with
    | false => exact Bool.toNat_le _
    | true =>
      apply Nat.le_of_eq
      rw [(step_after event).precedes.gate (by simpa [Gate.isOpen] using pending), pending]
  cases event with
  | asked query =>
    simp only [reply?, Option.toList_some, List.countP_singleton, isNotLoaded_rate]
    cases accepts : query.accepts p.name && !p.gate.isOpen with
    | false => simpa using gates
    | true =>
      obtain ⟨-, pending⟩ := Bool.and_eq_true_iff.1 accepts
      rw [after, gate_rate, accepts, pending]
      exact Nat.le_refl _
  | connected => simpa [reply?] using gates
  | payload bytes => simpa [reply?] using gates
  | failed reason => simpa [reply?] using gates

/-- At most one query is given up, and none if the gate is not pending. -/
theorem countP_isNotLoaded_replies (events : List (Date × ProviderEvent)) :
  (p.replies events).countP RateError.isNotLoaded ≤ (!p.gate.isOpen).toNat
  := by
  induction events generalizing p with
  | nil => exact Nat.zero_le _
  | cons e events ih =>
    have now := countP_reply?_add_le (p := p) e.1 e.2
    have later := ih (p := p.after e.1 e.2)
    rw [replies, List.countP_append]
    omega

/-! ### Queries that are answered -/

/-- Only a provider whose gate is not pending has answers. -/
theorem gate_ne_pending_of_rate {query : RateQuery} {r : RateRecord}
    (h : (p.rate today query).1 = .ok r) :
  p.gate ≠ .pending
  := by
  intro pending
  rw [rate] at h
  split at h
  · simp at h
  · simp [Gate.isOpen, pending] at h

/-- A provider whose gate is not pending looks a query up in its table. -/
theorem rate_eq_resolve {query : RateQuery}
    (accepts : query.accepts p.name = true) (released : p.gate ≠ .pending) :
  (p.rate today query).1 = p.table.resolve p.name query today
  := by
  rw [rate, accepts]
  simp [Gate.isOpen, released, answer]

/-- Two providers of one feed, neither of them pending, answer a query alike if their tables do. -/
theorem SameFeed.rate_fst_of_resolve {query : RateQuery} {now later : Date} (h : q.SameFeed p)
    (released : p.gate ≠ .pending) (released' : q.gate ≠ .pending)
    (same : q.table.resolve p.name query later = p.table.resolve p.name query now) :
  (q.rate later query).1 = (p.rate now query).1
  := by
  have name : q.name = p.name := congrArg (·.name) h.1
  cases accepts : query.accepts p.name with
  | false => simp [rate, accepts, name]
  | true =>
    rw [rate_eq_resolve accepts released, rate_eq_resolve (name ▸ accepts) released', name, same]

/-! ### The whole life -/

/-- The life of a provider through events. -/
structure HasLifecycle (start : FeedProvider) (events : List (Date × ProviderEvent)) : Prop where
  settings : (start.live events).settings = start.settings
  /-- Stage, table, gate and counts are in accord. -/
  consistent : (start.live events).IsConsistent
  /-- Nothing has gone back, and a gate that was released has stayed as it was. -/
  progress {earlier later : List (Date × ProviderEvent)} : events = earlier ++ later →
    (start.live earlier).Precedes (start.live events)
  /-- The successes are the payloads that could be read. -/
  successes : (start.live events).successes
    = events.countP (fun e => (start.loaded? e.1 e.2).isSome)
  /-- Every load counts once. -/
  loads : (start.live events).successes + (start.live events).failures
    = events.countP (·.2.isLoad)
  /-- At most one query is given up. -/
  givenUp : (start.replies events).countP RateError.isNotLoaded ≤ 1
  /-- No query is given up once a payload could be read. -/
  unloaded {earlier later : List (Date × ProviderEvent)} {today : Date} {query : RateQuery} :
    events = earlier ++ (today, .asked query) :: later →
      RateError.isNotLoaded ((start.live earlier).rate today query).1 = true →
        ∀ e ∈ earlier, start.loaded? e.1 e.2 = none
  /-- A query changes the gate only. -/
  query (today : Date) (query : RateQuery) : ((start.live events).rate today query).2
    = { start.live events with gate := ((start.live events).rate today query).2.gate }

/-- Whatever happens to a provider, from its beginning its stage, gate, table and counts stay in
accord and do not go back, and at most one query is given up, before all payloads that can be
read. -/
theorem hasLifecycle (settings : ProviderSettings) (format : FeedFormat)
    (events : List (Date × ProviderEvent)) :
  (fresh settings format).HasLifecycle events
  where
  settings := (sameFeed_live events).1
  consistent := (isConsistent_fresh settings format).live events
  progress := by
    rintro earlier later rfl
    rw [live_append]
    apply precedes_live
  successes := by
    rw [successes_live]
    apply Nat.zero_add
  loads := by
    rw [loads_live]
    apply Nat.zero_add
  givenUp := by
    apply Nat.le_trans (countP_isNotLoaded_replies events)
    apply Bool.toNat_le
  unloaded := by
    rintro earlier later today query - given e he
    rw [isNotLoaded_rate, Bool.and_eq_true_iff] at given
    have pending : ((fresh settings format).live earlier).gate = .pending := by
      simpa [Gate.isOpen] using given.2
    have none := ((isConsistent_fresh settings format).live earlier).pending pending
    rw [successes_live, Nat.add_eq_zero_iff, List.countP_eq_zero] at none
    simpa using none.2 e he
  query := fun _ query => rate_snd_eq query

/-- A gate that was forced open stays so when a payload is read at last. -/
example :
  let today : Date := ⟨739194, by decide, by decide⟩
  let p := (fresh ⟨"ECB", "ecb", ⟨.euro, .direct⟩, .background, 30⟩ .referenceRates).live
    [(today, .connected), (today, .asked ⟨.euro, .ofCode "USD", none, []⟩),
      (today, .payload (Text.encode "<Cube time=\"2024-01-03\" currency=\"USD\" rate=\"1.25\"/>"))]
  p.gate = .forced ∧ p.stage = .ready ∧ p.successes = 1
  := by decide +kernel

end FeedProvider

end CrossRate
