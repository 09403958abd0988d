import CrossRate.Proofs.Feed.ReferenceRates
import CrossRate.Proofs.Feed.SdrTable
import CrossRate.Provider.Feed

/-!
# Runs of a provider

A provider goes through a sequence of events (`FeedProvider.run`). Its table is all that a
payload can change of what it answers, and it stays sound from event to event, so whatever
the provider answers after a run is an answer to the query.
-/

namespace CrossRate

/-- What a feed of a format quotes against, and how. -/
def FeedFormat.shape : FeedFormat → FeedShape
  | referenceRates => ⟨.euro, .direct⟩
  | sdrTable _ => ⟨.specialDrawingRight, .dual⟩

/-- What may happen to a provider. -/
inductive ProviderEvent where
  /-- The provider is fed from now on. -/
  | connected
  /-- A payload arrives. -/
  | payload (bytes : Bytes)
  /-- A load fails for a reason before there is a payload. -/
  | failed (reason : String)
  /-- A query has waited for as long as it may. -/
  | asked (query : RateQuery)

namespace FeedProvider

/-- A provider to which nothing has happened. -/
def fresh (settings : ProviderSettings) (format : FeedFormat) : FeedProvider :=
  { settings, format }

/-- The provider after an event. -/
def after (today : Date) (p : FeedProvider) : ProviderEvent → FeedProvider
  | .connected => p.connected
  | .payload bytes => (p.apply today bytes).2
  | .failed reason => p.withFailure reason
  | .asked query => (p.rate today query).2

/-- The provider after events of one day. -/
def run (today : Date) (p : FeedProvider) (events : List ProviderEvent) : FeedProvider :=
  events.foldl (after today) p

variable {today : Date} {p : FeedProvider}

@[simp]
theorem run_nil : p.run today [] = p
  := rfl

@[simp]
theorem run_cons (event : ProviderEvent) (events : List ProviderEvent) :
  p.run today (event :: events) = (p.after today event).run today events
  := rfl

theorem run_append (earlier later : List ProviderEvent) :
  p.run today (earlier ++ later) = (p.run today earlier).run today later
  := List.foldl_append

/-! ### What an event changes -/

/-- The table of a payload, if the provider can read it. -/
def loaded? (p : FeedProvider) (today : Date) : ProviderEvent → Option RateTable
  | .payload bytes => (p.read today bytes).toOption
  | _ => none

/-- A payload that cannot be read changes the record of failures only. -/
theorem apply_of_read_eq_error {bytes : Bytes} {e : RateError}
    (h : p.read today bytes = .error e) :
  p.apply today bytes = (.error e, p.withFailure e.message)
  := by rw [apply, h]

theorem apply_of_read_eq_ok {bytes : Bytes} {table : RateTable}
    (h : p.read today bytes = .ok table) :
  p.apply today bytes = (.ok (p.install table).table.summary, p.install table)
  := by rw [apply, h]

/-- A provider with a table that has been installed is not pending. -/
theorem gate_install_ne_pending (p : FeedProvider) (table : RateTable) :
  (p.install table).gate ≠ .pending
  := by
  rw [install]
  cases p.gate <;> exact Gate.noConfusion

/-- A query changes the gate only. -/
theorem rate_snd_eq (query : RateQuery) :
  (p.rate today query).2 = { p with gate := (p.rate today query).2.gate }
  := by
  rw [rate]
  split
  · rfl
  · split <;> rfl

/-- The table changes only by that of a payload, which is installed over it. -/
theorem table_after (event : ProviderEvent) :
  (p.after today event).table
    = match p.loaded? today event with
      | some fresh => p.table.installed fresh
      | none => p.table
  := by
  cases event with
  | connected => rfl
  | payload bytes =>
    cases h : p.read today bytes with
    | ok table => rw [after, apply_of_read_eq_ok h, loaded?, h]; rfl
    | error e => rw [after, apply_of_read_eq_error h, loaded?, h]; rfl
  | failed reason => rfl
  | asked query =>
    rw [after, rate_snd_eq]
    rfl

/-- Two providers with the same settings and of the same format. -/
def SameFeed (p q : FeedProvider) : Prop := p.settings = q.settings ∧ p.format = q.format

/-- No event changes the settings or the format. -/
theorem sameFeed_after (event : ProviderEvent) : (p.after today event).SameFeed p
  := by
  cases event with
  | connected => exact ⟨rfl, rfl⟩
  | payload bytes =>
    rw [after, apply]
    split <;> exact ⟨rfl, rfl⟩
  | failed reason => exact ⟨rfl, rfl⟩
  | asked query =>
    rw [after, rate_snd_eq]
    exact ⟨rfl, rfl⟩

theorem sameFeed_run (events : List ProviderEvent) : (p.run today events).SameFeed p
  := by
  induction events generalizing p with
  | nil => exact ⟨rfl, rfl⟩
  | cons event events ih =>
    obtain ⟨settings, format⟩ := sameFeed_after (p := p) event
    rw [run_cons, SameFeed, ← settings, ← format]
    apply ih

/-- What a payload is read as depends on the settings and the format alone. -/
theorem SameFeed.loaded? {q : FeedProvider} (h : p.SameFeed q) (event : ProviderEvent) :
  p.loaded? today event = q.loaded? today event
  := by
  obtain ⟨settings, format⟩ := h
  cases event with
  | payload bytes =>
    have check : p.checkShape = q.checkShape := by
      funext table
      simp only [checkShape, settings, format]
    simp only [FeedProvider.loaded?, read, name, check, settings, format]
  | _ => rfl

/-- After a run the table is the one at its start with those of the payloads installed over
it, one after the other. -/
theorem table_run (events : List ProviderEvent) :
  (p.run today events).table
    = (events.filterMap (p.loaded? today)).foldl RateTable.installed p.table
  := by
  induction events generalizing p with
  | nil => rfl
  | cons event events ih =>
    have same : (p.after today event).loaded? today = p.loaded? today := by
      funext later
      apply (sameFeed_after event).loaded? later
    rw [run_cons, ih, same, table_after, List.filterMap_cons]
    cases p.loaded? today event <;> rfl

/-! ### When a provider is ready -/

/-- A provider can read a payload. -/
def Reads (p : FeedProvider) (today : Date) (payload : Bytes) : Prop :=
  ∃ table, p.read today payload = .ok table

theorem isSome_loaded?_payload {payload : Bytes} :
  (p.loaded? today (.payload payload)).isSome = true ↔ p.Reads today payload
  := by
  rw [loaded?, Option.isSome_iff_exists, Reads]
  simp only [toOption_eq_some_iff]

theorem eq_ready_of_advance {stage : ProviderStage} :
  stage.advance .loading = .ready ↔ stage = .ready
  := by cases stage <;> decide

theorem advance_ready (stage : ProviderStage) : stage.advance .ready = .ready
  := by cases stage <;> rfl

/-- Only a payload that it can read makes a provider ready. -/
theorem stage_after_eq_ready_iff (event : ProviderEvent) :
  (p.after today event).stage = .ready ↔ p.stage = .ready ∨ (p.loaded? today event).isSome = true
  := by
  cases event with
  | connected => simp [after, connected, loaded?, eq_ready_of_advance]
  | payload bytes =>
    cases h : p.read today bytes with
    | ok table =>
      simp [after, apply_of_read_eq_ok h, install, loaded?, h, advance_ready, Except.toOption]
    | error e => simp [after, apply_of_read_eq_error h, withFailure, loaded?, h, Except.toOption]
  | failed reason => simp [after, withFailure, loaded?]
  | asked query =>
    rw [after, rate_snd_eq]
    simp [loaded?]

/-- A provider is ready after a run if it was before, or was fed with a payload that it can
read. -/
theorem stage_run_eq_ready_iff (events : List ProviderEvent) :
  (p.run today events).stage = .ready
    ↔ p.stage = .ready ∨ ∃ event ∈ events, (p.loaded? today event).isSome = true
  := by
  induction events generalizing p with
  | nil => simp
  | cons event events ih =>
    rw [run_cons, ih, stage_after_eq_ready_iff, or_assoc]
    simp only [(sameFeed_after event).loaded?, List.mem_cons, exists_eq_or_imp]

end FeedProvider

/-! ### Sound tables -/

/-- The table of a document of reference rates. -/
theorem FeedFormat.read_referenceRates_eq_ok_iff {reader : FeedReader} {payload : Bytes}
    {table : RateTable} :
  FeedFormat.referenceRates.read reader payload = .ok table
    ↔ ∃ t, ReferenceRates.read reader payload = .ok t ∧ .direct t = table
  := by cases h : ReferenceRates.read reader payload <;> simp [FeedFormat.read, h, Except.map]

/-- The table of a grid. -/
theorem FeedFormat.read_sdrTable_eq_ok_iff {names : CurrencyNames} {reader : FeedReader}
    {payload : Bytes} {table : RateTable} :
  (FeedFormat.sdrTable names).read reader payload = .ok table
    ↔ ∃ t, SdrTable.read names reader payload = .ok t ∧ .dual t = table
  := by cases h : SdrTable.read names reader payload <;> simp [FeedFormat.read, h, Except.map]

/-- The table of a payload has the shape of the format. -/
theorem FeedFormat.shape?_of_read {format : FeedFormat} {reader : FeedReader} {payload : Bytes}
    {table : RateTable} (h : format.read reader payload = .ok table) :
  table.shape? = some format.shape
  := by
  cases format with
  | referenceRates =>
    obtain ⟨t, read, rfl⟩ := read_referenceRates_eq_ok_iff.1 h
    rw [RateTable.shape?, ReferenceRates.pivot_of_read read, FeedFormat.shape]
  | sdrTable names =>
    obtain ⟨t, read, rfl⟩ := read_sdrTable_eq_ok_iff.1 h
    rw [RateTable.shape?, SdrTable.unit_of_read read, FeedFormat.shape]

/-- A provider that expects the shape of its format reads what the format does. -/
theorem FeedProvider.read_of_format {p : FeedProvider} {today : Date} {payload : Bytes}
    {table : RateTable} (shape : p.settings.shape = p.format.shape)
    (h : p.format.read ⟨p.name, today⟩ payload = .ok table) :
  p.read today payload = .ok table
  := by
  rw [FeedProvider.read, h, Except.bind, checkShape, FeedFormat.shape?_of_read h, shape]
  simp [Except.mapError]

theorem FeedFormat.isSound_of_read {format : FeedFormat} {reader : FeedReader} {payload : Bytes}
    {table : RateTable} (h : format.read reader payload = .ok table) :
  table.IsSound reader format.shape.pivot
  := by
  cases format with
  | referenceRates =>
    obtain ⟨t, ht, rfl⟩ := read_referenceRates_eq_ok_iff.1 h
    exact ⟨ReferenceRates.pivot_of_read ht, ReferenceRates.isSound_of_read ht⟩
  | sdrTable names =>
    obtain ⟨t, ht, rfl⟩ := read_sdrTable_eq_ok_iff.1 h
    exact ⟨SdrTable.unit_of_read ht, SdrTable.isSound_of_read ht⟩

theorem DirectTable.IsSound.overlay {older newer : DirectTable} {reader : FeedReader}
    (pivot : older.pivot = newer.pivot) (ho : older.IsSound reader) (hn : newer.IsSound reader) :
  (older.overlay newer).IsSound reader
  := by
  intro day currency r h
  obtain new | old := leaf_of_overlay h
  · apply hn new
  · have sound := ho old
    rwa [pivot] at sound

/-- A sound table that is installed over a sound one gives a sound one. -/
theorem RateTable.IsSound.installed {current fresh : RateTable} {reader : FeedReader}
    {pivot : Currency} (hc : current.IsSound reader pivot) (hf : fresh.IsSound reader pivot) :
  (current.installed fresh).IsSound reader pivot
  := by
  apply installed_induction (·.IsSound reader pivot) hf
  rintro s t rfl rfl
  exact ⟨hf.1, DirectTable.IsSound.overlay (hc.1.trans hf.1.symm) hc.2 hf.2⟩

namespace FeedProvider

variable {today : Date} {p : FeedProvider}

/-- The table of a payload is the one that its format reads. -/
theorem read_of_loaded? {event : ProviderEvent} {table : RateTable}
    (h : p.loaded? today event = some table) :
  ∃ bytes, event = .payload bytes ∧ p.format.read ⟨p.name, today⟩ bytes = .ok table
  := by
  cases event with
  | payload bytes =>
    rw [loaded?, toOption_eq_some_iff, read, mapError_eq_ok_iff] at h
    obtain ⟨fresh, hr, hs⟩ := bind_eq_ok_iff.1 h
    obtain rfl : fresh = table := by
      rw [checkShape] at hs
      split at hs
      · split at hs <;> simp_all
      · simp_all
    use bytes, rfl, hr
  | connected => simp [loaded?] at h
  | failed reason => simp [loaded?] at h
  | asked query => simp [loaded?] at h

/-- No event makes a sound table unsound. -/
theorem isSound_after (event : ProviderEvent)
    (h : p.table.IsSound ⟨p.name, today⟩ p.format.shape.pivot) :
  (p.after today event).table.IsSound ⟨p.name, today⟩ p.format.shape.pivot
  := by
  rw [table_after]
  cases hl : p.loaded? today event with
  | none => apply h
  | some fresh =>
    obtain ⟨bytes, -, read⟩ := read_of_loaded? hl
    apply h.installed (FeedFormat.isSound_of_read read)

/-- The table is sound after every run. -/
theorem isSound_run (events : List ProviderEvent)
    (h : p.table.IsSound ⟨p.name, today⟩ p.format.shape.pivot) :
  (p.run today events).table.IsSound ⟨p.name, today⟩ p.format.shape.pivot
  := by
  induction events generalizing p with
  | nil => apply h
  | cons event events ih =>
    obtain ⟨settings, format⟩ := sameFeed_after (p := p) event
    have after := ih (p := p.after today event)
    rw [name, settings, format] at after
    apply after (isSound_after event h)

/-- An answer comes from the table. -/
theorem answer_of_rate {query : RateQuery} {r : RateRecord} (h : (p.rate today query).1 = .ok r) :
  p.table.resolve p.name query today = .ok r
  := by
  rw [rate] at h
  split at h
  · simp at h
  · split at h
    · apply h
    · simp at h

/-- Whatever a provider answers after a run is an answer to the query, from its own name and
against the pivot of its format. -/
theorem answers_of_rate_run (settings : ProviderSettings) (format : FeedFormat) (today : Date)
    (events : List ProviderEvent) (query : RateQuery) {r : RateRecord}
    (h : (((fresh settings format).run today events).rate today query).1 = .ok r) :
  ∃ day, r.Answers query ⟨settings.name, today⟩ format.shape.pivot day
  := by
  have sound : ((fresh settings format).run today events).table.IsSound ⟨settings.name, today⟩
      format.shape.pivot := by
    apply isSound_run (p := fresh settings format) events
    trivial
  have answer := answer_of_rate h
  rw [name, (sameFeed_run events).1] at answer
  apply sound.resolve answer

/-- After a payload that is rejected and one that is read, a rate is bridged by two quotes of
the latest day. -/
theorem answers_of_rate_run_bridged :
  ∃ (today day : Date) (p : FeedProvider) (r : RateRecord),
    p = (fresh ⟨"ECB", "ecb", ⟨.euro, .direct⟩, .blocking, 30⟩ .referenceRates).run today
        [.connected, .payload (Text.encode "<html></html>"),
          .payload (Text.encode ("<Cube time=\"2024-01-03\"><Cube currency=\"USD\" rate=\"1.25\"/>"
            ++ "<Cube currency=\"JPY\" rate=\"150\"/></Cube>"))]
      ∧ (p.rate today ⟨.ofCode "USD", .ofCode "JPY", none, []⟩).1 = .ok r
      ∧ r.Answers ⟨.ofCode "USD", .ofCode "JPY", none, []⟩ ⟨"ECB", today⟩ .euro day
  := by
  let today : Date := ⟨739194, by decide, by decide⟩
  let p := (fresh ⟨"ECB", "ecb", ⟨.euro, .direct⟩, .blocking, 30⟩ .referenceRates).run today
    [.connected, .payload (Text.encode "<html></html>"),
      .payload (Text.encode ("<Cube time=\"2024-01-03\"><Cube currency=\"USD\" rate=\"1.25\"/>"
        ++ "<Cube currency=\"JPY\" rate=\"150\"/></Cube>"))]
  have answered :
      (p.rate today ⟨.ofCode "USD", .ofCode "JPY", none, []⟩).1.toOption.isSome = true := by
    decide +kernel
  obtain ⟨r, hr⟩ := Option.isSome_iff_exists.1 answered
  rw [toOption_eq_some_iff] at hr
  obtain ⟨day, answers⟩ := answers_of_rate_run _ _ today _ _ hr
  use today, day, p, r, rfl, hr
  apply answers

end FeedProvider

end CrossRate
