import CrossRate.Proofs.Provider.Run

/-!
# The history that a provider keeps

A provider that reads documents of reference rates keeps each day as the last document that
had the day gave it. `RateTable.IsHistory` says so of a table and the documents read so far;
it determines the table, and if the documents agree on the days that they share their order
does not matter.
-/

namespace CrossRate

namespace RateTable

/-- The direct table that a table is, if it is one. -/
def direct? : RateTable → Option DirectTable
  | direct t => some t
  | _ => none

/-- The quotes of a day of a direct table, if the day is there. -/
def day? (table : RateTable) (day : Date) : Option (OrderedMap Currency RateRecord) :=
  table.direct?.bind (·.days.get? day)

/-- A table that keeps each day as the last of the documents that have it gives it. -/
structure IsHistory (table : RateTable) (documents : List DirectTable) : Prop where
  /-- Without documents there is no table. -/
  nothing : documents = [] → table = .empty
  /-- With documents there is a direct table against the euro. -/
  layout : documents ≠ [] → ∃ t, table = .direct t ∧ t.pivot = .euro
  /-- The days of the table are those of the documents. -/
  present {day : Date} : (table.day? day).isSome ↔ ∃ t ∈ documents, t.hasDay day
  /-- The quotes of a day are all those of the last document that has it, and no others. -/
  last {earlier later : List DirectTable} {t : DirectTable} {day : Date} :
    documents = earlier ++ t :: later → t.hasDay day → (∀ s ∈ later, s.hasDay day = false) →
      table.day? day = t.days.get? day
  /-- Every day has a quote. -/
  inhabited {day : Date} {quotes : OrderedMap Currency RateRecord} :
    table.day? day = some quotes → quotes.isEmpty = false

/-- Documents that share a day have the same quotes for it. -/
def Agree (documents : List DirectTable) : Prop :=
  ∀ t ∈ documents, ∀ s ∈ documents, ∀ day, t.hasDay day → s.hasDay day →
    t.days.get? day = s.days.get? day

/-- A day is in a table that keeps documents if it is in the last of them that has it. -/
theorem IsHistory.exists_last {table : RateTable} {documents : List DirectTable} {day : Date}
    {quotes : OrderedMap Currency RateRecord} (h : table.IsHistory documents)
    (hq : table.day? day = some quotes) :
  ∃ t ∈ documents, t.days.get? day = some quotes
  := by
  obtain ⟨t₀, ht₀, has⟩ := h.present.1 (by rw [hq]; rfl)
  have found : (documents.reverse.find? (·.hasDay day)).isSome := by
    rw [List.find?_isSome]
    use t₀, List.mem_reverse.2 ht₀, has
  obtain ⟨t, ht⟩ := Option.isSome_iff_exists.1 found
  obtain ⟨has, later, earlier, split, lacking⟩ := List.find?_eq_some_iff_append.1 ht
  have split' : documents = earlier.reverse ++ t :: later.reverse := by
    rw [← List.reverse_reverse documents, split]
    simp
  use t
  constructor
  · rw [split']
    simp
  · rw [← hq]
    symm
    apply h.last split' has
    intro s hs
    simpa using lacking s (List.mem_reverse.1 hs)

/-- Under agreement the days of a table are just those of the documents. -/
theorem IsHistory.day?_eq_some_iff {table : RateTable} {documents : List DirectTable} {day : Date}
    {quotes : OrderedMap Currency RateRecord} (h : table.IsHistory documents)
    (agree : Agree documents) :
  table.day? day = some quotes ↔ ∃ t ∈ documents, t.days.get? day = some quotes
  := by
  constructor
  · apply h.exists_last
  · rintro ⟨t, ht, hq⟩
    have has : t.hasDay day := DirectTable.hasDay_iff.2 ⟨quotes, hq⟩
    obtain ⟨kept, hk⟩ := Option.isSome_iff_exists.1 (h.present.2 ⟨t, ht, has⟩)
    obtain ⟨s, hs, hk'⟩ := h.exists_last hk
    have has' : s.hasDay day := DirectTable.hasDay_iff.2 ⟨kept, hk'⟩
    rw [hk, ← hk', ← hq]
    apply agree s hs t ht day has' has

/-- Tables that keep the same documents, in whatever order, are the same if the documents
agree. -/
theorem IsHistory.eq_of_perm {table table' : RateTable} {documents documents' : List DirectTable}
    (h : table.IsHistory documents) (h' : table'.IsHistory documents')
    (perm : documents'.Perm documents) (agree : Agree documents) :
  table' = table
  := by
  by_cases none : documents = []
  · rw [h.nothing none, h'.nothing (by rwa [none, List.perm_nil] at perm)]
  · obtain ⟨t, rfl, pivot⟩ := h.layout none
    have none' : documents' ≠ [] := by
      rintro rfl
      exact none (List.nil_perm.1 perm)
    obtain ⟨t', rfl, pivot'⟩ := h'.layout none'
    congr
    apply DirectTable.ext_get? (pivot'.trans pivot.symm)
    intro day
    have agree' : Agree documents' := fun t ht s hs =>
      agree t (perm.mem_iff.1 ht) s (perm.mem_iff.1 hs)
    apply Option.ext
    intro quotes
    apply (h'.day?_eq_some_iff agree').trans
    simp only [perm.mem_iff]
    apply (h.day?_eq_some_iff agree).symm

/-! ### Installing documents -/

/-- The table with documents installed over it one after the other. -/
def installAll (table : RateTable) (documents : List DirectTable) : RateTable :=
  (documents.map .direct).foldl RateTable.installed table

/-- A document that is installed replaces the days that it has. -/
theorem day?_installed (table : RateTable) (t : DirectTable) (day : Date) :
  (table.installed (.direct t)).day? day = (t.days.get? day).or (table.day? day)
  := by
  cases table with
  | empty => simp [installed, day?, direct?]
  | direct s => apply DirectTable.get?_days_overlay
  | dual s => simp [installed, day?, direct?]

theorem day?_installAll (table : RateTable) (documents : List DirectTable) (day : Date) :
  (table.installAll documents).day? day
    = (documents.reverse.findSome? (·.days.get? day)).or (table.day? day)
  := by
  induction documents generalizing table with
  | nil => rfl
  | cons t documents ih =>
    have later := ih (table.installed (.direct t))
    rw [installAll, List.map_cons, List.foldl_cons, ← installAll, later, day?_installed,
      List.reverse_cons, List.findSome?_append]
    cases documents.reverse.findSome? (·.days.get? day) <;> cases ht : t.days.get? day <;> simp [ht]

/-- The table is against what the last document is against. -/
theorem installAll_concat (table : RateTable) (documents : List DirectTable) (t : DirectTable) :
  ∃ s : DirectTable, table.installAll (documents ++ [t]) = .direct s ∧ s.pivot = t.pivot
  := by
  rw [installAll, List.map_append, List.foldl_append, List.map_singleton, List.foldl_cons,
    List.foldl_nil, ← installAll]
  cases table.installAll documents with
  | empty => use t, rfl
  | direct s => exact ⟨s.overlay t, rfl, rfl⟩
  | dual s => use t, rfl

/-- Installing documents keeps each day as the last of them gives it. -/
theorem isHistory_installAll {documents : List DirectTable}
    (pivot : ∀ t ∈ documents, t.pivot = .euro) (inhabited : ∀ t ∈ documents, t.Inhabited) :
  (RateTable.empty.installAll documents).IsHistory documents
  := by
  have days (day : Date) : (RateTable.empty.installAll documents).day? day
      = documents.reverse.findSome? (·.days.get? day) := by
    rw [day?_installAll]
    apply Option.or_none
  constructor
  case nothing =>
    rintro rfl
    rfl
  case layout =>
    intro some
    obtain rfl | ⟨documents, t, rfl⟩ := List.eq_nil_or_concat documents
    · exact absurd rfl some
    · rw [List.concat_eq_append] at pivot ⊢
      obtain ⟨s, hs, same⟩ := installAll_concat .empty documents t
      use s, hs
      rw [same]
      apply pivot
      simp
  case present =>
    intro day
    rw [days, List.findSome?_isSome_iff]
    simp only [List.mem_reverse]
    rfl
  case last =>
    rintro earlier later t day rfl has lacking
    have none : later.reverse.findSome? (·.days.get? day) = none := by
      rw [List.findSome?_eq_none_iff]
      intro s hs
      simpa [DirectTable.hasDay, OrderedMap.contains] using lacking s (List.mem_reverse.1 hs)
    obtain ⟨quotes, hq⟩ := DirectTable.hasDay_iff.1 has
    rw [days, List.reverse_append, List.reverse_cons, List.append_assoc, List.findSome?_append,
      none, Option.none_or, List.singleton_append, List.findSome?_cons, hq]
  case inhabited =>
    intro day quotes hq
    rw [days] at hq
    obtain ⟨t, ht, hq⟩ := List.exists_of_findSome?_eq_some hq
    apply inhabited t (List.mem_reverse.1 ht) day quotes hq

end RateTable

/-! ### Documents of a run -/

namespace FeedProvider

variable {settings : ProviderSettings} {today : Date}

/-- The direct table of a payload, if the provider can read it. -/
def document? (p : FeedProvider) (today : Date) (event : ProviderEvent) : Option DirectTable :=
  (p.loaded? today event).bind RateTable.direct?

/-- The direct tables of the payloads that the provider can read. -/
def documents (p : FeedProvider) (today : Date) (events : List ProviderEvent) :
    List DirectTable :=
  events.filterMap (p.document? today)

/-- Reference rates that a provider can read are a document. -/
theorem direct_of_loaded? {event : ProviderEvent} {table : RateTable}
    (h : (fresh settings .referenceRates).loaded? today event = some table) :
  ∃ t, table = .direct t ∧ t.pivot = .euro ∧ t.Inhabited
  := by
  obtain ⟨bytes, -, read⟩ := read_of_loaded? h
  obtain ⟨t, ht, rfl⟩ := FeedFormat.read_referenceRates_eq_ok_iff.1 read
  exact ⟨t, rfl, ReferenceRates.pivot_of_read ht, ReferenceRates.inhabited_of_read ht⟩

/-- Nothing but documents is installed. -/
theorem map_direct_document? (settings : ProviderSettings) (today : Date)
    (event : ProviderEvent) :
  ((fresh settings .referenceRates).document? today event).map .direct
    = (fresh settings .referenceRates).loaded? today event
  := by
  rw [document?]
  cases h : (fresh settings .referenceRates).loaded? today event with
  | none => rfl
  | some table =>
    obtain ⟨t, rfl, -⟩ := direct_of_loaded? h
    rfl

theorem mem_documents {events : List ProviderEvent} {t : DirectTable}
    (h : t ∈ (fresh settings .referenceRates).documents today events) :
  t.pivot = .euro ∧ t.Inhabited
  := by
  rw [documents, List.mem_filterMap] at h
  obtain ⟨event, -, document⟩ := h
  have loaded := map_direct_document? settings today event
  rw [document, Option.map_some] at loaded
  obtain ⟨s, same, facts⟩ := direct_of_loaded? loaded.symm
  cases same
  apply facts

/-- A provider of reference rates has installed the documents of its payloads. -/
theorem table_run_documents (events : List ProviderEvent) :
  ((fresh settings .referenceRates).run today events).table
    = RateTable.empty.installAll ((fresh settings .referenceRates).documents today events)
  := by
  rw [RateTable.installAll, documents, List.map_filterMap, table_run]
  congr 2
  funext event
  symm
  apply map_direct_document?

/-- A payload is taken if the provider can read it, whatever has happened before. -/
theorem apply_run_eq_ok_iff {p : FeedProvider} {events : List ProviderEvent} {bytes : Bytes} :
  (∃ summary, ((p.run today events).apply today bytes).1 = .ok summary)
    ↔ (p.loaded? today (.payload bytes)).isSome
  := by
  rw [← (sameFeed_run events).loaded?, loaded?]
  cases h : (p.run today events).read today bytes with
  | ok table =>
    rw [apply_of_read_eq_ok h]
    simp [Except.toOption]
  | error e =>
    rw [apply_of_read_eq_error h]
    simp [Except.toOption]

/-- A payload that is not taken changes neither the table nor the stage nor the gate. -/
theorem unchanged_of_apply_eq_error {p : FeedProvider} {bytes : Bytes} {e : RateError}
    (h : (p.apply today bytes).1 = .error e) :
  (p.apply today bytes).2.table = p.table ∧ (p.apply today bytes).2.stage = p.stage
    ∧ (p.apply today bytes).2.gate = p.gate
  := by
  cases hr : p.read today bytes with
  | ok table => simp [apply_of_read_eq_ok hr] at h
  | error e =>
    rw [apply_of_read_eq_error hr]
    exact ⟨rfl, rfl, rfl⟩

/-- After every run the table of a provider of reference rates keeps the documents that it
has taken. A payload that it does not take leaves it as it was, and the order of documents
that agree is of no consequence. -/
theorem history_of_run (settings : ProviderSettings) (today : Date)
    (events : List ProviderEvent) (p : FeedProvider)
    (h : p = (fresh settings .referenceRates).run today events) :
  p.table.IsHistory ((fresh settings .referenceRates).documents today events)
    ∧ (∀ bytes, (∃ summary, (p.apply today bytes).1 = .ok summary)
        ↔ ((fresh settings .referenceRates).document? today (.payload bytes)).isSome)
    ∧ (∀ bytes e, (p.apply today bytes).1 = .error e →
        (p.apply today bytes).2.table = p.table ∧ (p.apply today bytes).2.stage = p.stage
          ∧ (p.apply today bytes).2.gate = p.gate)
    ∧ ∀ events' : List ProviderEvent,
        ((fresh settings .referenceRates).documents today events').Perm
            ((fresh settings .referenceRates).documents today events) →
          RateTable.Agree ((fresh settings .referenceRates).documents today events) →
            ((fresh settings .referenceRates).run today events').table = p.table
  := by
  have history (events : List ProviderEvent) :
      ((fresh settings .referenceRates).run today events).table.IsHistory
        ((fresh settings .referenceRates).documents today events) := by
    rw [table_run_documents]
    apply RateTable.isHistory_installAll
    · exact fun t ht => (mem_documents ht).1
    · exact fun t ht => (mem_documents ht).2
  subst h
  constructor
  · apply history
  constructor
  · intro bytes
    rw [apply_run_eq_ok_iff, ← map_direct_document?, Option.isSome_map]
  constructor
  · intro bytes e he
    apply unchanged_of_apply_eq_error he
  · intro events' perm agree
    apply (history events).eq_of_perm (history events') perm agree

/-- The second document of a day replaces the first one, and what is rejected between them
does not matter. -/
theorem history_of_run_replaced_day :
  ∃ (today day : Date) (p : FeedProvider) (s t : DirectTable),
    p = (fresh ⟨"ECB", "ecb", ⟨.euro, .direct⟩, .blocking, 30⟩ .referenceRates).run today
        [.payload (Text.encode "<Cube time=\"2024-01-03\" currency=\"USD\" rate=\"1.25\"/>"),
          .payload (Text.encode "<html></html>"),
          .payload (Text.encode "<Cube time=\"2024-01-03\" currency=\"JPY\" rate=\"150\"/>")]
      ∧ s.hasDay day ∧ t.hasDay day ∧ p.table.day? day = t.days.get? day
  := by
  let today : Date := ⟨739194, by decide, by decide⟩
  let day : Date := ⟨739193, by decide, by decide⟩
  let start := fresh ⟨"ECB", "ecb", ⟨.euro, .direct⟩, .blocking, 30⟩ .referenceRates
  let events : List ProviderEvent :=
    [.payload (Text.encode "<Cube time=\"2024-01-03\" currency=\"USD\" rate=\"1.25\"/>"),
      .payload (Text.encode "<html></html>"),
      .payload (Text.encode "<Cube time=\"2024-01-03\" currency=\"JPY\" rate=\"150\"/>")]
  have days : (start.documents today events).map (·.hasDay day) = [true, true] := by
    decide +kernel
  have history := (history_of_run start.settings today events _ rfl).1
  match hd : start.documents today events with
  | [s, t] =>
    obtain ⟨hs, ht⟩ : s.hasDay day ∧ t.hasDay day := by simpa [hd] using days
    use today, day, start.run today events, s, t, rfl, hs, ht
    have split : start.documents today events = [s] ++ t :: [] := hd
    apply history.last split ht
    simp
  | [] => simp [hd] at days
  | [_] => simp [hd] at days
  | _ :: _ :: _ :: _ => simp [hd] at days

end FeedProvider

end CrossRate
