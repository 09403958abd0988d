import CrossRate.Proofs.Table.Selection

/-!
# Answers that stand

A table comes about by reading payloads and installing what is read (`RateTable.IsLoaded`). On which
day it answers a query depends on the day that is asked for, but what it answers there does not
(`RateTable.resolve_eq_of_resolutionDay`). An answer is therefore given for every day from its own
to the one that was asked for, and an answer to a query for no day is given for its own day
(`RateTable.keepsAnswer_of_resolve`).
-/

namespace CrossRate

/-! ### Loaded tables -/

namespace RateTable

/-- Tables that come about by reading payloads, of any feeds and by any readers, and installing
tables over each other. -/
inductive IsLoaded : RateTable → Prop
  | empty : IsLoaded .empty
  | read {format : FeedFormat} {reader : FeedReader} {payload : Bytes} {table : RateTable}
    (read : format.read reader payload = .ok table) : IsLoaded table
  | installed {current fresh : RateTable} (hc : IsLoaded current) (hf : IsLoaded fresh) :
    IsLoaded (current.installed fresh)

/-- Quotes stand for themselves, and for the currency and the day that they are looked up by. -/
theorem IsSound.isKeyed {table : RateTable} {reader : FeedReader} {pivot : Currency}
    (sound : table.IsSound reader pivot) :
  table.IsKeyed
  := by
  cases table with
  | empty => trivial
  | direct t =>
    intro day currency r leaf
    have quote := sound.2 leaf
    exact ⟨quote.chain, congrArg CurrencyPair.term quote.pair, quote.asOf⟩
  | dual t =>
    intro day currency direction r rate
    cases direction with
    | toUnit =>
      have quote := sound.2.toUnit rate
      exact ⟨quote.chain, congrArg CurrencyPair.base quote.pair, quote.asOf⟩
    | fromUnit =>
      have quote := sound.2.fromUnit rate
      exact ⟨quote.chain, congrArg CurrencyPair.term quote.pair, quote.asOf⟩

theorem IsKeyed.installed {current fresh : RateTable} (hc : current.IsKeyed)
    (hf : fresh.IsKeyed) :
  (current.installed fresh).IsKeyed
  := by
  apply installed_induction IsKeyed hf
  rintro s t rfl rfl day currency r leaf
  obtain new | old := DirectTable.leaf_of_overlay leaf
  · apply hf day currency r new
  · apply hc day currency r old

theorem IsMade.installed {current fresh : RateTable} (hc : current.IsMade) (hf : fresh.IsMade) :
  (current.installed fresh).IsMade
  := by
  apply installed_induction IsMade hf
  rintro s t rfl rfl
  exact .overlay hc hf

/-- What is read is made by adding the rates of the payload. -/
theorem isMade_of_read {format : FeedFormat} {reader : FeedReader} {payload : Bytes}
    {table : RateTable} (read : format.read reader payload = .ok table) :
  table.IsMade
  := by
  cases format with
  | referenceRates =>
    obtain ⟨t, ht, rfl⟩ := FeedFormat.read_referenceRates_eq_ok_iff.1 read
    obtain ⟨pieces, -, -, rfl⟩ := ReferenceRates.read_eq_ok_iff.1 ht
    exact (DirectTable.IsMade.empty _).insertAll _
  | sdrTable names =>
    obtain ⟨t, ht, rfl⟩ := FeedFormat.read_sdrTable_eq_ok_iff.1 read
    obtain ⟨-, -, -, rfl⟩ := SdrTable.read_eq_ok_iff.1 ht
    exact ⟨_, (DualTable.IsMade.empty _).pushAll _, rfl⟩

theorem IsLoaded.isMade {table : RateTable} (loaded : table.IsLoaded) : table.IsMade
  := by
  induction loaded with
  | empty => trivial
  | read read => exact isMade_of_read read
  | installed _ _ hc hf => exact hc.installed hf

theorem IsLoaded.isKeyed {table : RateTable} (loaded : table.IsLoaded) : table.IsKeyed
  := by
  induction loaded with
  | empty => trivial
  | read read => exact (FeedFormat.isSound_of_read read).isKeyed
  | installed _ _ hc hf => exact hc.installed hf

end RateTable

namespace FeedProvider

/-- Every event leaves a provider with a table that is loaded. -/
theorem isLoaded_after {p : FeedProvider} (loaded : p.table.IsLoaded) (today : Date)
    (event : ProviderEvent) :
  (p.after today event).table.IsLoaded
  := by
  rw [table_after]
  cases found : p.loaded? today event with
  | none => exact loaded
  | some fresh =>
    obtain ⟨bytes, -, read⟩ := read_of_loaded? found
    exact loaded.installed (.read read)

/-- The table of a provider is loaded, whatever has happened to it. -/
theorem isLoaded_live {p : FeedProvider} (loaded : p.table.IsLoaded)
    (events : List (Date × ProviderEvent)) :
  (p.live events).table.IsLoaded
  := by
  induction events generalizing p with
  | nil => exact loaded
  | cons e events ih => exact ih (isLoaded_after loaded e.1 e.2)

end FeedProvider

/-! ### Answers of a day -/

namespace RateTable

variable {table : RateTable} {provider : String} {query query' : RateQuery}
  {today now day : Date} {r : RateRecord}

/-- Queries for a pair that have the same resolution day have the same answer, whatever day they
ask for and whatever today is. -/
theorem resolve_eq_of_resolutionDay (made : table.IsMade) (keyed : table.IsKeyed)
    (resolution : table.IsResolutionDay query today day)
    (resolution' : table.IsResolutionDay query' now day) (same : query'.pair = query.pair) :
  table.resolve provider query' now = table.resolve provider query today
  := by
  cases table with
  | empty => exact resolution.serves.elim
  | direct t =>
    have view : t.pivotQuotes.AreOfTable (.direct t) query today := t.areOfTable made keyed
    have view' : t.pivotQuotes.AreOfTable (.direct t) query' now := t.areOfTable made keyed
    rw [view.resolve_eq_answerOn resolution, view'.resolve_eq_answerOn resolution']
    apply PivotQuotes.answerOn_congr same
  | dual t =>
    obtain ⟨s, made, rfl⟩ := made
    have view : (s.finish.pivotQuotes today).AreOfTable (.dual s.finish) query today :=
      s.finish.areOfTable made.finish keyed
    have view' : (s.finish.pivotQuotes now).AreOfTable (.dual s.finish) query' now :=
      s.finish.areOfTable made.finish keyed
    rw [view.resolve_eq_answerOn resolution, view'.resolve_eq_answerOn resolution']
    -- Today matters for the days that come into question only.
    exact PivotQuotes.answerOn_congr same

/-- A resolution day is that of every day between it and the one that is asked for. -/
theorem IsResolutionDay.between {asked asked' : Date}
    (resolution : table.IsResolutionDay query today day) (dated : query.asOf = some asked)
    (notBefore : day.dayNumber ≤ asked'.dayNumber)
    (notAfter : asked'.dayNumber ≤ asked.dayNumber) :
  table.IsResolutionDay (query.on asked') now day
  := by
  obtain ⟨candidate, serves, latest⟩ := resolution
  rw [dated] at candidate latest
  constructor
  case candidate => exact ⟨notBefore, notAfter.trans candidate.2⟩
  case serves => exact serves
  case latest =>
    rintro later ⟨le, -⟩ lt
    have after : day.dayNumber < later.dayNumber := lt
    have window : asked.dayNumber ≤ day.dayNumber + 3 := candidate.2
    -- A later day that is near the new day is near the one that was asked for as well.
    exact latest later ⟨le.trans notAfter, by omega⟩ lt

/-- An answer for a day. A table that gives it gives it to the same query for its day too, and for
every day between that one and the day that was asked for, whatever today is. -/
structure KeepsAnswer (table : RateTable) (provider : String) (query : RateQuery)
    (r : RateRecord) (day : Date) : Prop where
  asOf : r.asOf = some day
  /-- The answer is not for a day after the one that was asked for. -/
  notAfter {asked : Date} : query.asOf = some asked → day.dayNumber ≤ asked.dayNumber
  /-- The answer is the same for every day in between. -/
  between {asked asked' now : Date} : query.asOf = some asked →
    day.dayNumber ≤ asked'.dayNumber → asked'.dayNumber ≤ asked.dayNumber →
    table.resolve provider (query.on asked') now = .ok r
  /-- An answer to a query for no day is the answer for its own day. -/
  undated {now : Date} : query.asOf = none → table.resolve provider (query.on day) now = .ok r

/-- A loaded table keeps its answers. -/
theorem keepsAnswer_of_resolve {table : RateTable} (loaded : table.IsLoaded) {provider : String}
    {query : RateQuery} {today : Date} {r : RateRecord}
    (answer : table.resolve provider query today = .ok r) :
  ∃ day, table.KeepsAnswer provider query r day
  := by
  obtain ⟨day, resolution, asOf, -⟩ :=
    (resolvesByDay loaded.isMade loaded.isKeyed provider query today).answer answer
  have same {asked now : Date} (resolution' : table.IsResolutionDay (query.on asked) now day) :
      table.resolve provider (query.on asked) now = .ok r := by
    rw [← answer]
    exact resolve_eq_of_resolutionDay loaded.isMade loaded.isKeyed resolution resolution' rfl
  use day, asOf
  case notAfter =>
    intro asked dated
    have candidate := resolution.candidate
    rw [dated] at candidate
    exact candidate.1
  case between =>
    intro asked asked' now dated notBefore notAfter
    exact same (resolution.between dated notBefore notAfter)
  case undated =>
    intro now _
    exact same (isResolutionDay_of_serves rfl resolution.serves)

/-- A rate that is bridged two days late, by a table of two documents, is the rate of the day
between as well. -/
theorem keepsAnswer_of_resolve_two_days_late :
  ∃ (table : RateTable) (today day between asked : Date) (query : RateQuery) (r : RateRecord),
    table = ((FeedProvider.fresh ⟨"ECB", "ecb", ⟨.euro, .direct⟩, .background, 30⟩
        .referenceRates).live
        [(today, .payload (Text.encode
            ("<Cube><Cube time=\"2024-01-03\"><Cube currency=\"USD\" rate=\"1.25\"/>"
              ++ "<Cube currency=\"JPY\" rate=\"150.3\"/></Cube></Cube>"))),
          (today, .payload (Text.encode
            "<Cube time=\"2024-01-06\" currency=\"USD\" rate=\"1.5\"/>"))]).table
      ∧ query = ⟨.ofCode "USD", .ofCode "JPY", some asked, []⟩
      ∧ day < between ∧ between < asked
      ∧ table.resolve "ECB" query today = .ok r ∧ r.asOf = some day
      ∧ table.resolve "ECB" (query.on between) today = .ok r
      ∧ table.KeepsAnswer "ECB" query r day
  := by
  let today : Date := ⟨739196, by decide, by decide⟩
  let day : Date := ⟨739193, by decide, by decide⟩
  let between : Date := ⟨739194, by decide, by decide⟩
  let asked : Date := ⟨739195, by decide, by decide⟩
  let start := FeedProvider.fresh ⟨"ECB", "ecb", ⟨.euro, .direct⟩, .background, 30⟩
    .referenceRates
  let p := start.live
    [(today, .payload (Text.encode
        ("<Cube><Cube time=\"2024-01-03\"><Cube currency=\"USD\" rate=\"1.25\"/>"
          ++ "<Cube currency=\"JPY\" rate=\"150.3\"/></Cube></Cube>"))),
      (today, .payload (Text.encode
        "<Cube time=\"2024-01-06\" currency=\"USD\" rate=\"1.5\"/>"))]
  let query : RateQuery := ⟨.ofCode "USD", .ofCode "JPY", some asked, []⟩
  have answered : (p.table.resolve "ECB" query today).toOption.any (·.asOf = some day) = true := by
    decide +kernel
  obtain ⟨r, hr, asOf⟩ := (Option.any_eq_true _ _).1 answered
  have asOf : r.asOf = some day := by simpa using asOf
  have answer : p.table.resolve "ECB" query today = .ok r := toOption_eq_some_iff.1 hr
  have loaded : p.table.IsLoaded := FeedProvider.isLoaded_live (p := start) .empty _
  obtain ⟨day', kept⟩ := keepsAnswer_of_resolve loaded answer
  obtain rfl : day = day' := Option.some.inj (asOf.symm.trans kept.asOf)
  refine ⟨p.table, today, day, between, asked, query, r, rfl, rfl, by decide, by decide, answer,
    asOf, ?_, kept⟩
  apply kept.between rfl (by decide) (by decide)

end RateTable

end CrossRate
