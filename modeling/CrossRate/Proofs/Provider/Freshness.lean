import CrossRate.Proofs.Provider.Lifecycle
import Mathlib.Data.List.Induction

/-!
# How fresh the answers of a provider are

A quote that is read on its own day is one for today, and the provider keeps it as it was read.
What a table has for a day is therefore as fresh as it was on the day on which the last payload
was read that decides it (`FeedProvider.readOn?`, `FeedProvider.isSoundOn_live`). So an answer
of a day that has gone by still counts as a quote for today if that payload was read on the day
of the answer, and only then (`FeedProvider.isTruthfulOn_iff`).
-/

namespace CrossRate

/-! ### Records -/

namespace RateRecord

/-- How fresh a record is, and how fresh those are that it was derived from. -/
def kinds (r : RateRecord) : List RateKind := r.kind :: r.chain.map (·.kind)

/-- Neither a record of a day before today nor any that it was derived from counts as a quote
for today. -/
def IsTruthfulOn (r : RateRecord) (today : Date) : Prop :=
  ∀ day, r.asOf = some day → day < today → .deferred ∉ r.kinds

variable {r : RateRecord} {query : RateQuery} {reader : FeedReader} {pivot : Currency}
  {day : Date}

/-- An answer counts as a quote for today if it is made of quotes that are read on their own
day. The rate of the pivot to itself is made of none. -/
theorem Answers.deferred_mem_kinds_iff (h : r.Answers query reader pivot day) :
  .deferred ∈ r.kinds ↔ ¬ (query.base = pivot ∧ query.term = pivot) ∧ day = reader.today
  := by
  by_cases base : query.base = pivot
  · by_cases term : query.term = pivot
    · obtain ⟨-, kind, chain⟩ := h.unit base term
      simp [kinds, kind, chain, base, term]
    · obtain ⟨kind, chain⟩ := h.fromPivot base term
      simp [kinds, kind, chain, term]
  · by_cases term : query.term = pivot
    · obtain ⟨kind, chain⟩ := h.toPivot base term
      simp [kinds, kind, chain, base]
    · obtain ⟨kind, -, first, second, chain, toPivot, fromPivot⟩ := h.bridged base term
      simp [kinds, kind, chain, base, toPivot.kind, fromPivot.kind]

/-- The records that an answer is derived from are of its day. -/
theorem Answers.asOf_of_mem_chain (h : r.Answers query reader pivot day) {leg : RateRecord}
    (hl : leg ∈ r.chain) :
  leg.asOf = some day
  := by
  by_cases base : query.base = pivot
  · by_cases term : query.term = pivot
    · simp [(h.unit base term).2.2] at hl
    · simp [(h.fromPivot base term).2] at hl
  · by_cases term : query.term = pivot
    · simp [(h.toPivot base term).2] at hl
    · obtain ⟨-, -, first, second, chain, toPivot, fromPivot⟩ := h.bridged base term
      rw [chain, List.mem_cons, List.mem_singleton] at hl
      obtain rfl | rfl := hl
      · apply toPivot.asOf
      · apply fromPivot.asOf

end RateRecord

/-! ### Tables -/

namespace DirectTable

variable {s t : DirectTable} {reader : FeedReader} {day : Date}

/-- The quote for a day in an overlay is that of the newer table, if it has the day. -/
theorem leaf_overlay (older newer : DirectTable) (day : Date) (currency : Currency) :
  (older.overlay newer).leaf day currency
    = if newer.hasDay day then newer.leaf day currency else older.leaf day currency
  := by
  cases found : newer.days.get? day with
  | some quotes => simp [leaf, hasDay, OrderedMap.contains, found]
  | none => simp [leaf, hasDay, OrderedMap.contains, found]

/-- What a direct table gives for a day is determined by its quotes for that day. -/
theorem isSoundOn_of_leaf (h : t.pivotQuotes.IsSoundOn reader day) (pivot : s.pivot = t.pivot)
    (leaf : ∀ currency, s.leaf day currency = t.leaf day currency) :
  s.pivotQuotes.IsSoundOn reader day
  := by
  constructor
  case toPivot =>
    intro currency r given
    have same : s.pivotQuotes.toPivot currency day = t.pivotQuotes.toPivot currency day := by
      simp only [pivotQuotes, leaf]
    rw [same] at given
    have quote := h.toPivot given
    rwa [show t.pivotQuotes.pivot = s.pivotQuotes.pivot from pivot.symm] at quote
  case fromPivot =>
    intro currency r given
    have quote := h.fromPivot ((leaf currency).symm.trans given)
    rwa [show t.pivotQuotes.pivot = s.pivotQuotes.pivot from pivot.symm] at quote

/-- A table gives nothing for a day that it does not have. -/
theorem isSoundOn_of_hasDay_eq_false (none : t.hasDay day = false) :
  t.pivotQuotes.IsSoundOn reader day
  := by
  have empty : (empty t.pivot).pivotQuotes.IsSoundOn reader day := by
    constructor <;> simp [pivotQuotes]
  refine isSoundOn_of_leaf empty rfl ?_
  intro currency
  rw [hasDay, OrderedMap.contains, Option.isSome_eq_false_iff, Option.isNone_iff_eq_none] at none
  rw [leaf, none]
  rfl

end DirectTable

namespace RateTable

/-- All that a table against a pivot gives for a day are quotes of that day. -/
def IsSoundOn (table : RateTable) (reader : FeedReader) (pivot : Currency) (day : Date) : Prop :=
  match table with
  | .empty => True
  | .direct t => t.pivot = pivot ∧ t.pivotQuotes.IsSoundOn reader day
  | .dual t => t.unit = pivot ∧ ∀ today, (t.pivotQuotes today).IsSoundOn reader day

/-- Whether a table that is installed decides what there is for a day: it does if it has the
day, and if its layout leaves nothing of the table before. -/
def decides (fresh : RateTable) (day : Date) : Bool :=
  match fresh with
  | .direct t => t.hasDay day
  | _ => true

variable {current fresh table : RateTable} {reader : FeedReader} {pivot : Currency} {day : Date}

theorem IsSound.on (h : table.IsSound reader pivot) (day : Date) :
  table.IsSoundOn reader pivot day
  := by
  cases table with
  | empty => trivial
  | direct t => exact ⟨h.1, (DirectTable.IsSound.pivotQuotes h.2).on day⟩
  | dual t => exact ⟨h.1, fun today => (h.2.pivotQuotes today).on day⟩

/-- What a table decides when it is installed is as sound as it is itself. -/
theorem IsSound.installed_on (h : fresh.IsSound reader pivot) (decided : fresh.decides day = true) :
  (current.installed fresh).IsSoundOn reader pivot day
  := by
  have sound := h.on day
  apply installed_induction (·.IsSoundOn reader pivot day) sound
  rintro s t rfl rfl
  use h.1
  refine DirectTable.isSoundOn_of_leaf sound.2 rfl ?_
  intro currency
  rw [DirectTable.leaf_overlay]
  apply if_pos decided

/-- What a table does not decide stays as sound as it was. -/
theorem IsSoundOn.installed {other : FeedReader} (hc : current.IsSoundOn reader pivot day)
    (hf : fresh.IsSound other pivot) (undecided : fresh.decides day = false) :
  (current.installed fresh).IsSoundOn reader pivot day
  := by
  cases fresh with
  | empty => simp [decides] at undecided
  | dual t => simp [decides] at undecided
  | direct t =>
    have lacking : t.pivotQuotes.IsSoundOn reader day :=
      DirectTable.isSoundOn_of_hasDay_eq_false undecided
    cases current with
    | empty => exact ⟨hf.1, lacking⟩
    | dual s => exact ⟨hf.1, lacking⟩
    | direct s =>
      use hf.1
      refine DirectTable.isSoundOn_of_leaf hc.2 (hf.1.trans hc.1.symm) ?_
      intro currency
      rw [DirectTable.leaf_overlay, if_neg (by simpa [decides] using undecided)]

/-- A table resolves a query on one day, and its answer is as sound as the table is for that
day. -/
theorem exists_answers_of_resolve {provider : String} {query : RateQuery} {today : Date}
    {r : RateRecord} (h : table.resolve provider query today = .ok r) :
  ∃ day, ∀ readOn pivot, table.IsSoundOn ⟨provider, readOn⟩ pivot day →
    r.Answers query ⟨provider, readOn⟩ pivot day
  := by
  cases table with
  | empty => simp [resolve] at h
  | direct t =>
    obtain ⟨day, -, answer⟩ := PivotQuotes.bridge_eq_ok_iff.1 h
    use day
    rintro readOn pivot ⟨rfl, sound⟩
    apply sound.answerOn answer
  | dual t =>
    obtain ⟨day, -, answer⟩ := PivotQuotes.bridge_eq_ok_iff.1 h
    use day
    rintro readOn pivot ⟨rfl, sound⟩
    apply (sound today).answerOn answer

end RateTable

/-! ### Providers -/

namespace FeedProvider

/-- The day on which the last payload was read that decides what a provider has for a day. -/
def readOn? (p : FeedProvider) (events : List (Date × ProviderEvent)) (day : Date) :
    Option Date :=
  (events.reverse.find? (fun e => (p.loaded? e.1 e.2).any (·.decides day))).map (·.1)

variable {p : FeedProvider} {day : Date}

/-- The day of an event counts if the event decides what there is for a day. -/
theorem readOn?_append_singleton (events : List (Date × ProviderEvent))
    (e : Date × ProviderEvent) :
  p.readOn? (events ++ [e]) day
    = if (p.loaded? e.1 e.2).any (·.decides day) then some e.1 else p.readOn? events day
  := by
  rw [readOn?, List.reverse_append, List.reverse_singleton, List.singleton_append,
    List.find?_cons]
  cases (p.loaded? e.1 e.2).any (·.decides day) <;> rfl

/-- What a provider has for a day are quotes that were read on the day that `readOn?` tells. -/
theorem isSoundOn_live (settings : ProviderSettings) (format : FeedFormat)
    (events : List (Date × ProviderEvent)) {readOn : Date}
    (h : ∀ d, (fresh settings format).readOn? events day = some d → d = readOn) :
  ((fresh settings format).live events).table.IsSoundOn ⟨settings.name, readOn⟩
    format.shape.pivot day
  := by
  induction events using List.reverseRecOn with
  | nil => trivial
  | append_singleton events e ih =>
    have same : ((fresh settings format).live events).SameFeed (fresh settings format) :=
      sameFeed_live events
    rw [live_append, live_cons, live_nil, table_after, same.loaded?]
    rw [readOn?_append_singleton] at h
    cases loaded : (fresh settings format).loaded? e.1 e.2 with
    | none =>
      rw [loaded] at h
      apply ih h
    | some table =>
      rw [loaded] at h
      obtain ⟨bytes, -, read⟩ := read_of_loaded? loaded
      have sound := FeedFormat.isSound_of_read read
      cases decided : table.decides day with
      | true =>
        obtain rfl : e.1 = readOn := h e.1 (by simp [decided])
        apply sound.installed_on decided
      | false =>
        apply RateTable.IsSoundOn.installed (ih _) sound decided
        simpa [decided] using h

theorem exists_date_ne (day : Date) : ∃ other : Date, day ≠ other
  := by
  by_cases last : day.dayNumber = lastDay
  · use ⟨firstDay, by decide, by decide⟩
    rintro rfl
    simp [firstDay, lastDay] at last
  · use ⟨lastDay, by decide, by decide⟩
    rintro rfl
    exact last rfl

/-- An answer, and all that it is derived from, is for one day. It counts as a quote for today
if the payload that decides what there is for that day was read on the day itself. Once the day
has gone by it should not, so it is truthful just if it is the rate of the pivot to itself or
the payload was read on another day. -/
theorem isTruthfulOn_iff (settings : ProviderSettings) (format : FeedFormat)
    (events : List (Date × ProviderEvent)) (today : Date) (query : RateQuery) {r : RateRecord}
    (h : (((fresh settings format).live events).rate today query).1 = .ok r) :
  ∃ day, r.asOf = some day
    ∧ (∀ leg ∈ r.chain, leg.asOf = some day)
    ∧ (.deferred ∈ r.kinds
      ↔ ¬ (query.base = format.shape.pivot ∧ query.term = format.shape.pivot)
          ∧ (fresh settings format).readOn? events day = some day)
    ∧ (r.IsTruthfulOn today
      ↔ ¬ day < today ∨ (query.base = format.shape.pivot ∧ query.term = format.shape.pivot)
          ∨ (fresh settings format).readOn? events day ≠ some day)
  := by
  have answer := answer_of_rate h
  rw [name, (sameFeed_live events).1] at answer
  obtain ⟨day, answers⟩ := RateTable.exists_answers_of_resolve answer
  have answers (readOn : Date)
      (compatible : ∀ d, (fresh settings format).readOn? events day = some d → d = readOn) :
      r.Answers query ⟨settings.name, readOn⟩ format.shape.pivot day :=
    answers readOn _ (isSoundOn_live settings format events compatible)
  obtain ⟨other, differs⟩ := exists_date_ne day
  -- If no payload decides the day, the answer is as if read on any day, also on another one.
  obtain ⟨readOn, answer, same⟩ : ∃ readOn,
      r.Answers query ⟨settings.name, readOn⟩ format.shape.pivot day
        ∧ (day = readOn ↔ (fresh settings format).readOn? events day = some day) := by
    cases read : (fresh settings format).readOn? events day with
    | none => exact ⟨other, answers other (by simp [read]), by simp [differs]⟩
    | some d => exact ⟨d, answers d (by simp [read]), by simp [eq_comm]⟩
  have kinds : .deferred ∈ r.kinds
      ↔ ¬ (query.base = format.shape.pivot ∧ query.term = format.shape.pivot)
          ∧ (fresh settings format).readOn? events day = some day := by
    rw [answer.deferred_mem_kinds_iff, same]
  use day, answer.asOf, fun leg => answer.asOf_of_mem_chain, kinds
  simp only [RateRecord.IsTruthfulOn, answer.asOf, Option.some.injEq, forall_eq', kinds]
  tauto

/-- A day that is read again on the next one: the day after that, a rate bridged by its quotes is
truthful. -/
theorem isTruthfulOn_iff_read_again :
  ∃ (first second third : Date) (p : FeedProvider) (r : RateRecord),
    first < second ∧ second < third
      ∧ p = (fresh ⟨"ECB", "ECB", ⟨.euro, .direct⟩, .background, 3⟩ .referenceRates).live
          [(first, .connected),
            (first, .payload
              (Text.encode "<Cube time=\"2024-02-01\" currency=\"USD\" rate=\"1.1\"/>")),
            (second, .payload (Text.encode ("<Cube time=\"2024-02-01\">"
              ++ "<Cube currency=\"USD\" rate=\"1.1\"/><Cube currency=\"JPY\" rate=\"160\"/></Cube>")))]
      ∧ (p.rate third ⟨.ofCode "USD", .ofCode "JPY", some first, []⟩).1 = .ok r
      ∧ r.asOf = some first
      ∧ r.IsTruthfulOn third
  := by
  let first : Date := ⟨739222, by decide, by decide⟩
  let second : Date := ⟨739223, by decide, by decide⟩
  let third : Date := ⟨739224, by decide, by decide⟩
  let events : List (Date × ProviderEvent) := [(first, .connected),
    (first, .payload (Text.encode "<Cube time=\"2024-02-01\" currency=\"USD\" rate=\"1.1\"/>")),
    (second, .payload (Text.encode ("<Cube time=\"2024-02-01\">"
      ++ "<Cube currency=\"USD\" rate=\"1.1\"/><Cube currency=\"JPY\" rate=\"160\"/></Cube>")))]
  let start := fresh ⟨"ECB", "ECB", ⟨.euro, .direct⟩, .background, 3⟩ .referenceRates
  let query : RateQuery := ⟨.ofCode "USD", .ofCode "JPY", some first, []⟩
  have answered :
      ((start.live events).rate third query).1.toOption.any (·.asOf = some first) = true := by
    decide +kernel
  have read : start.readOn? events first = some second := by decide +kernel
  obtain ⟨r, hr, asOf⟩ := (Option.any_eq_true _ _).1 answered
  rw [toOption_eq_some_iff] at hr
  have asOf : r.asOf = some first := by simpa using asOf
  obtain ⟨day, hday, -, -, truthful⟩ := isTruthfulOn_iff _ _ events third query hr
  obtain rfl : first = day := Option.some.inj (asOf.symm.trans hday)
  refine ⟨first, second, third, _, r, by decide, by decide, rfl, hr, asOf, ?_⟩
  apply truthful.2
  right
  right
  rw [read]
  decide

/-- A quote that was read on its day still counts as one for today on the day after. -/
theorem not_isTruthfulOn_of_kept_quote :
  ∃ (yesterday today : Date) (p : FeedProvider) (r : RateRecord),
    yesterday < today
      ∧ p = (fresh ⟨"ECB", "ECB", ⟨.euro, .direct⟩, .background, 3⟩ .referenceRates).live
          [(yesterday, .connected),
            (yesterday, .payload
              (Text.encode "<Cube time=\"2024-01-03\" currency=\"USD\" rate=\"1.1\"/>"))]
      ∧ (p.rate today ⟨.euro, .ofCode "USD", none, []⟩).1 = .ok r
      ∧ ¬ r.IsTruthfulOn today
  := by
  let yesterday : Date := ⟨739193, by decide, by decide⟩
  let today : Date := ⟨739194, by decide, by decide⟩
  let p := (fresh ⟨"ECB", "ECB", ⟨.euro, .direct⟩, .background, 3⟩ .referenceRates).live
    [(yesterday, .connected),
      (yesterday, .payload
        (Text.encode "<Cube time=\"2024-01-03\" currency=\"USD\" rate=\"1.1\"/>"))]
  have answered :
      (p.rate today ⟨.euro, .ofCode "USD", none, []⟩).1.toOption.any
        (fun r => r.asOf = some yesterday ∧ r.kind = .deferred) = true := by
    decide +kernel
  obtain ⟨r, hr, stale⟩ := (Option.any_eq_true _ _).1 answered
  obtain ⟨asOf, kind⟩ : r.asOf = some yesterday ∧ r.kind = .deferred := by simpa using stale
  refine ⟨yesterday, today, p, r, by decide, rfl, toOption_eq_some_iff.1 hr, ?_⟩
  intro truthful
  apply truthful yesterday asOf (by decide)
  rw [RateRecord.kinds, kind]
  apply List.mem_cons_self

end FeedProvider

end CrossRate
