import CrossRate.Catalog.Basic
import CrossRate.Proofs.Currency.Names
import CrossRate.Proofs.Provider.Run
import CrossRate.Proofs.Text.Encoding

/-!
# Backups of the catalog

Every provider of the catalog can read the payload that stands in for its feed, on whatever day
(`Catalog.reads_backup`).
-/

namespace CrossRate

/-- Whether a payload is read does not depend on the reader. -/
theorem FeedFormat.exists_read {format : FeedFormat} {reader : FeedReader} {payload : Bytes}
    {table : RateTable} (h : format.read reader payload = .ok table) (reader' : FeedReader) :
  ∃ table', format.read reader' payload = .ok table'
  := by
  cases format with
  | referenceRates =>
    obtain ⟨t, read, -⟩ := FeedFormat.read_referenceRates_eq_ok_iff.1 h
    obtain ⟨t', read'⟩ := ReferenceRates.exists_read read reader'
    exact ⟨_, FeedFormat.read_referenceRates_eq_ok_iff.2 ⟨t', read', rfl⟩⟩
  | sdrTable names =>
    obtain ⟨t, read, -⟩ := FeedFormat.read_sdrTable_eq_ok_iff.1 h
    obtain ⟨t', read'⟩ := SdrTable.exists_read read reader'
    exact ⟨_, FeedFormat.read_sdrTable_eq_ok_iff.2 ⟨t', read', rfl⟩⟩

/-- A provider that expects the shape of its format can read what its format can. -/
theorem FeedProvider.reads_of_format {p : FeedProvider} {reader : FeedReader} {payload : Bytes}
    {table : RateTable} (shape : p.settings.shape = p.format.shape)
    (read : p.format.read reader payload = .ok table) (today : Date) :
  p.Reads today payload
  := by
  obtain ⟨table', read'⟩ := FeedFormat.exists_read read ⟨p.name, today⟩
  exact ⟨table', read_of_format shape read'⟩

namespace Catalog

/-- The payload of some lines, line by line. -/
def joined (lines : List String) : Bytes :=
  (Text.encode "\n").intercalate (lines.map Text.encode)

theorem payloadOf_eq (lines : List String) : payloadOf lines = joined lines
  := Text.encode_intercalate _ _

/-- Somebody who reads on some day. -/
def someReader : FeedReader := ⟨"", ⟨1, by decide, by decide⟩⟩

/-- A document of reference rates that adds a quote can be read. -/
theorem exists_read_referenceRates {lines : List String}
    (quotes : (Markup.read? (joined lines)).any
      (fun pieces => !(ReferenceRates.quotesOf someReader pieces).isEmpty) = true) :
  ∃ table, FeedFormat.referenceRates.read someReader (payloadOf lines) = .ok table
  := by
  cases parsed : Markup.read? (joined lines) with
  | none => simp [parsed] at quotes
  | some pieces =>
    rw [← payloadOf_eq] at parsed
    have some : ReferenceRates.quotesOf someReader pieces ≠ [] := by
      simpa [← payloadOf_eq, parsed] using quotes
    have read := ReferenceRates.read_eq_ok_iff.2 ⟨pieces, parsed, some, rfl⟩
    exact ⟨_, FeedFormat.read_referenceRates_eq_ok_iff.2 ⟨_, read, rfl⟩⟩

/-- A grid with readings by the name of one currency can be read. -/
theorem exists_read_sdrTable {lines : List String} {e : String × String}
    (mem : e ∈ CurrencyNames.imfNames)
    (accepted : SdrTable.isRejection (SdrTable.texts (Grid.records (joined lines))).1 = false)
    (plain : (SdrTable.texts (Grid.records (joined lines))).2 = false)
    (some : SdrTable.readings (CurrencyNames.empty.insert e.1 (.ofCode e.2))
      (SdrTable.texts (Grid.records (joined lines))).1 ≠ []) :
  ∃ table, (FeedFormat.sdrTable .standard).read someReader (payloadOf lines) = .ok table
  := by
  rw [← payloadOf_eq] at accepted plain some
  have more : ∀ name,
      ((CurrencyNames.empty.insert e.1 (.ofCode e.2)).lookup name).isSome = true →
        (CurrencyNames.standard.lookup name).isSome = true := by
    intro name known
    rw [CurrencyNames.standard_eq]
    apply CurrencyNames.isSome_lookup_insertAll
    use (e.1, .ofCode e.2), List.mem_map_of_mem mem
    rw [CurrencyNames.lookup_insert] at known
    split at known
    · assumption
    · cases known
  have readings := SdrTable.readings_ne_nil more some
  exact ⟨_, FeedFormat.read_sdrTable_eq_ok_iff.2
    ⟨_, SdrTable.read_eq_ok_iff.2 ⟨accepted, plain, readings, rfl⟩, rfl⟩⟩

/-- The payload that stands in for a feed can be read. -/
theorem exists_read_backup {e : Entry} (mem : e ∈ entries) :
  ∃ table, e.format.read someReader e.backup = .ok table
  := by
  have daily : ∃ table,
      FeedFormat.referenceRates.read someReader (payloadOf dailyLines) = .ok table :=
    exists_read_referenceRates (by decide +kernel)
  have history : ∃ table,
      FeedFormat.referenceRates.read someReader (payloadOf historyLines) = .ok table :=
    exists_read_referenceRates (by decide +kernel)
  have sdr : ∃ table,
      (FeedFormat.sdrTable .standard).read someReader (payloadOf sdrLines) = .ok table := by
    have some : (SdrTable.readings (CurrencyNames.empty.insert "Euro" (.ofCode "EUR"))
        (SdrTable.texts (Grid.records (joined sdrLines))).1).isEmpty = false := by
      decide +kernel
    have mem : ("Euro", "EUR") ∈ CurrencyNames.imfNames := by decide
    exact exists_read_sdrTable mem (by decide +kernel) (by decide +kernel)
      (List.isEmpty_eq_false_iff.1 some)
  simp only [entries, List.mem_cons, List.not_mem_nil, or_false] at mem
  obtain rfl | rfl | rfl | rfl := mem
  · apply daily
  · apply sdr
  · apply history
  · apply history

/-- A provider of the catalog can read the payload that stands in for its feed. -/
theorem reads_backup {e : Entry} (mem : e ∈ entries) (loadTimeout : Nat) (today : Date) :
  (FeedProvider.fresh (e.settings loadTimeout) e.format).Reads today e.backup
  := by
  obtain ⟨table, read⟩ := exists_read_backup mem
  have shape : e.shape = e.format.shape := by
    simp only [entries, List.mem_cons, List.not_mem_nil, or_false] at mem
    obtain rfl | rfl | rfl | rfl := mem <;> rfl
  apply FeedProvider.reads_of_format shape read

end Catalog

end CrossRate
