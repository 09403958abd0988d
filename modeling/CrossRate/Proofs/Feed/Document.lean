import CrossRate.Proofs.Calendar.Written
import CrossRate.Proofs.Feed.ReferenceRates
import CrossRate.Proofs.Markup.Writing

/-!
# Documents of reference rates

A `Document` lists entries under days, and `Document.write` is its text: nested elements, with
blanks between the tags as one likes. Reading that text gives the rates that the entries
state, of several for one day and currency the last (`read_written_document`); entries that
state no rate leave no trace.
-/

namespace CrossRate.ReferenceRates

open Markup (Item PlainText)

/-- A blank text between tags. -/
structure Gap where
  chars : List Char
  blank : chars.all Text.isBlank = true

/-- The texts of a currency and a rate, and the blanks before their tag. -/
structure Entry where
  gap : Gap
  currency : PlainText
  rate : PlainText

/-- A day with the entries under it, and the blanks before its two tags. -/
structure DayList where
  gap : Gap
  day : Date
  short : day.HasShortYear
  entries : List Entry
  closingGap : Gap

/-- The days of a feed, and the blanks around the tags of the element that holds them. -/
structure Document where
  gap : Gap
  days : List DayList
  closingGap : Gap
  lastGap : Gap

/-! ### The written form -/

def cubeName : Markup.Name := ⟨"Cube".toList, by decide, by decide⟩

def timeKey : Markup.Name := ⟨"time".toList, by decide, by decide⟩

def currencyKey : Markup.Name := ⟨"currency".toList, by decide, by decide⟩

def rateKey : Markup.Name := ⟨"rate".toList, by decide, by decide⟩

/-- A blank text has no brackets. -/
theorem Gap.unbracketed (gap : Gap) : gap.chars.contains '<' = false
  := by
  rw [List.contains_eq_mem, decide_eq_false_iff_not]
  intro h
  have := List.all_eq_true.1 gap.blank '<' h
  contradiction

/-- A written date has no special characters. -/
theorem plain_print {day : Date} (h : day.HasShortYear) :
  day.print.toList.all (!Markup.isSpecial ·) = true
  := by
  have digit {width n : Nat} {c : Char} (hc : c ∈ (Date.padded width n).toList) :
      (!Markup.isSpecial c) = true := by
    have digit := Date.isDigit_of_mem_padded hc
    rw [Bool.not_eq_true', Markup.isSpecial, List.contains_eq_mem, decide_eq_false_iff_not]
    intro special
    simp only [List.mem_cons, List.not_mem_nil, or_false] at special
    obtain rfl | rfl | rfl | rfl | rfl := special <;> exact absurd digit (by decide)
  rw [List.all_eq_true]
  intro c hc
  simp only [h.toList_print, List.mem_append, List.mem_cons, List.not_mem_nil,
    or_false] at hc
  obtain hc | rfl | hc | rfl | hc := hc
  · apply digit hc
  · rfl
  · apply digit hc
  · rfl
  · apply digit hc

def Gap.item (gap : Gap) : Item := .text gap.chars gap.unbracketed

/-- The tag of an entry. -/
def Entry.opening (e : Entry) : Markup.Opening :=
  ⟨cubeName, [⟨currencyKey, e.currency⟩, ⟨rateKey, e.rate⟩],
    (by decide : [currencyKey.chars, rateKey.chars].Nodup)⟩

def Entry.items (e : Entry) : List Item := [e.gap.item, .empty e.opening]

/-- The opening tag of a day. -/
def DayList.opening (l : DayList) : Markup.Opening :=
  ⟨cubeName, [⟨timeKey, l.day.print.toList, plain_print l.short⟩], List.nodup_singleton _⟩

def DayList.items (l : DayList) : List Item :=
  l.gap.item :: .start l.opening
    :: (l.entries.flatMap Entry.items ++ [l.closingGap.item, .close cubeName])

/-- The opening tag of the element that holds the days. -/
def outerOpening : Markup.Opening := ⟨cubeName, [], by decide⟩

def Document.items (d : Document) : List Item :=
  d.gap.item :: .start outerOpening
    :: (d.days.flatMap DayList.items ++ [d.closingGap.item, .close cubeName, d.lastGap.item])

/-- The text of a document. -/
def Document.write (d : Document) : String := String.ofList (d.items.flatMap Item.write)

/-! ### The tags -/

/-- What is read of the tag of an entry. -/
def Entry.cube (e : Entry) : Cube :=
  ⟨none, some (String.ofList e.currency.chars), some (String.ofList e.rate.chars)⟩

/-- What is read of the tags of a day. -/
def DayList.cubes (l : DayList) : List Cube :=
  ⟨some l.day.print, none, none⟩ :: l.entries.map Entry.cube

/-- What is read of the tags of a document. -/
def Document.cubes (d : Document) : List Cube :=
  ⟨none, none, none⟩ :: d.days.flatMap DayList.cubes

theorem ofPiece?_outer : Cube.ofPiece? (.start outerOpening.tag) = some ⟨none, none, none⟩
  := rfl

theorem ofPiece?_day (l : DayList) :
  Cube.ofPiece? (.start l.opening.tag) = some ⟨some l.day.print, none, none⟩
  := by
  have read : Cube.ofPiece? (.start l.opening.tag)
      = some ⟨some (String.ofList l.day.print.toList), none, none⟩ := rfl
  rw [read, String.ofList_toList]

/-- The tags in a part of a document. -/
def tagsOf (items : List Item) : List Markup.Piece := items.filterMap Item.piece?

theorem tagsOf_flatMap {α : Type} (parts : List α) (items : α → List Item) :
  tagsOf (parts.flatMap items) = parts.flatMap (fun part => tagsOf (items part))
  := by apply List.filterMap_flatMap

theorem tagsOf_day (l : DayList) :
  tagsOf l.items
    = .start l.opening.tag
        :: (l.entries.flatMap (fun e => tagsOf e.items) ++ [.close l.opening.tag.name])
  := by
  rw [← tagsOf_flatMap]
  apply congrArg (Markup.Piece.start l.opening.tag :: ·)
  apply List.filterMap_append

theorem tagsOf_document (d : Document) :
  tagsOf d.items
    = .start outerOpening.tag
        :: (d.days.flatMap (fun l => tagsOf l.items) ++ [.close outerOpening.tag.name])
  := by
  rw [← tagsOf_flatMap]
  apply congrArg (Markup.Piece.start outerOpening.tag :: ·)
  apply List.filterMap_append

theorem isBalanced_document (d : Document) : Markup.IsBalanced (tagsOf d.items)
  := by
  rw [tagsOf_document]
  apply Markup.IsBalanced.element
  apply Markup.IsBalanced.flatMap
  intro l _
  rw [tagsOf_day]
  apply Markup.IsBalanced.element
  apply Markup.IsBalanced.flatMap
  intro e _
  apply Markup.isBalanced_empty e.opening.tag

/-- A document does not start with a byte order mark. -/
theorem head?_write (d : Document) : (d.items.flatMap Item.write).head? ≠ some '\ufeff'
  := by
  obtain ⟨⟨chars, blank⟩, days, closingGap, lastGap⟩ := d
  cases chars with
  | nil =>
    rintro ⟨⟩
  | cons c chars =>
    intro mark
    obtain rfl : c = '\ufeff' := Option.some.inj mark
    rw [List.all_cons, Bool.and_eq_true] at blank
    apply absurd blank.1
    decide

theorem filterMap_ofPiece?_close (name : Bytes) :
  [Markup.Piece.close name].filterMap Cube.ofPiece? = []
  := rfl

theorem filterMap_ofPiece?_entry (e : Entry) :
  (tagsOf e.items).filterMap Cube.ofPiece? = [e.cube]
  := rfl

theorem filterMap_ofPiece?_day (l : DayList) :
  (tagsOf l.items).filterMap Cube.ofPiece? = l.cubes
  := by
  rw [tagsOf_day, List.filterMap_cons_some (ofPiece?_day l), List.filterMap_append,
    List.filterMap_flatMap, filterMap_ofPiece?_close, List.append_nil, DayList.cubes,
    List.map_eq_flatMap]
  simp only [filterMap_ofPiece?_entry]

/-- The tags of a document are read as its cubes. -/
theorem filterMap_ofPiece?_document (d : Document) :
  (tagsOf d.items).filterMap Cube.ofPiece? = d.cubes
  := by
  rw [tagsOf_document, List.filterMap_cons_some ofPiece?_outer, List.filterMap_append,
    List.filterMap_flatMap, filterMap_ofPiece?_close, List.append_nil, Document.cubes]
  simp only [filterMap_ofPiece?_day]

/-! ### The rates -/

/-- The currency that an entry rates and its factor: a code of three ASCII letters and a
positive number, with blanks around them. -/
def Entry.rate? (e : Entry) : Option (Currency × Decimal) :=
  let code := Text.trimChars e.currency.chars
  if code.length = 3 ∧ code.all Char.isAlpha then
    ((Decimal.parse? (String.ofList (Text.trimChars e.rate.chars))).filter Decimal.isPositive).map
      (.ofCode (String.ofList code), ·)
  else none

/-- The entries of a document with their days, in order. -/
def Document.listed (d : Document) : List (Date × Entry) :=
  d.days.flatMap (fun l => l.entries.map (l.day, ·))

/-- The rates of a document with their days, in order. -/
def Document.rates (d : Document) : List (Date × Currency × Decimal) :=
  d.listed.filterMap (fun e => e.2.rate?.map (e.1, ·))

variable {reader : FeedReader}

/-- The quote of a rate. -/
def quoteOf (reader : FeedReader) (e : Date × Currency × Decimal) : Date × RateRecord :=
  (e.1, reader.record e.1 ⟨.euro, e.2.1⟩ e.2.2)

/-- An entry is quoted on a day if it states a rate. -/
theorem taken?_entry (day : Date) (e : Entry) :
  e.cube.taken? reader (some day) = e.rate?.map (fun rate => quoteOf reader (day, rate))
  := by
  have text (cs : List Char) :
      Text.trim (String.ofList cs) = String.ofList (Text.trimChars cs) := by
    rw [Text.trim, String.toList_ofList]
  rw [Cube.taken?, Option.bind_some, Cube.quoteOn?, Entry.cube]
  simp only [Option.bind_eq_bind, Option.bind_some, quote?, Currency.parse, text,
    String.toList_ofList, Currency.isCode, Entry.rate?]
  by_cases code : (Text.trimChars e.currency.chars).length = 3
      ∧ (Text.trimChars e.currency.chars).all Char.isAlpha
  · rw [if_pos (by simpa using code), if_pos code]
    simp only [Except.toOption, Option.bind_some, FeedReader.quote?_eq_ite]
    cases Decimal.parse? (String.ofList (Text.trimChars e.rate.chars)) with
    | none => rfl
    | some factor =>
      cases positive : factor.isPositive <;> simp [Option.filter, positive, quoteOf]
  · rw [if_neg (by simpa using code), if_neg code]
    rfl

/-- Under a day the entries are quoted that state rates. -/
theorem quotesFrom_entries (day : Date) (entries : List Entry) (rest : List Cube) :
  quotesFrom reader (some day) (entries.map Entry.cube ++ rest)
    = (entries.filterMap Entry.rate?).map (fun rate => quoteOf reader (day, rate))
        ++ quotesFrom reader (some day) rest
  := by
  induction entries with
  | nil => rfl
  | cons e entries ih =>
    have kept : dayAfter (some day) e.cube = some day := rfl
    rw [List.map_cons, List.cons_append, quotesFrom, kept, ih, taken?_entry, List.filterMap_cons]
    cases e.rate? <;> rfl

/-- A day that is written is at hand for the entries under it. -/
theorem dayAfter_day (day : Option Date) (l : DayList) :
  dayAfter day ⟨some l.day.print, none, none⟩ = some l.day
  := by
  rw [dayAfter]
  dsimp only
  rw [Date.trimChars_print l.short, Date.parseTight?_print l.short]

/-- The quotes of a document are its rates. -/
theorem quotesOf_document (d : Document) :
  quotesOf reader (tagsOf d.items) = d.rates.map (quoteOf reader)
  := by
  have days (day : Option Date) (lists : List DayList) :
      quotesFrom reader day (lists.flatMap DayList.cubes)
        = ((lists.flatMap (fun l => l.entries.map (l.day, ·))).filterMap
            (fun e => e.2.rate?.map (e.1, ·))).map (quoteOf reader) := by
    induction lists generalizing day with
    | nil => rfl
    | cons l lists ih =>
      have none_here : Cube.taken? reader (some l.day) ⟨some l.day.print, none, none⟩ = none := rfl
      rw [List.flatMap_cons, DayList.cubes, List.cons_append, quotesFrom, dayAfter_day, none_here,
        quotesFrom_entries, ih, List.flatMap_cons, List.filterMap_append, List.map_append,
        List.filterMap_map]
      simp [List.map_filterMap, Function.comp_def]
  have outer : Cube.taken? reader none ⟨none, none, none⟩ = none := rfl
  rw [quotesOf, filterMap_ofPiece?_document, Document.cubes, quotesFrom, dayAfter]
  dsimp only
  rw [outer, days]
  rfl

/-- A document is read if it states a rate, and its table is that of the quotes of its
rates. -/
theorem read_write (d : Document) :
  read reader (Text.encode d.write)
    = if d.rates = [] then .error .noQuotes
      else .ok ((DirectTable.empty .euro).insertAll (d.rates.map (quoteOf reader)))
  := by
  have pieces : Markup.read? (Text.encode d.write) = some (tagsOf d.items) :=
    Markup.read?_write (isBalanced_document d) (head?_write d)
  rw [read_of_pieces pieces, quotesOf_document]
  simp only [List.map_eq_nil_iff]

/-- The last rate that a document states for a day and a currency. -/
def Document.StatesLast (d : Document) (day : Date) (currency : Currency) (factor : Decimal) :
    Prop :=
  ∃ earlier entry later, d.listed = earlier ++ (day, entry) :: later
    ∧ entry.rate? = some (currency, factor)
    ∧ ∀ other, (day, other) ∈ later → ∀ factor', other.rate? ≠ some (currency, factor')

/-- A day has a rate if some entry under it states one. -/
theorem exists_mem_rates_iff {d : Document} {day : Date} :
  (∃ rate, (day, rate) ∈ d.rates) ↔ ∃ entry, (day, entry) ∈ d.listed ∧ entry.rate?.isSome
  := by
  simp only [Document.rates, List.mem_filterMap, Option.map_eq_some_iff]
  constructor
  · rintro ⟨rate, ⟨day, entry⟩, listed, rate, stated, ⟨⟩⟩
    exact ⟨entry, listed, Option.isSome_of_eq_some stated⟩
  · rintro ⟨entry, listed, states⟩
    obtain ⟨rate, stated⟩ := Option.isSome_iff_exists.1 states
    exact ⟨rate, (day, entry), listed, rate, stated, rfl⟩

theorem rates_ne_nil_iff {d : Document} :
  d.rates ≠ [] ↔ ∃ day entry, (day, entry) ∈ d.listed ∧ entry.rate?.isSome
  := by
  simp only [← exists_mem_rates_iff, ← List.length_pos_iff, List.length_pos_iff_exists_mem,
    Prod.exists]

/-- The last rate for a day and a currency is the last one that is stated for them. -/
theorem find?_rates_eq_some_iff {d : Document} {day : Date} {currency : Currency}
    {rate : Date × Currency × Decimal} :
  d.rates.reverse.find? (fun e => e.1 = day ∧ e.2.1 = currency) = some rate
    ↔ ∃ factor, d.StatesLast day currency factor ∧ rate = (day, currency, factor)
  := by
  rw [Document.rates, find?_reverse_filterMap_eq_some_iff]
  constructor
  · rintro ⟨here, earlier, ⟨day', entry⟩, later, split, found, lacking⟩
    obtain ⟨⟨currency', factor⟩, stated, rfl⟩ := Option.map_eq_some_iff.1 found
    obtain ⟨rfl, rfl⟩ : day' = day ∧ currency' = currency := by simpa using here
    refine ⟨factor, ⟨earlier, entry, later, split, stated, ?_⟩, rfl⟩
    intro other ho factor' ho'
    simpa [ho'] using lacking _ ho
  · rintro ⟨factor, ⟨earlier, entry, later, split, stated, lacking⟩, rfl⟩
    refine ⟨by simp, earlier, (day, entry), later, split, by rw [stated]; rfl, ?_⟩
    rintro ⟨day', other⟩ ho
    cases ho' : other.rate? with
    | none => rfl
    | some rate =>
      obtain ⟨currency', factor'⟩ := rate
      rw [Option.map_some, Option.any_some, decide_eq_false_iff_not]
      rintro ⟨rfl, rfl⟩
      apply lacking other ho factor' ho'

/-- A document is read if an entry in it states a rate. In its table the quote of a day and a
currency is the last rate that is stated for them, the days are those with a rate, and the
entries that state none leave no trace. -/
theorem read_written_document (reader : FeedReader) (d : Document) :
  ((∃ table, read reader (Text.encode d.write) = .ok table)
      ↔ ∃ day entry, (day, entry) ∈ d.listed ∧ entry.rate?.isSome)
    ∧ (∀ table, read reader (Text.encode d.write) = .ok table →
        table.pivot = .euro
          ∧ (∀ day currency r, table.leaf day currency = some r
              ↔ ∃ factor, d.StatesLast day currency factor
                  ∧ r = reader.record day ⟨.euro, currency⟩ factor)
          ∧ ∀ day, table.hasDay day = true
              ↔ ∃ entry, (day, entry) ∈ d.listed ∧ entry.rate?.isSome)
    ∧ ∀ other : Document, other.rates = d.rates →
        read reader (Text.encode other.write) = read reader (Text.encode d.write)
  := by
  constructor
  · rw [read_write, ← rates_ne_nil_iff]
    split <;> simp [*]
  constructor
  · intro table h
    rw [read_write] at h
    split at h
    · cases h
    cases h
    constructor
    · apply DirectTable.pivot_insertAll
    constructor
    · intro day currency r
      rw [DirectTable.leaf_insertAll, DirectTable.leaf_empty, Option.or_none, ← List.map_reverse,
        List.find?_map, Option.map_map, Option.map_eq_some_iff]
      constructor
      · rintro ⟨rate, last, rfl⟩
        obtain ⟨factor, states, rfl⟩ := find?_rates_eq_some_iff.1 last
        exact ⟨factor, states, rfl⟩
      · rintro ⟨factor, states, rfl⟩
        exact ⟨(day, currency, factor), find?_rates_eq_some_iff.2 ⟨factor, states, rfl⟩, rfl⟩
    · intro day
      rw [DirectTable.hasDay_insertAll, ← exists_mem_rates_iff]
      constructor
      · rintro (empty | ⟨_, he, rfl⟩)
        · cases empty
        · obtain ⟨⟨day, rate⟩, hr, rfl⟩ := List.mem_map.1 he
          exact ⟨rate, hr⟩
      · rintro ⟨rate, hr⟩
        exact .inr ⟨_, List.mem_map_of_mem hr, rfl⟩
  · intro other same
    rw [read_write, read_write, same]

/-- A day that is listed twice has the later of its two rates; an entry behind it that is no
rate and one without a currency change nothing. -/
theorem read_written_document_repeated_day :
  ∃ (reader : FeedReader) (d : Document) (table : DirectTable) (day : Date) (factor : Decimal),
    d.write = "<Cube>\n<Cube time=\"2024-01-03\">"
        ++ "<Cube currency=\"USD\" rate=\"1.1\"/><Cube currency=\"??\" rate=\"7\"/></Cube>\n"
        ++ "<Cube time=\"2024-01-03\">"
        ++ "<Cube currency=\" usd\" rate=\"1.25 \"/><Cube currency=\"USD\" rate=\"-2\"/></Cube>"
        ++ "</Cube>"
      ∧ read reader (Text.encode d.write) = .ok table
      ∧ d.StatesLast day (.ofCode "USD") factor
      ∧ factor.print = "1.25"
      ∧ table.leaf day (.ofCode "USD")
          = some (reader.record day ⟨.euro, .ofCode "USD"⟩ factor)
      ∧ table.hasDay day = true
  := by
  let reader : FeedReader := ⟨"ECB", ⟨739194, by decide, by decide⟩⟩
  let day : Date := ⟨739193, by decide, by decide⟩
  let nothing : Gap := ⟨[], rfl⟩
  let line : Gap := ⟨['\n'], rfl⟩
  let before : Entry := ⟨nothing, ⟨"USD".toList, by decide⟩, ⟨"1.1".toList, by decide⟩⟩
  let nameless : Entry := ⟨nothing, ⟨"??".toList, by decide⟩, ⟨"7".toList, by decide⟩⟩
  let last : Entry := ⟨nothing, ⟨" usd".toList, by decide⟩, ⟨"1.25 ".toList, by decide⟩⟩
  let negative : Entry := ⟨nothing, ⟨"USD".toList, by decide⟩, ⟨"-2".toList, by decide⟩⟩
  let d : Document :=
    ⟨nothing, [⟨line, day, by decide, [before, nameless], nothing⟩,
      ⟨line, day, by decide, [last, negative], nothing⟩], nothing, nothing⟩
  have stated : last.rate?.any
      (fun rate => rate.1 = .ofCode "USD" ∧ rate.2.print = "1.25") = true := by
    decide +kernel
  have silent : negative.rate?.isNone = true := by decide +kernel
  obtain ⟨⟨currency, factor⟩, rate, same⟩ := (Option.any_eq_true _ _).1 stated
  obtain ⟨rfl, print⟩ := of_decide_eq_true same
  have states : d.StatesLast day (.ofCode "USD") factor := by
    refine ⟨[(day, before), (day, nameless)], last, [(day, negative)], rfl, rate, ?_⟩
    intro other mem factor' h
    obtain ⟨-, rfl⟩ := Prod.mk.inj (List.mem_singleton.1 mem)
    rw [h] at silent
    contradiction
  have lists : ∃ entry, (day, entry) ∈ d.listed ∧ entry.rate?.isSome :=
    ⟨last, .tail _ (.tail _ (.head _)), by rw [rate]; rfl⟩
  obtain ⟨reads, rest⟩ := read_written_document reader d
  obtain ⟨table, accepted⟩ := reads.2 ⟨day, lists⟩
  obtain ⟨-, quotes, days⟩ := rest.1 table accepted
  use reader, d, table, day, factor, by decide +kernel, accepted, states, print
  exact ⟨(quotes _ _ _).2 ⟨factor, states, rfl⟩, (days day).2 lists⟩

end CrossRate.ReferenceRates
