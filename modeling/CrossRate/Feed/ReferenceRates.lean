import CrossRate.Decimal.Reader
import CrossRate.Feed.Basic
import CrossRate.Markup.Reader

/-!
# Reference rates

The feed of the reference rates of the euro is a document of nested elements named `Cube`:
one for each day, with the attribute `time`, and in it one for each quote, with the
attributes `currency` and `rate`. A tag that cannot be read is passed over, and so is a
quote that is no rate or stands before the first readable day.
-/

namespace CrossRate.ReferenceRates

/-- The attributes of a tag that matter. Of several with one local name the last counts. -/
structure Cube where
  time : Option String
  currency : Option String
  rate : Option String

namespace Cube

/-- The last value of the attributes with a local name. -/
def value? (attributes : List (Bytes × String)) (name : String) : Option String :=
  (attributes.reverse.find? (fun e => Markup.localName e.1 == Text.encode name)).map (·.2)

/-- The attributes that matter, unless the tag is malformed or of another element. -/
def ofTag? (tag : Markup.Tag) : Option Cube :=
  if Markup.localName tag.name == Text.encode "Cube" then
    tag.attributes.map (fun attributes =>
      ⟨value? attributes "time", value? attributes "currency", value? attributes "rate"⟩)
  else none

/-- Those of the tags of a document that open an element or stand for one. -/
def ofPiece? : Markup.Piece → Option Cube
  | .start tag | .empty tag => ofTag? tag
  | .close _ => none

end Cube

/-- What has been read of a feed: the day at hand and the quotes. -/
structure Progress where
  day : Option Date
  table : DirectTable

/-- The quote of a currency and a rate on a day. -/
def quote? (reader : FeedReader) (day : Date) (currency rate : String) : Option RateRecord := do
  let term ← (Currency.parse currency).toOption
  let factor ← Decimal.parse? (Text.trim rate)
  reader.quote? day ⟨.euro, term⟩ factor

/-- The day at hand after a tag. -/
def dayAfter (day : Option Date) (cube : Cube) : Option Date :=
  match cube.time with
  | some time => Date.parseTight? (Text.trimChars time.toList)
  | none => day

/-- Read a tag. -/
def readCube (reader : FeedReader) (progress : Progress) (cube : Cube) : Progress :=
  let day := dayAfter progress.day cube
  let quoted := do
    let date ← day
    return (date, ← quote? reader date (← cube.currency) (← cube.rate))
  match quoted with
  | some (date, r) => ⟨day, progress.table.insert date r⟩
  | none => ⟨day, progress.table⟩

/-- The table of the quotes of a document. -/
def read (reader : FeedReader) (document : Bytes) : Except FeedFault DirectTable :=
  match Markup.read? document with
  | none => .error .malformedMarkup
  | some pieces =>
    let progress :=
      (pieces.filterMap Cube.ofPiece?).foldl (readCube reader) ⟨none, .empty .euro⟩
    if progress.table.days.isEmpty then .error .noQuotes else .ok progress.table

end CrossRate.ReferenceRates
