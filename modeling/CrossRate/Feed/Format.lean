import CrossRate.Feed.ReferenceRates
import CrossRate.Feed.SdrTable

/-!
# Formats of feeds

A `FeedFormat` reads payloads into tables of its shape.
-/

namespace CrossRate

/-- The format of a feed. -/
inductive FeedFormat where
  /-- The document of the reference rates of the euro. -/
  | referenceRates
  /-- The grid of the rates of the special drawing right, read by the names of currencies. -/
  | sdrTable (names : CurrencyNames)

namespace FeedFormat

/-- The name of a format in messages. -/
def name : FeedFormat → String
  | referenceRates => "ecb-xml"
  | sdrTable _ => "imf-tsv"

/-- The table of a payload. -/
def read (format : FeedFormat) (reader : FeedReader) (payload : Bytes) :
    Except FeedFault RateTable :=
  match format with
  | referenceRates => (ReferenceRates.read reader payload).map .direct
  | sdrTable names => (SdrTable.read names reader payload).map .dual

end FeedFormat

end CrossRate
