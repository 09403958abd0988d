import CrossRate.Rate.Draft
import CrossRate.Table.Basic

/-!
# Feeds

A feed is read on behalf of a provider and on a day: quotes for that day are published with
a delay, those for other days are history.
-/

namespace CrossRate

/-- For whom and when a feed is read. -/
structure FeedReader where
  /-- The name of the provider. -/
  provider : String
  today : Date

namespace FeedReader

/-- Who quotes a rate for a day, and how fresh it is. -/
def contextOn (reader : FeedReader) (day : Date) : RateContext :=
  ⟨reader.provider, if day = reader.today then .deferred else .historic⟩

/-- A rate that a feed quotes on a day, if its factor makes one. -/
def quote? (reader : FeedReader) (day : Date) (pair : CurrencyPair) (factor : Decimal) :
    Option RateRecord :=
  ({ context := some (reader.contextOn day)
     base := some pair.base
     term := some pair.term
     factor := some factor
     asOf := some day : RateDraft }.build).toOption

end FeedReader

end CrossRate
