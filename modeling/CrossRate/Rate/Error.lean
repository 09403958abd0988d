import CrossRate.Loading.Error
import CrossRate.Rate.Record

/-!
# Failures of rates

A `RateError` says why there is no answer to a query, or why a provider or an engine could
not be set up. That there is no such rate is the plain answer; the others mean that a
provider could not answer at all.
-/

namespace CrossRate

/-- What is wrong with a rate. -/
inductive InvalidRate where
  | missingContext
  | missingBase
  | missingTerm
  | missingFactor (pair : CurrencyPair)
  | notPositive (factor : Decimal) (pair : CurrencyPair)
  /-- The factor is not the product of those of the chain. -/
  | differsFromChain (factor : Decimal) (pair : CurrencyPair) (product : Decimal)
  /-- The product of the factors of a chain is out of range. -/
  | productOverflows
  /-- One divided by the factor is out of range. -/
  | notInvertible (record : RateRecord)

namespace InvalidRate

def message : InvalidRate → String
  | missingContext => "missing rate context"
  | missingBase => "missing base currency"
  | missingTerm => "missing term currency"
  | missingFactor pair => "missing factor for " ++ pair.print
  | notPositive factor pair =>
    "factor " ++ factor.print ++ " for " ++ pair.print ++ " must be positive"
  | differsFromChain factor pair product =>
    "factor " ++ factor.print ++ " for " ++ pair.print ++ " differs from chain product "
      ++ product.print
  | productOverflows => "chain product overflows"
  | notInvertible record => "cannot invert " ++ record.print

end InvalidRate

/-- How a feed quotes against its pivot. -/
inductive Layout where
  /-- One rate from the pivot to each currency and day. -/
  | direct
  /-- Independent rates to the pivot and from it. -/
  | dual
deriving DecidableEq

namespace Layout

/-- The name of a layout in settings. -/
def print : Layout → String
  | direct => "direct"
  | dual => "dual_pivot"

/-- The title of a layout in messages. -/
def title : Layout → String
  | direct => "Direct"
  | dual => "DualPivot"

/-- The layout of a name. -/
def ofName? (name : String) : Option Layout := [direct, dual].find? (·.print == name)

end Layout

/-- The pivot of a feed and how it quotes against it. -/
structure FeedShape where
  pivot : Currency
  layout : Layout
deriving DecidableEq

namespace FeedShape

def print (s : FeedShape) : String := s.pivot.code ++ " (" ++ s.layout.title ++ ")"

end FeedShape

/-- What is wrong with the payload of a feed. -/
inductive FeedFault where
  /-- The markup is not well formed. -/
  | malformedMarkup
  /-- A record is not text. -/
  | malformedRecord
  /-- No quote can be read. -/
  | noQuotes
  /-- No rate can be read. -/
  | noRates
  /-- The server answered with its page for rejected requests. -/
  | rejected
  /-- The feed of a format does not have the shape that the provider expects. -/
  | unexpectedShape (format : String) (found expected : FeedShape)

namespace FeedFault

/-- What is told of a fault. A reader of markup or of grids has words of its own for a fault and
counts the bytes before it; these are left out. -/
def message : FeedFault → String
  | malformedMarkup => "XML error"
  | malformedRecord => "CSV error"
  | noQuotes => "payload contains no quotes"
  | noRates => "payload contains no rates"
  | rejected => "request rejected by server"
  | unexpectedShape format found expected =>
    format ++ " feed quotes against " ++ found.print ++ ", provider expects " ++ expected.print

end FeedFault

/-- Why there is no answer. -/
inductive RateError where
  /-- There is no such rate on the days that were looked at. -/
  | unavailable (pair : CurrencyPair) (provider : String)
  | invalidRate (fault : InvalidRate)
  /-- The provider has not loaded anything in time; its last failure may say why. -/
  | notLoaded (provider : String) (lastFailure : Option String)
  /-- The payload of a feed could not be read. -/
  | unreadableFeed (provider : String) (fault : FeedFault)
  | invalidSettings (fault : SettingsFault)
  /-- A resource could not be registered or loaded. -/
  | loading (error : LoadError)

namespace RateError

def message : RateError → String
  | unavailable pair provider => "Conversion " ++ pair.print ++ " not available from " ++ provider
  | invalidRate fault => "Invalid rate: " ++ fault.message
  | notLoaded provider lastFailure =>
    provider ++ " has not loaded rate data in time"
      ++ (match lastFailure with
        | some reason => ": " ++ reason
        | none => "")
  | unreadableFeed provider fault => "Failed to parse " ++ provider ++ " feed: " ++ fault.message
  | invalidSettings fault => "Invalid configuration: " ++ fault.message
  | loading error => "Loader error: " ++ error.message

/-- Whether this is the plain answer that there is no such rate. -/
def isUnavailable : RateError → Bool
  | unavailable .. => true
  | _ => false

end RateError

end CrossRate
