import CrossRate.Catalog.Payloads
import CrossRate.Feed.Format
import CrossRate.Loading.Resource
import CrossRate.Settings.Provider

/-!
# The catalog

The providers that come with the library. Each has a feed, described by an `Entry`, except
the one that answers for a currency and itself.
-/

namespace CrossRate.Catalog

/-- The name of the provider that answers for a currency and itself. -/
def identityName : String := "IDENT"

/-- The names of the providers that are asked by default, in their order. -/
def defaultChain : List String := [identityName, "ECB", "IMF", "ECB-HIST90", "ECB-HIST"]

/-- A provider with a feed. -/
structure Entry where
  /-- The name of the provider and of the resource that feeds it. -/
  name : String
  /-- The address of the feed. -/
  url : Url
  /-- The name of the payload that stands in for the feed. -/
  backupName : String
  /-- The payload that stands in for the feed. -/
  backup : Bytes
  /-- The time between refreshes. -/
  period : String
  shape : FeedShape
  format : FeedFormat

/-- An address over an encrypted connection without user, port and fragment. -/
def address (host : String) (path : List String) (query : Option String) : Url :=
  ⟨true, "", .name host, none, path, query, none⟩

/-- The address of a document of reference rates. -/
def ecbAddress (document : String) : Url :=
  address "www.ecb.europa.eu" ["stats", "eurofxref", document] none

/-- The address of the table of special drawing rights. -/
def imfAddress : Url :=
  address "www.imf.org" ["external", "np", "fin", "data", "rms_five.aspx"] (some "tsvflag=Y")

/-- The providers with a feed. -/
def entries : List Entry :=
  [{ name := "ECB"
     url := ecbAddress "eurofxref-daily.xml"
     backupName := "ecb-current.xml"
     backup := payloadOf dailyLines
     period := "03:00"
     shape := ⟨.euro, .direct⟩
     format := .referenceRates },
   { name := "IMF"
     url := imfAddress
     backupName := "imf.tsv"
     backup := payloadOf sdrLines
     period := "06:00"
     shape := ⟨.specialDrawingRight, .dual⟩
     format := .sdrTable .standard },
   { name := "ECB-HIST90"
     url := ecbAddress "eurofxref-hist-90d.xml"
     backupName := "ecb-hist90.xml"
     backup := payloadOf historyLines
     period := "03:00"
     shape := ⟨.euro, .direct⟩
     format := .referenceRates },
   { name := "ECB-HIST"
     url := ecbAddress "eurofxref-hist.xml"
     backupName := "ecb-hist90.xml"
     backup := payloadOf historyLines
     period := "24:00"
     shape := ⟨.euro, .direct⟩
     format := .referenceRates }]

/-- The entry of a name. -/
def find? (name : String) : Option Entry :=
  entries.find? (Text.sameIgnoringCase ·.name name)

/-- Whether the library has a provider of a name. -/
def isKnown (name : String) : Bool :=
  Text.sameIgnoringCase name identityName || (find? name).isSome

namespace Entry

/-- The resource that feeds the provider. -/
def resource (e : Entry) : Resource where
  id := e.name
  policy := .scheduled
  remotes := [.web e.url]
  backup := some (.embedded e.backupName e.backup)
  properties := .ofList [(Resource.periodKey, e.period)]

/-- The settings of the provider, given the seconds that a query waits for its data. -/
def settings (e : Entry) (loadTimeout : Nat) : ProviderSettings :=
  ⟨e.name, e.name, e.shape, .background, loadTimeout⟩

end Entry

end CrossRate.Catalog
