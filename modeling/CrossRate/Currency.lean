import CrossRate.OrderedMap
import CrossRate.Text.Blank
import CrossRate.Text.Case
import CrossRate.Text.Quoted

/-!
# Currencies

A `Currency` is named by its code in upper case. `ofCode` takes any text for a code, and
`parse` only those of three ASCII letters. A `CurrencyPair` is the direction of a rate.
-/

namespace CrossRate

/-- A currency or another unit of account, such as the special drawing right. -/
structure Currency where
  /-- The code in upper case. -/
  code : String
deriving DecidableEq, Inhabited

/-- A text that is no currency code. -/
structure InvalidCurrencyCode where
  /-- The text as it was given. -/
  text : String

namespace InvalidCurrencyCode

def message (e : InvalidCurrencyCode) : String := "Invalid currency code: " ++ Text.quoted e.text

end InvalidCurrencyCode

namespace Currency

instance : LT Currency := ⟨fun a b => a.code < b.code⟩

instance : DecidableLT Currency := fun a b => inferInstanceAs (Decidable (a.code < b.code))

instance : KeyOrder Currency where
  irrefl a := String.lt_irrefl a.code
  trans := String.lt_trans
  trichotomy a b := by
    rcases KeyOrder.trichotomy a.code b.code with h | h | h
    · exact .inl h
    · refine .inr (.inl ?_)
      cases a
      cases b
      simp_all
    · exact .inr (.inr h)

/-- The currency of a code that is not checked. -/
def ofCode (code : String) : Currency := ⟨Text.upper code⟩

/-- Whether a text is a currency code: three ASCII letters. -/
def isCode (cs : List Char) : Bool := cs.length == 3 && cs.all Char.isAlpha

/-- The currency of a code with blanks around it. -/
def parse (text : String) : Except InvalidCurrencyCode Currency :=
  let trimmed := Text.trim text
  if isCode trimmed.toList then .ok (ofCode trimmed) else .error ⟨text⟩

/-- The euro, against which the reference rates of the ECB are quoted. -/
def euro : Currency := ofCode "EUR"

/-- The special drawing right, the unit of account of the IMF. -/
def specialDrawingRight : Currency := ofCode "SDR"

end Currency

/-- The direction of a rate: from one currency to another. -/
structure CurrencyPair where
  base : Currency
  term : Currency
deriving DecidableEq

namespace CurrencyPair

/-- The opposite direction. -/
def inverse (p : CurrencyPair) : CurrencyPair := ⟨p.term, p.base⟩

def print (p : CurrencyPair) : String := p.base.code ++ "/" ++ p.term.code

end CurrencyPair

end CrossRate
