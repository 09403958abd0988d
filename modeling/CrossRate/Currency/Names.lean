import CrossRate.Currency

/-!
# Names of currencies

Feeds may give currencies by their names in English. `CurrencyNames` finds the currency of
a name, whatever the case of its letters and the blanks between and around its words.
-/

namespace CrossRate

/-- A registry of the names of currencies. -/
structure CurrencyNames where
  /-- The currencies by the normal forms of their names. -/
  byName : OrderedMap String Currency

namespace CurrencyNames

/-- The normal form of a name: its words in lower case, one space between them. -/
def normalForm (name : String) : String :=
  Text.lower (String.ofList (List.intercalate [' '] (Text.words name)))

/-- The registry without names. -/
def empty : CurrencyNames := ⟨.empty⟩

/-- Give a name to a currency, in place of the one that has it. -/
def insert (names : CurrencyNames) (name : String) (currency : Currency) : CurrencyNames :=
  ⟨names.byName.insert (normalForm name) currency⟩

/-- The currency of a name. -/
def lookup (names : CurrencyNames) (name : String) : Option Currency :=
  names.byName.get? (normalForm name)

/-- The number of different names. -/
def size (names : CurrencyNames) : Nat := names.byName.size

/-- The names that the tables of the IMF use, with the codes of their currencies. -/
def imfNames : List (String × String) := [
    ("Algerian Dinar", "DZD"), ("Australian Dollar", "AUD"), ("Bahrain Dinar", "BHD"),
    ("Bolivar Fuerte", "VEF"), ("Botswana Pula", "BWP"), ("Brazilian Real", "BRL"),
    ("Brunei Dollar", "BND"), ("Canadian Dollar", "CAD"), ("Chilean Peso", "CLP"),
    ("Chinese Yuan", "CNY"), ("Colombian Peso", "COP"), ("Czech Koruna", "CZK"),
    ("Danish Krone", "DKK"), ("Euro", "EUR"), ("Hungarian Forint", "HUF"),
    ("Icelandic Krona", "ISK"), ("Indian Rupee", "INR"), ("Indonesian Rupiah", "IDR"),
    ("Iranian Rial", "IRR"), ("Israeli New Sheqel", "ILS"), ("Japanese Yen", "JPY"),
    ("Kazakhstani Tenge", "KZT"), ("Korean Won", "KRW"), ("Kuwaiti Dinar", "KWD"),
    ("Libyan Dinar", "LYD"), ("Malaysian Ringgit", "MYR"), ("Mauritian Rupee", "MUR"),
    ("Mexican Peso", "MXN"), ("Nepalese Rupee", "NPR"), ("New Zealand Dollar", "NZD"),
    ("Norwegian Krone", "NOK"), ("Nuevo Sol", "PEN"), ("Pakistani Rupee", "PKR"),
    ("Peso Uruguayo", "UYU"), ("Philippine Peso", "PHP"), ("Polish Zloty", "PLN"),
    ("Qatar Riyal", "QAR"), ("Rial Omani", "OMR"), ("Russian Ruble", "RUB"),
    ("Saudi Arabian Riyal", "SAR"), ("Singapore Dollar", "SGD"), ("South African Rand", "ZAR"),
    ("Sri Lanka Rupee", "LKR"), ("Swedish Krona", "SEK"), ("Swiss Franc", "CHF"),
    ("Thai Baht", "THB"), ("Trinidad And Tobago Dollar", "TTD"), ("Tunisian Dinar", "TND"),
    ("U.A.E. Dirham", "AED"), ("U.K. Pound Sterling", "GBP"), ("U.S. Dollar", "USD")]

/-- The registry of the names that the tables of the IMF use. -/
def standard : CurrencyNames :=
  imfNames.foldl (fun names e => names.insert e.1 (.ofCode e.2)) empty

end CurrencyNames

end CrossRate
