import CrossRate.Text.Bytes

/-!
# Bundled payloads

The payloads that stand in for the feeds of the catalog when neither the network nor the
store has any, each as the list of its lines.
-/

namespace CrossRate.Catalog

/-- The bytes of a text of some lines. -/
def payloadOf (lines : List String) : Bytes := Text.encode ("\n".intercalate lines)

/-- The tag that opens a document of reference rates. -/
def envelope : String :=
  "<gesmes:Envelope xmlns:gesmes=\"http://www.gesmes.org/xml/2002-08-01\" "
    ++ "xmlns=\"http://www.ecb.int/vocabulary/2002-08-01/eurofxref\">"

/-- The reference rates of one day. -/
def dailyLines : List String := [
  "<?xml version=\"1.0\" encoding=\"UTF-8\"?>",
  envelope,
  "\t<gesmes:subject>Reference rates</gesmes:subject>",
  "\t<gesmes:Sender>",
  "\t\t<gesmes:name>European Central Bank</gesmes:name>",
  "\t</gesmes:Sender>",
  "\t<Cube>",
  "\t\t<Cube time='2024-01-03'>",
  "\t\t\t<Cube currency='USD' rate='1.0919'/>",
  "\t\t\t<Cube currency='JPY' rate='155.52'/>",
  "\t\t\t<Cube currency='BGN' rate='1.9558'/>",
  "\t\t\t<Cube currency='CZK' rate='24.616'/>",
  "\t\t\t<Cube currency='DKK' rate='7.4564'/>",
  "\t\t\t<Cube currency='GBP' rate='0.86450'/>",
  "\t\t\t<Cube currency='HUF' rate='379.48'/>",
  "\t\t\t<Cube currency='PLN' rate='4.3633'/>",
  "\t\t\t<Cube currency='RON' rate='4.9718'/>",
  "\t\t\t<Cube currency='SEK' rate='11.2330'/>",
  "\t\t\t<Cube currency='CHF' rate='0.9305'/>",
  "\t\t\t<Cube currency='ISK' rate='151.10'/>",
  "\t\t\t<Cube currency='NOK' rate='11.3475'/>",
  "\t\t\t<Cube currency='TRY' rate='32.5602'/>",
  "\t\t\t<Cube currency='AUD' rate='1.6241'/>",
  "\t\t\t<Cube currency='BRL' rate='5.3802'/>",
  "\t\t\t<Cube currency='CAD' rate='1.4585'/>",
  "\t\t\t<Cube currency='CNY' rate='7.8047'/>",
  "\t\t\t<Cube currency='HKD' rate='8.5313'/>",
  "\t\t\t<Cube currency='IDR' rate='16977.62'/>",
  "\t\t\t<Cube currency='ILS' rate='3.9794'/>",
  "\t\t\t<Cube currency='INR' rate='90.9330'/>",
  "\t\t\t<Cube currency='KRW' rate='1431.33'/>",
  "\t\t\t<Cube currency='MXN' rate='18.6413'/>",
  "\t\t\t<Cube currency='MYR' rate='5.0461'/>",
  "\t\t\t<Cube currency='NZD' rate='1.7508'/>",
  "\t\t\t<Cube currency='PHP' rate='60.757'/>",
  "\t\t\t<Cube currency='SGD' rate='1.4515'/>",
  "\t\t\t<Cube currency='THB' rate='37.678'/>",
  "\t\t\t<Cube currency='ZAR' rate='20.4593'/>",
  "\t\t</Cube>",
  "\t</Cube>",
  "</gesmes:Envelope>",
  ""]

/-- The reference rates of some days. -/
def historyLines : List String := [
  "<?xml version=\"1.0\" encoding=\"UTF-8\"?>",
  envelope,
  "\t<gesmes:subject>Reference rates</gesmes:subject>",
  "\t<gesmes:Sender>",
  "\t\t<gesmes:name>European Central Bank</gesmes:name>",
  "\t</gesmes:Sender>",
  "\t<Cube>",
  "\t\t<Cube time=\"2024-01-03\">",
  "\t\t\t<Cube currency=\"USD\" rate=\"1.0919\"/>",
  "\t\t\t<Cube currency=\"JPY\" rate=\"155.52\"/>",
  "\t\t\t<Cube currency=\"GBP\" rate=\"0.86450\"/>",
  "\t\t\t<Cube currency=\"CHF\" rate=\"0.9305\"/>",
  "\t\t\t<Cube currency=\"BRL\" rate=\"5.3802\"/>",
  "\t\t\t<Cube currency=\"CAD\" rate=\"1.4585\"/>",
  "\t\t\t<Cube currency=\"CNY\" rate=\"7.8047\"/>",
  "\t\t\t<Cube currency=\"INR\" rate=\"90.9330\"/>",
  "\t\t</Cube>",
  "\t\t<Cube time=\"2024-01-02\">",
  "\t\t\t<Cube currency=\"USD\" rate=\"1.0956\"/>",
  "\t\t\t<Cube currency=\"JPY\" rate=\"155.62\"/>",
  "\t\t\t<Cube currency=\"GBP\" rate=\"0.86518\"/>",
  "\t\t\t<Cube currency=\"CHF\" rate=\"0.9308\"/>",
  "\t\t\t<Cube currency=\"BRL\" rate=\"5.3642\"/>",
  "\t\t\t<Cube currency=\"CAD\" rate=\"1.4585\"/>",
  "\t\t\t<Cube currency=\"CNY\" rate=\"7.8247\"/>",
  "\t\t\t<Cube currency=\"INR\" rate=\"91.2445\"/>",
  "\t\t</Cube>",
  "\t\t<Cube time=\"2023-12-29\">",
  "\t\t\t<Cube currency=\"USD\" rate=\"1.1050\"/>",
  "\t\t\t<Cube currency=\"JPY\" rate=\"156.33\"/>",
  "\t\t\t<Cube currency=\"GBP\" rate=\"0.86905\"/>",
  "\t\t\t<Cube currency=\"CHF\" rate=\"0.9260\"/>",
  "\t\t\t<Cube currency=\"BRL\" rate=\"5.3618\"/>",
  "\t\t\t<Cube currency=\"CAD\" rate=\"1.4642\"/>",
  "\t\t\t<Cube currency=\"CNY\" rate=\"7.8509\"/>",
  "\t\t\t<Cube currency=\"INR\" rate=\"91.9045\"/>",
  "\t\t</Cube>",
  "\t</Cube>",
  "</gesmes:Envelope>",
  ""]

/-- The rates of the special drawing right. -/
def sdrLines : List String := [
  "SDRs per Currency unit (2)",
  "",
  "Currency\tJanuary 03, 2024\tJanuary 02, 2024",
  "Chinese yuan\t0.1051820000\t0.1053140000",
  "Euro\t0.8193420000\t0.8218720000",
  "Japanese yen\t0.0052741100\t0.0052986300",
  "U.K. Pound Sterling\t0.9485340000\t0.9497830000",
  "U.S. dollar\t0.7480450000\t0.7498560000",
  "Swiss franc\t0.8809390000\t0.8834570000",
  "",
  "Currency units per SDR(3)",
  "",
  "Currency\tJanuary 03, 2024\tJanuary 02, 2024",
  "Chinese yuan\t9.507330\t9.495410",
  "Euro\t1.220490\t1.216730",
  "Japanese yen\t189.606000\t188.728000",
  "U.K. Pound Sterling\t1.054260\t1.052870",
  "U.S. dollar\t1.336820\t1.333590",
  "Swiss franc\t1.135150\t1.131920",
  ""]

end CrossRate.Catalog
