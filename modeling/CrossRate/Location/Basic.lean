import CrossRate.Settings.Fault
import CrossRate.Text.Blank

/-!
# Locations

A `Location` says where the payload of a resource is: on the web, in a file, or within the
program.
-/

namespace CrossRate

/-- Where a payload is. -/
inductive Location where
  /-- On the web. -/
  | web (url : Url)
  /-- In a file. -/
  | file (path : String)
  /-- Within the program, under a name. -/
  | embedded (label : String) (payload : Bytes)
deriving DecidableEq

namespace Location

/-- The rest of a text after a word that it starts with. -/
def after? (word text : String) : Option String :=
  if word.toList.isPrefixOf text.toList then
    some (String.ofList (text.toList.drop word.length))
  else none

/-- Read a web address or the path of a file. -/
def parse (text : String) : Except SettingsFault Location :=
  let text := Text.trim text
  if text.isEmpty then .error .blankLocation
  else if ((after? "http://" text).or (after? "https://" text)).isSome then
    match Url.parse text with
    | .ok url => .ok (.web url)
    | .error fault => .error (.malformedLocation text fault)
  else .ok (.file ((after? "file://" text).getD text))

/-- Whether a payload there is fetched over the network. -/
def isRemote : Location → Bool
  | web _ => true
  | _ => false

def print : Location → String
  | web url => url.print
  | file path => "file://" ++ path
  | embedded label _ => "embedded:" ++ label

end Location

end CrossRate
