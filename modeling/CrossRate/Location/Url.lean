import CrossRate.Location.Host

/-!
# Web addresses

The addresses of the schemes `http` and `https`. `Url.parse` reads them as browsers do:
the host is put into its one form, dots in the path are resolved and characters that may
not stand are escaped. `Url.print` writes the result.
-/

namespace CrossRate

/-- The address of a document on the web. -/
structure Url where
  /-- Whether the scheme is the one with encryption. -/
  secure : Bool
  /-- The user and password with the sign after them, if there are any. -/
  credentials : String
  host : Host
  /-- The port, if it is not the one of the scheme. -/
  port : Option Nat
  /-- The parts of the path between slashes. -/
  path : List String
  query : Option String
  fragment : Option String
deriving DecidableEq

namespace Url

/-- A byte as a percent sign and two hexadecimal digits. -/
def escapedByte (b : UInt8) : List Char :=
  '%' :: [Nat.digitChar (b.toNat / 16), Nat.digitChar (b.toNat % 16)].map Char.toUpper

/-- A character, its bytes escaped if it is a control, not in ASCII or one of the given
ones. -/
def escape (reserved : String) (c : Char) : List Char :=
  if c.toNat < 0x20 || 0x7F ≤ c.toNat || reserved.toList.contains c then
    (Text.encode c.toString).flatMap escapedByte
  else [c]

/-- Characters with those escaped that may not stand. -/
def escapeAll (reserved : String) (cs : List Char) : String :=
  String.ofList (cs.flatMap (escape reserved))

/-- What is escaped in a path. -/
def pathReserved : String := " \"<>`#?\x7b\x7d"

/-- What is escaped in a query. -/
def queryReserved : String := " \"#<>'"

/-- What is escaped in a fragment. -/
def fragmentReserved : String := " \"<>`"

/-- What is escaped in a user name or a password. -/
def credentialsReserved : String := " \"<>`#?\x7b\x7d/:;=@[\\]^|"

/-- Whether a character ends the part of an address that names its server. -/
def endsServer (c : Char) : Bool := c = '/' || c = '\\' || c = '?' || c = '#'

/-- Split after the last sign that ends credentials, if there is one. -/
def splitCredentials (cs : List Char) : Option (List Char × List Char) :=
  let reversed := cs.reverse
  if cs.contains '@' then
    let host := reversed.takeWhile (· ≠ '@')
    some ((reversed.drop (host.length + 1)).reverse, host.reverse)
  else none

/-- The written form of credentials, with the sign that ends them. -/
def printCredentials (cs : List Char) : String :=
  let user := cs.takeWhile (· ≠ ':')
  let password := cs.drop (user.length + 1)
  if user.isEmpty ∧ password.isEmpty then ""
  else
    escapeAll credentialsReserved user
      ++ (if password.isEmpty then "" else ":" ++ escapeAll credentialsReserved password) ++ "@"

/-- Split a host from the port after it. A colon in brackets belongs to the host. -/
def splitPort (inBrackets : Bool) : List Char → List Char × Option (List Char)
  | [] => ([], none)
  | c :: rest =>
    if c = ':' && !inBrackets then ([], some rest)
    else
      let inside := if c = '[' then true else if c = ']' then false else inBrackets
      let (host, port) := splitPort inside rest
      (c :: host, port)

/-- Read a port; an empty one, and that of the scheme, are left out. -/
def parsePort (secure : Bool) (digits : List Char) : Except UrlFault (Option Nat) :=
  if !digits.all Char.isDigit then .error .invalidPort
  else
    match Host.numberIn? 10 digits with
    | some n =>
      if 65535 < n then .error .invalidPort
      else if digits.isEmpty || n = (if secure then 443 else 80) then .ok none
      else .ok (some n)
    | none => .error .invalidPort

/-- Whether a part of a path stands for the place itself. -/
def isDot (part : String) : Bool := [".", "%2e"].contains (Text.lowerAscii part)

/-- Whether a part of a path stands for the place above. -/
def isDoubleDot (part : String) : Bool :=
  ["..", ".%2e", "%2e.", "%2e%2e"].contains (Text.lowerAscii part)

/-- Resolve the dots in the parts of a path; `above` holds the parts before, last first. -/
def resolveDots (above : List String) : List String → List String
  | [] => above.reverse
  | [part] =>
    if isDoubleDot part then ("" :: above.drop 1).reverse
    else if isDot part then ("" :: above).reverse
    else (part :: above).reverse
  | part :: rest =>
    if isDoubleDot part then resolveDots (above.drop 1) rest
    else if isDot part then resolveDots above rest
    else resolveDots (part :: above) rest

/-- Read a path, which starts with a slash unless it is empty. -/
def parsePath (cs : List Char) : List String :=
  let parts := (cs.map (fun c => if c = '\\' then '/' else c)).drop 1 |>.splitOn '/'
  resolveDots [] (parts.map (escapeAll pathReserved))

/-- Split at the first occurrence of a character. -/
def splitAtFirst (mark : Char) (cs : List Char) : List Char × Option (List Char) :=
  let before := cs.takeWhile (· ≠ mark)
  if cs.contains mark then (before, some (cs.drop (before.length + 1))) else (before, none)

/-- Read what follows the scheme and its slashes. -/
def parseRest (secure : Bool) (cs : List Char) : Except UrlFault Url := do
  let server := cs.takeWhile (!endsServer ·)
  let cs := cs.drop server.length
  let (credentials, server) := (splitCredentials server).getD ([], server)
  let (host, port) := splitPort false server
  let host ← Host.parse host
  let port ← parsePort secure (port.getD [])
  let (cs, fragment) := splitAtFirst '#' cs
  let (path, query) := splitAtFirst '?' cs
  return {
    secure := secure
    credentials := printCredentials credentials
    host := host
    port := port
    path := parsePath path
    query := query.map (escapeAll queryReserved)
    fragment := fragment.map (escapeAll fragmentReserved) }

/-- Read a text that starts with one of the two schemes in small letters. Tabs and line
breaks in it count for nothing, and so do additional slashes before the host. -/
def parse (text : String) : Except UrlFault Url :=
  let cs := (text.toList.dropWhile (·.toNat ≤ 0x20)).reverse.dropWhile (·.toNat ≤ 0x20)
  let cs := cs.reverse.filter (fun c => c ≠ '\t' && c ≠ '\n' && c ≠ '\r')
  let scheme := cs.takeWhile (· ≠ ':')
  parseRest (scheme = "https".toList)
    ((cs.drop (scheme.length + 1)).dropWhile (fun c => c = '/' || c = '\\'))

def print (url : Url) : String :=
  (if url.secure then "https://" else "http://") ++ url.credentials ++ url.host.print
    ++ (match url.port with
      | some port => ":" ++ toString port
      | none => "")
    ++ "/" ++ "/".intercalate url.path
    ++ (match url.query with
      | some query => "?" ++ query
      | none => "")
    ++ (match url.fragment with
      | some fragment => "#" ++ fragment
      | none => "")

end Url

end CrossRate
