import SealGate.Net.Host

/-! URLs of servers. Reading takes what people write: blanks around the text, line breaks in it,
backslashes for slashes, a user in front of the host. Written, a URL has its scheme and host in
lower case, no user, no port that goes without saying, a path without dot segments that starts with
a slash, and escapes for the characters that a URL cannot show. What the user signs in with is kept
beside the text. -/

namespace SealGate.Net

open Text

inductive Scheme
  | http
  | https
  deriving DecidableEq

namespace Scheme

def name : Scheme → String
  | .http => "http"
  | .https => "https"

/-- The port that goes without saying. -/
def port : Scheme → Nat
  | .http => 80
  | .https => 443

end Scheme

/-- A port of `none` is that of the scheme. -/
structure Url where
  scheme : Scheme
  /-- The name and the password of a user, with a colon between them. -/
  user : Option String
  host : Host
  port : Option UInt16
  segments : List String
  query : Option String
  fragment : Option String
  deriving DecidableEq

namespace Url

/-! ### Reading -/

def isBlank (c : Char) : Bool := c.toNat ≤ 32

/-- A text without blanks around it and without tabs and line breaks in it. -/
def clean (text : List Char) : List Char :=
  let front := (text.reverse.dropWhile isBlank).reverse
  (front.dropWhile isBlank).filter fun c => c ≠ '\t' && c ≠ '\n' && c ≠ '\r'

def isSlash (c : Char) : Bool := c = '/' || c = '\\'

def endsPath (c : Char) : Bool := c = '?' || c = '#'

def scheme? (text : List Char) : Option (Scheme × List Char) := do
  let (name, rest) ← splitFirst ':' text
  let scheme ← [Scheme.http, Scheme.https].find? fun scheme =>
    scheme.name.toList = name.map Char.toLower
  return (scheme, rest)

/-- The user in front of a host and the sign behind it, if there is one. -/
def beforeHost (authority : List Char) : List Char := (uptoLast? '@' authority).getD []

/-- The name and the password of a user, in which escapes stand for their bytes. There is no user if
the name is no text or if both are empty. -/
def userOf (user : List Char) : Option String := do
  let (name, password) := (splitFirst ':' user).getD (user, [])
  let name ← Percent.decode? (String.ofList name)
  let password := (Percent.decode? (String.ofList password)).getD ""
  if name = "" ∧ password = "" then none else return name ++ ":" ++ password

/-- A port behind a host: left out, empty, or a number below 2^16. -/
def port? (scheme : Scheme) (text : List Char) : Option (Option UInt16) :=
  match text with
  | [] => some none
  | ':' :: digits =>
    if !digits.all Decimal.isDigit || 2 ^ 16 ≤ Decimal.value digits then none
    else if digits = [] || Decimal.value digits = scheme.port then some none
    else some (some (UInt16.ofNat (Decimal.value digits)))
  | _ => none

/-- Bytes that are shown: printable ASCII except the space and a few. -/
def isShown (except : String) (b : UInt8) : Bool :=
  32 < b.toNat && b.toNat < 127 && Char.ofNat b.toNat ∉ except.toList

def escapeSegment (text : List Char) : String :=
  Percent.escape (isShown "\"#<>?`\x7b\x7d") (String.ofList text)

def escapeQuery (text : List Char) : String :=
  Percent.escape (isShown "\"#<>'") (String.ofList text)

def escapeFragment (text : List Char) : String :=
  Percent.escape (isShown "\"<>`") (String.ofList text)

/-- Whether a segment consists of dots, which may be escaped. -/
def isDots (dots : String) (segment : List Char) : Bool :=
  Percent.decode? (String.ofList segment) = some dots

/-- The segments of a path behind those already known: one dot stays here, two go up. -/
def resolve (known : List String) : List (List Char) → List String
  | [] => known
  | segment :: rest =>
    let tail := if rest = [] then [""] else []
    if isDots "." segment then resolve (known ++ tail) rest
    else if isDots ".." segment then resolve (known.dropLast ++ tail) rest
    else resolve (known ++ [escapeSegment segment]) rest

/-- The segments of a path behind its first slash. -/
def segmentsOf (path : List Char) : List String :=
  match path with
  | _ :: rest => resolve [] (pieces isSlash rest)
  | [] => [""]

/-- The query of what follows a path. -/
def queryOf (text : List Char) : Option String :=
  match text.takeWhile (· ≠ '#') with
  | '?' :: query => some (escapeQuery query)
  | _ => none

def fragmentOf (text : List Char) : Option String :=
  match text.dropWhile (· ≠ '#') with
  | _ :: fragment => some (escapeFragment fragment)
  | [] => none

def parse? (text : String) : Option Url := do
  let (scheme, rest) ← scheme? (clean text.toList)
  let rest := rest.dropWhile isSlash
  let authority := rest.takeWhile fun c => !isSlash c && !endsPath c
  let rest := rest.drop authority.length
  let user := beforeHost authority
  let (host, behind) ← Host.read? (authority.drop user.length)
  let port ← port? scheme behind
  let path := rest.takeWhile (!endsPath ·)
  let rest := rest.drop path.length
  return ⟨scheme, userOf user.dropLast, host, port, segmentsOf path, queryOf rest, fragmentOf rest⟩

/-! ### Writing -/

/-- The host and the port. -/
def authorityChars (url : Url) : List Char :=
  url.host.render ++ (url.port.map fun port => ':' :: Decimal.digits port.toNat).getD []

def pathChars (segments : List String) : List Char :=
  segments.flatMap fun segment => '/' :: segment.toList

def renderChars (url : Url) : List Char :=
  url.scheme.name.toList ++ "://".toList ++ url.authorityChars ++ pathChars url.segments ++
    (url.query.map fun query => '?' :: query.toList).getD [] ++
    (url.fragment.map fun fragment => '#' :: fragment.toList).getD []

def authority (url : Url) : String := String.ofList url.authorityChars

def path (url : Url) : String := String.ofList (pathChars url.segments)

def render (url : Url) : String := String.ofList url.renderChars

/-- Whether a request can be made for a URL: it has at most 65534 characters, and a name none of
those that only URLs let pass. -/
def isRequestable (url : Url) : Bool :=
  url.renderChars.length < 65535 && url.host.render.all (· ∉ "\"`\x7b\x7d".toList)

end Url

end SealGate.Net
