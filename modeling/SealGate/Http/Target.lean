import SealGate.Text.Split

/-! Request targets. A target is a place on the server that receives the request, a server alone, or
a place on a server that it names with a scheme. A place is a path with a query; a fragment behind
it is dropped. Schemes of the web are in lower case, everything else stays as it is written. -/

namespace SealGate.Http

/-- A path, which may be left out where a server stands before it, and a query. -/
structure Place where
  path : String
  query : Option String
  deriving DecidableEq

namespace Place

def ofChars (text : List Char) : Place :=
  let shown := text.takeWhile (· ≠ '#')
  match Text.splitFirst '?' shown with
  | some (path, query) => ⟨String.ofList path, some (String.ofList query)⟩
  | none => ⟨String.ofList shown, none⟩

def withQuery (path : String) (query : Option String) : String :=
  match query with
  | some query => path ++ "?" ++ query
  | none => path

/-- A place as it is written; nothing at all stands for the root. -/
def render (place : Place) : String :=
  if place.path = "" ∧ place.query = none then "/" else withQuery place.path place.query

end Place

inductive Target
  | here (place : Place)
  | server (authority : String)
  | absolute (scheme authority : String) (place : Place)
  deriving DecidableEq

namespace Target

/-! ### Reading -/

def isSchemeChar (c : Char) : Bool := c.isAlphanum || c ∈ "+-.~".toList

/-- A scheme, which may be empty, and what follows its slashes. -/
def scheme? (text : List Char) : Option (List Char × List Char) :=
  match text.dropWhile isSchemeChar with
  | ':' :: '/' :: '/' :: rest => some (text.takeWhile isSchemeChar, rest)
  | _ => none

/-- A scheme as it is shown. -/
def shownScheme (scheme : List Char) : String :=
  let small := String.ofList (scheme.map Char.toLower)
  if small = "http" ∨ small = "https" then small else String.ofList scheme

def endsAuthority (c : Char) : Bool := c = '/' || c = '?' || c = '#'

def parse (text : String) : Target :=
  if text = "*" ∨ text.toList.head? = some '/' then .here (.ofChars text.toList)
  else
    match scheme? text.toList with
    | some (scheme, rest) =>
      .absolute (shownScheme scheme) (String.ofList (rest.takeWhile (!endsAuthority ·)))
        (.ofChars (rest.dropWhile (!endsAuthority ·)))
    | none => .server text

/-! ### Parts -/

/-- The place that a target asks for; a server alone leaves it out. -/
def place : Target → Place
  | .here place => place
  | .server _ => ⟨"", none⟩
  | .absolute _ _ place => place

/-- The path of a target: that of a named server is the root if it is left out, and a server alone
has none. -/
def path : Target → String
  | .absolute _ _ place => if place.path = "" then "/" else place.path
  | target => target.place.path

def query (target : Target) : Option String := target.place.query

def render (target : Target) : String :=
  match target with
  | .here place => Place.withQuery place.path place.query
  | .server authority => authority
  | .absolute scheme authority place =>
    scheme ++ "://" ++ authority ++ Place.withQuery target.path place.query

end Target

end SealGate.Http
