import SealGate.Http.Message
import SealGate.Net.Url
import SealGate.Text.Base64
import SealGate.Vault.Error

/-! The link to the origin. A request is made for a URL, and what the URL says is what arrives: its
place, its host and its user. The origin is any function from the requests it has received and a new
one to an answer. Over the link objects are fetched by name, in whole or in part, and requests of
clients are relayed. -/

namespace SealGate.Origin

open Http

/-- Why the body of an answer breaks off. -/
inductive ReadFault
  | broken
  | timedOut
  deriving DecidableEq

def ReadFault.toError : ReadFault → Vault.Error
  | .broken => .origin .reading
  | .timedOut => .timeout

inductive Answer
  /-- There is no connection, and nothing is received. -/
  | unreachable
  /-- There is no connection in time, and nothing is received. -/
  | unconnected
  /-- The connection ends without an answer. -/
  | closed
  /-- No answer comes in time. -/
  | silent
  | response (response : Response ReadFault)

/-! ### Requests on their way -/

/-- The URL of a request to a base: the text of the target stands right behind that of the base.
There is no request if a header has a value that none may have, or if nothing can be asked for under
the URL. -/
def locate (base : String) (request : Request) : Except (Option String) Net.Url :=
  if request.headers.all fun header => header.2.all Headers.isValueByte then
    match Net.Url.parse? (base ++ request.target.place.render) with
    | none => .error none
    | some url => if url.isRequestable then .ok url else .error (some url.render)
  else .error none

/-- How a user with a password signs in. -/
def credentials (user : String) : Bytes :=
  Bytes.ofText ("Basic " ++ Text.Base64.encode (Bytes.ofText user))

/-- The headers that a request is given if it has none of their names: any content will do, the host
is named, and a user of the URL signs in. -/
def defaultHeaders (url : Net.Url) : Headers :=
  [("accept", Bytes.ofText "*/*"), ("host", Bytes.ofText url.authority)] ++
    (url.user.map fun user => ("authorization", credentials user)).toList

/-- A request as it arrives. It asks for the place of its URL, or for a tunnel to its server. -/
def arriving (url : Net.Url) (request : Request) : Request :=
  { request with
    target := if request.method = "CONNECT" then .server url.authority
      else .here ⟨url.path, url.query⟩
    headers := request.headers.orDefault (defaultHeaders url) }

structure Link where
  base : String
  /-- What the origin answers, from the requests it has received and a new one as it arrives. -/
  answer : List Request → Request → Answer
  /-- The requests that have gone out, in order, as they were made. -/
  sent : List Request

namespace Link

/-- A link to a base address; slashes at its end are dropped. -/
def toBase (base : String) (answer : List Request → Request → Answer) : Link :=
  ⟨String.ofList (Text.dropTrailing '/' base.toList), answer, []⟩

/-- A link to an origin that cannot be reached. -/
def unreachable (base : String) : Link := toBase base fun _ _ => .unreachable

/-- What arrives of a request; one without a URL never goes out. -/
def arrival (link : Link) (request : Request) : Request :=
  match locate link.base request with
  | .ok url => arriving url request
  | .error _ => request

/-- The requests that the origin has received, in order. -/
def received (link : Link) : List Request := link.sent.map link.arrival

def send (request : Request) (link : Link) : Except Vault.Error (Response ReadFault) × Link :=
  match locate link.base request with
  | .error url => (.error (.origin (.building url)), link)
  | .ok url =>
    let after := { link with sent := link.sent ++ [request] }
    match link.answer link.received (arriving url request) with
    | .unreachable => (.error (.origin (.sending url.render)), link)
    | .unconnected => (.error .timeout, link)
    | .closed => (.error (.origin (.sending url.render)), after)
    | .silent => (.error .timeout, after)
    | .response response => (.ok response, after)

/-- The request for a stored object. -/
def objectRequest (name : String) (range : Option String) : Request :=
  ⟨"GET", .here ⟨"/rawfile/" ++ Text.Percent.encode name, none⟩,
    (range.map fun range => ("range", Bytes.ofText range)).toList, []⟩

/-- The object of an answer, whole or in part. -/
def objectOf (response : Response ReadFault) : Except Vault.Error (Body ReadFault) :=
  if response.status = 200 ∨ response.status = 206 then .ok response.body
  else if response.status = 404 then .error .notFound
  else .error (.origin (.status response.status))

/-- The chunks of a stored object as they come. -/
def stream (name : String) (range : Option String) (link : Link) :
    Except Vault.Error (List (Except Vault.Error Bytes)) × Link :=
  let (result, link) := link.send (objectRequest name range)
  (do return ((← objectOf (← result)).mapError ReadFault.toError).items, link)

/-- A stored object in memory. -/
def fetch (name : String) (range : Option String) (link : Link) : Except Vault.Error Bytes × Link :=
  let (result, link) := link.send (objectRequest name range)
  (do ((← objectOf (← result)).mapError ReadFault.toError).collect, link)

/-- What is relayed of a client's request. -/
def relayed (request : Request) : Request :=
  { request with headers := request.headers.endToEnd.without ["host", "content-length"] }

/-- Relays a request and the answer to it. -/
def relay (request : Request) (link : Link) : Except Vault.Error (Response ReadFault) × Link :=
  let (result, link) := link.send (relayed request)
  (result.map fun response =>
    { response with
      headers := response.headers.endToEnd
      body := .streamed response.body.items }, link)

end Link

end SealGate.Origin
