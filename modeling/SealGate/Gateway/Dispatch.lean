import SealGate.Gateway.Handler

/-! Dispatch. A request that a rule takes is answered by the handler of its route, and a handler's
error becomes a response. Every other request is passed through to the origin; if that fails the
answer is a bad gateway with the message. Only a range whose length does not fit 64 bits leaves its
request without an answer. -/

namespace SealGate.Gateway

open Http

inductive Dispatched
  | handled (response : Response BodyFault)
  | passThrough (request : Request)

/-- The response to a client, an error turned into one. -/
def respond (result : Except Error (Response BodyFault)) : Response BodyFault :=
  match result with
  | .ok response => response
  | .error error => error.toResponse

/-- Runs the handler of a request, or hands the request back. -/
def dispatch (request : Request) (g : Gateway) : Dispatched × Gateway :=
  match route? g.snapshot.isEnabled request.path with
  | none => (.passThrough request, g)
  | some route =>
    let (result, g) := g.handle route request
    (.handled (respond result), g)

def badGateway : Nat := 502

/-- Answers a request. -/
def serve (request : Request) (g : Gateway) : Response BodyFault × Gateway :=
  match g.dispatch request with
  | (.handled response, g) => (response, g)
  | (.passThrough request, g) =>
    match g.relay request with
    | (.ok response, g) => (response, g)
    | (.error error, g) => ((Error.status badGateway error.message).toResponse, g)

/-- Computing the length of a range has run over, which is no error to tell but a panic. -/
def Error.isPanic (error : Error) : Bool :=
  error = .invalidBody (.request (.rangeHeader (.range .overflow)))

/-- Whether the handler of a request panics. -/
def panics (request : Request) (g : Gateway) : Bool :=
  match route? g.snapshot.isEnabled request.path with
  | none => false
  | some route =>
    match (g.handle route request).1 with
    | .ok _ => false
    | .error error => error.isPanic

/-- Answers a request on its connection, which ends without an answer if the handler panics. -/
def answer (request : Request) (g : Gateway) : Option (Response BodyFault) × Gateway :=
  let (response, after) := g.serve request
  (if g.panics request then none else some response, after)

end SealGate.Gateway
