import LoginGateway.Backend.Relay
import LoginGateway.Gateway.Auth
import LoginGateway.Gateway.Health
import LoginGateway.Gateway.Route

namespace LoginGateway

structure Arrival where
  now : Duration
  /-- The id of the request, if it brings none itself. -/
  freshId : Http.HeaderValue
  request : Http.Request

structure Answer where
  gateway : Gateway
  response : Http.Response
  received : List Backend.Outgoing := []

namespace Gateway

open Http

def outcome (result : Except Failure Response) : Response :=
  match result with
  | .ok response => response
  | .error failure => failure.response

def methodNotAllowed : Response := ⟨405, [], .empty⟩

def notFound : Response := ⟨404, [], .empty⟩

def serveAuth (gateway : Gateway) (now : Duration) (request : Request) : Answer :=
  match request.method with
  | .get | .head => ⟨gateway, gateway.sessionStatus now request.headers, []⟩
  | .post =>
    let (result, gateway) := gateway.login now request.headers request.body
    ⟨gateway, outcome result, []⟩
  | .delete => ⟨gateway, gateway.logout, []⟩
  | _ => ⟨gateway, methodNotAllowed, []⟩

def serveHealth (gateway : Gateway) (request : Request) : Answer :=
  if Route.health.serves request.method then ⟨gateway, health request.method gateway.commit?, []⟩
  else ⟨gateway, methodNotAllowed, []⟩

/-- Without a session nothing is relayed, whatever the method is. -/
def serveProxy (network : Backend.Network) (gateway : Gateway) (now : Duration) (rest : String)
    (request : Request) : Answer :=
  if !gateway.authenticated now request.headers then
    ⟨gateway, Failure.unauthorized.response, []⟩
  else if (Route.proxy rest).serves request.method then
    let relayed := Backend.relay gateway.client network gateway.config rest request
    ⟨gateway, outcome relayed.result, relayed.received⟩
  else ⟨gateway, methodNotAllowed, []⟩

/-- The response to the question which requests from other origins are allowed. -/
def preflight : Response :=
  ⟨200,
    [(.accessControlAllowMethods, .ofText "GET,POST,PUT,PATCH,DELETE"),
      (.accessControlAllowHeaders, .ofText "content-type")], .empty⟩

def serveRoute (network : Backend.Network) (gateway : Gateway) (now : Duration) (request : Request) :
    Option Route → Answer
  | none => ⟨gateway, notFound, []⟩
  | some .auth => gateway.serveAuth now request
  | some .health => gateway.serveHealth request
  | some (.proxy rest) => serveProxy network gateway now rest request

def withAllow (route : Option Route) (method : Method) (response : Response) : Response :=
  match route with
  | none => response
  | some route =>
    if route.serves method then response else response.withHeader .allow route.allow

/-- The length is that of the body that would be sent for GET; a response to HEAD has no body. -/
def withLength (method : Method) (response : Response) : Response :=
  let sized := response.withHeader .contentLength (.ofNat response.body.size)
  if method = .head then { sized with body := .empty } else sized

def withOrigins (response : Response) : Response :=
  (response.withHeader .accessControlAllowOrigin (.ofText "*")).withHeader .vary
    (.ofText "origin, access-control-request-method, access-control-request-headers")

def requestId (arrival : Arrival) : HeaderValue :=
  (arrival.request.headers.first? .requestId).getD arrival.freshId

def handle (network : Backend.Network) (gateway : Gateway) (arrival : Arrival) : Answer :=
  let request := arrival.request
  let route := Route.ofPath? request.target.path
  let answer : Answer :=
    if request.method = .options then ⟨gateway, preflight, []⟩
    else serveRoute network gateway arrival.now request route
  let response := withLength request.method (withAllow route request.method answer.response)
  { answer with
    response := (withOrigins response).withHeader .requestId (requestId arrival) }

end Gateway

end LoginGateway
