import LoginGateway.Failure
import LoginGateway.Gateway.State
import LoginGateway.Login.Body
import LoginGateway.Login.Source
import LoginGateway.Session.Cookie

namespace LoginGateway.Gateway

def maxLoginSize : Nat := 16 * 1024

/-- The password in the body of a login that arrived as a whole and is not too long. -/
def givenPassword? (body : Http.Body) : Option String :=
  if !body.complete || maxLoginSize < body.content.size then none
  else Login.Body.password? body.content.data.toList

def authenticated (gateway : Gateway) (now : Duration) (headers : Http.Headers) : Bool :=
  (Session.Cookie.token? headers).any (gateway.codec.verify now)

def success : Http.Response := .json 200 (Json.object [("success", .bool true)]).text

def accepted (gateway : Gateway) (now : Duration) : Except Failure Http.Response :=
  match Session.Cookie.setting? (gateway.codec.issue now) gateway.config.sessionMaxAge
      gateway.config.cookieSecure with
  | some cookie => .ok (success.withHeader .setCookie cookie)
  | none => .error .internal

/-- A login. The attempt is counted before anything else is looked at, and a success forgets the
attempts of its source. -/
def login (gateway : Gateway) (now : Duration) (headers : Http.Headers) (body : Http.Body) :
    Except Failure Http.Response × Gateway :=
  let source := Login.source headers
  match gateway.check now source with
  | (.limited retryAfter, gateway) => (.error (.rateLimited retryAfter), gateway)
  | (.allowed, gateway) =>
    match givenPassword? body with
    | none => (.error .badRequest, gateway)
    | some password =>
      if password = gateway.config.password then (gateway.accepted now, gateway.reset source)
      else (.error .invalidPassword, gateway)

def logout (gateway : Gateway) : Http.Response :=
  match Session.Cookie.clearing? gateway.config.cookieSecure with
  | some cookie => success.withHeader .setCookie cookie
  | none => success

def sessionStatus (gateway : Gateway) (now : Duration) (headers : Http.Headers) : Http.Response :=
  let known := gateway.authenticated now headers
  .json (if known then 200 else 401) (Json.object [("authenticated", .bool known)]).text

end LoginGateway.Gateway
