import LoginGateway.Build
import LoginGateway.Config
import LoginGateway.Http.Message
import LoginGateway.Text.Base64
import LoginGateway.Url.Parse

namespace LoginGateway.Backend

/-- A request as the client makes it. The fields that tell how long a body is are written over when it
is sent. -/
structure Outgoing where
  method : Http.Method
  url : Url
  headers : Http.Headers
  body : Option ByteArray := none

inductive Reply where
  /-- There is no connection, and nothing is received. -/
  | refused
  /-- The request is received, but no HTTP response to it comes back in time. -/
  | broken
  /-- A response; its body may end too early. -/
  | answered (status : Nat) (headers : Http.Headers) (body : ByteArray) (complete : Bool)

abbrev Network := List Outgoing → Outgoing → Reply

inductive ClientFault where
  /-- The request cannot be made. -/
  | unbuildable
  /-- The request cannot be made for this URL. -/
  | unsuitable (url : Url)
  | unsent (url : Url)
  | tooManyRedirects (url : Url)
  | brokenBody

namespace ClientFault

def forUrl (url : Url) : String := " for url (" ++ url.render ++ ")"

def message : ClientFault → String
  | unbuildable => "builder error"
  | unsuitable url => "builder error" ++ forUrl url
  | unsent url => "error sending request" ++ forUrl url
  | tooManyRedirects url => "error following redirect" ++ forUrl url
  | brokenBody => "error decoding response body"

end ClientFault

structure Exchange where
  received : List Outgoing
  result : Except ClientFault Http.Response

/-- An HTTP client that follows redirects. Where a location leads to and what becomes of the method is
not the same in all of its releases. -/
structure Client where
  /-- The URL that a location names, seen from another URL. -/
  locate? : Url → Http.HeaderValue → Option Url
  /-- The method after a redirect with this status, and whether the body is kept. -/
  redirectedMethod : Nat → Http.Method → Http.Method × Bool

namespace Client

def standard : Client where
  locate? url location := do (Url.join url (← Text.Utf8.decode? location.octets)).toOption
  redirectedMethod status method :=
    if status = 303 then (if method = .head then .head else .get, false)
    else if (status = 301 || status = 302) && method = .post then (.get, false)
    else (method, true)

def redirectStatuses : List Nat := [301, 302, 303, 307, 308]

/-- The URL of the page that links to `next`, unless that would leave encryption. -/
def referer? (previous next : Url) : Option Http.HeaderValue :=
  if previous.scheme = "https" && next.scheme = "http" then none
  else Http.HeaderValue.ofString? previous.withoutCredentials.withoutFragment.render

/-- The headers that are not carried to another host. -/
def sensitive : List Http.HeaderName :=
  [.authorization, .cookie, .cookie2, .proxyAuthorization, .wwwAuthenticate]

def framing : List Http.HeaderName := [.contentLength, .transferEncoding]

def payload : List Http.HeaderName := .contentEncoding :: .contentType :: framing

def sameServer (a b : Url) : Bool := a.host? == b.host? && a.effectivePort? == b.effectivePort?

/-- The client's own headers, for requests that have none of these names. -/
def own : Http.Headers := [(.accept, .ofText "*/*"), (.userAgent, .ofText Build.userAgent)]

def withOwn (headers : Http.Headers) : Http.Headers := headers ++ own.dropping (headers.map Prod.fst)

def basicAuthorization (username : String) (password : Option String) : Http.HeaderValue :=
  .ofText ("Basic " ++ String.ofList
    (Text.Base64.encode (Text.Utf8.encode (username ++ ":" ++ password.getD ""))))

def maxRedirects : Nat := 10

section Requests

variable (client : Client)

def redirection? (url : Url) (status : Nat) (headers : Http.Headers) : Option Url := do
  let location ← if redirectStatuses.contains status then headers.first? .location else none
  client.locate? url location

def redirected (request : Outgoing) (status : Nat) (next : Url) : Outgoing :=
  let (method, keepsBody) := client.redirectedMethod status request.method
  let headers := if keepsBody then request.headers else request.headers.dropping payload
  let headers := if sameServer request.url next then headers else headers.dropping sensitive
  let headers := match referer? request.url next with
    | some value => Http.Headers.replace headers .referer value
    | none => headers
  ⟨method, next, headers, if keepsBody then request.body else none⟩

/-- Sends a request and follows up to `budget` redirects. Failures to send name the first URL. -/
def follow (network : Network) (first : Url) : Nat → List Outgoing → Outgoing → Exchange
  | budget, received, request =>
    match network received request with
    | .refused => ⟨received, .error (.unsent first)⟩
    | .broken => ⟨received ++ [request], .error (.unsent first)⟩
    | .answered status headers body complete =>
      let received := received ++ [request]
      match client.redirection? request.url status headers, budget with
      | none, _ =>
        ⟨received, if complete then .ok ⟨status, headers, body⟩ else .error .brokenBody⟩
      | some _, 0 => ⟨received, .error (.tooManyRedirects request.url)⟩
      | some next, budget + 1 =>
        if Config.isWebScheme next.scheme then
          follow network first budget received (client.redirected request status next)
        else ⟨received, .error (.unsuitable next)⟩

/-- Sends a request for the URL that `address` writes. Credentials in it go into a header before the
others. -/
def send (network : Network) (method : Http.Method) (address : String) (headers : Http.Headers)
    (body : Option ByteArray) : Exchange :=
  match Url.parse address with
  | .error _ => ⟨[], .error .unbuildable⟩
  | .ok url =>
    let (url, headers) := match url.credentials? with
      | none => (url, headers)
      | some (username, password) =>
        (url.withoutCredentials, (.authorization, basicAuthorization username password) :: headers)
    match Http.Target.parse url.render with
    | .error _ => ⟨[], .error (.unsuitable url)⟩
    | .ok _ => client.follow network url maxRedirects [] ⟨method, url, withOwn headers, body⟩

end Requests

end Client

end LoginGateway.Backend
