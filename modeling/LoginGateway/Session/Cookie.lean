import LoginGateway.Duration
import LoginGateway.Http.Headers
import LoginGateway.Text.Blank
import LoginGateway.Text.Cut
import LoginGateway.Text.Numeral

namespace LoginGateway.Session.Cookie

def name : String := "rampart_session"

def attributes : String := "; Path=/; HttpOnly; SameSite=Lax; Max-Age="

/-- The value that sets the cookie; `none` if the token cannot stand in a header. -/
def setting? (token : String) (maxAge : Duration) (secure : Bool) : Option Http.HeaderValue :=
  Http.HeaderValue.ofString? (name ++ "=" ++ token ++ attributes ++ Text.Numeral.text maxAge.seconds ++
    (if secure then "; Secure" else ""))

def clearing? (secure : Bool) : Option Http.HeaderValue := setting? "" .zero secure

def tokenOfPair? (pair : List Char) : Option String := do
  let (key, value) ← Text.cutAt? '=' (Text.trimBlank pair)
  let value := Text.trimBlank value
  if Text.trimBlank key = name.toList && !value.isEmpty then some (String.ofList value) else none

def tokenOfHeader? (value : Http.HeaderValue) : Option String := do
  let text ← value.readable?
  (text.toList.splitOn ';').findSome? tokenOfPair?

/-- The first token that is not blank in the cookies of a request. -/
def token? (headers : Http.Headers) : Option String :=
  (headers.all .cookie).findSome? tokenOfHeader?

end LoginGateway.Session.Cookie
