import LoginGateway.Http.Headers
import LoginGateway.Text.Blank

namespace LoginGateway.Login

def loopback : String := "127.0.0.1"

def nonBlank? (cs : List Char) : Option String :=
  match Text.trimBlank cs with
  | [] => none
  | trimmed => some (String.ofList trimmed)

/-- The first address in `x-forwarded-for`, else the one in `x-real-ip`, else the loopback. Only the
first field of each name counts, and only if it can be read. -/
def source (headers : Http.Headers) : String :=
  let text? (name : Http.HeaderName) := (headers.first? name).bind (·.readable?)
  let forwarded := (text? .forwardedFor).bind fun s => nonBlank? (s.toList.takeWhile (· != ','))
  let real := (text? .realIp).bind fun s => nonBlank? s.toList
  (forwarded <|> real).getD loopback

end LoginGateway.Login
