import LoginGateway.Duration
import LoginGateway.Http.Message
import LoginGateway.Json

namespace LoginGateway

inductive Failure where
  | badRequest
  | invalidPassword
  | unauthorized
  | rateLimited (retryAfter : Duration)
  | backendUnavailable (detail : String)
  | internal

namespace Failure

def message : Failure → String
  | badRequest => "Invalid request"
  | invalidPassword => "Invalid password"
  | unauthorized => "Unauthorized"
  | rateLimited _ => "Too many login attempts, try again later"
  | backendUnavailable _ => "Backend unavailable"
  | internal => "Internal server error"

def status : Failure → Nat
  | badRequest => 400
  | invalidPassword => 401
  | unauthorized => 401
  | rateLimited _ => 429
  | backendUnavailable _ => 502
  | internal => 500

/-- Whole seconds to wait, rounded up and never zero, in 64 bits. -/
def retrySeconds (wait : Duration) : UInt64 :=
  let seconds := UInt64.ofNat wait.seconds
  if wait.subsecNanos = 0 then max seconds 1 else seconds + 1

def response (failure : Failure) : Http.Response :=
  let error := ("error", Json.string failure.message)
  match failure with
  | rateLimited wait =>
    (Http.Response.json failure.status (Json.object [error]).text).withHeader .retryAfter
      (.ofNat (retrySeconds wait).toNat)
  | backendUnavailable detail =>
    .json failure.status (Json.object [("detail", .string detail), error]).text
  | _ => .json failure.status (Json.object [error]).text

end Failure

end LoginGateway
