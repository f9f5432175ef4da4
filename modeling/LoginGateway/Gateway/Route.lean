import LoginGateway.Http.Message
import LoginGateway.Text.Cut

namespace LoginGateway.Gateway

inductive Route where
  | auth
  | health
  /-- Everything below the mount point, with the path from there on. -/
  | proxy (rest : String)
  deriving DecidableEq

namespace Route

/-- The resource at a path. At least one character has to follow `/proxy/`. -/
def ofPath? (path : String) : Option Route :=
  if path = "/auth" then some auth
  else if path = "/health" then some health
  else
    match Text.dropFront? "/proxy".toList path.toList with
    | some ('/' :: c :: cs) => some (proxy (String.ofList ('/' :: c :: cs)))
    | _ => none

open Http.Method in
def methods : Route → List Http.Method
  | auth => [get, head, post, delete]
  | health => [get, head, options]
  | proxy _ => [get, head, post, put, patch, delete]

def allow (route : Route) : Http.HeaderValue :=
  .ofText (",".intercalate (route.methods.map Http.Method.name))

def serves (route : Route) (method : Http.Method) : Bool := route.methods.contains method

end Route

end LoginGateway.Gateway
