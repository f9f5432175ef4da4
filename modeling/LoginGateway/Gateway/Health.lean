import LoginGateway.Build
import LoginGateway.Http.Message
import LoginGateway.Json

namespace LoginGateway.Gateway

/-- The body is only sent for GET. -/
def health (method : Http.Method) (commit? : Option Build.Commit := none) : Http.Response :=
  let body := (Json.object [("commit", .string (Build.hash commit?)), ("name", .string Build.name),
    ("version", .string Build.version)]).text
  let response := if method = .get then Http.Response.json 200 body else ⟨200, [], .empty⟩
  match Http.HeaderValue.ofString? (Build.tag commit?) with
  | some tag => response.withHeader .xApp tag
  | none => response

end LoginGateway.Gateway
