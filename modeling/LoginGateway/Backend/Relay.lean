import LoginGateway.Backend.Address
import LoginGateway.Backend.Client
import LoginGateway.Failure

namespace LoginGateway.Backend

def maxBodySize : Nat := 10 * 1024 * 1024

/-- The part of a body that is passed on: all of it or nothing. -/
def relayedBody (method : Http.Method) (body : Http.Body) : Option ByteArray :=
  if method = .get || method = .head || !body.complete || body.content.size = 0 ||
      maxBodySize < body.content.size then none
  else some body.content

def relayedHeaders (config : Config) (secret : Http.HeaderValue) : Http.Headers :=
  [(config.secretHeader, secret), (.contentType, .ofText "application/json")]

def relayedResponse (response : Http.Response) : Http.Response :=
  ⟨response.status,
    [(.contentType, (response.headers.first? .contentType).getD (.ofText "application/json"))],
    response.body⟩

structure Relayed where
  received : List Outgoing
  result : Except Failure Http.Response

def relay (client : Client) (network : Network) (config : Config) (rest : String)
    (request : Http.Request) : Relayed :=
  if hasDotSegment rest then ⟨[], .error .badRequest⟩
  else
    match Http.HeaderValue.ofString? config.backendSecret with
    | none => ⟨[], .error (.backendUnavailable ClientFault.unbuildable.message)⟩
    | some secret =>
      let exchange := client.send network request.method
        (address config rest request.target.query) (relayedHeaders config secret)
        (relayedBody request.method request.body)
      ⟨exchange.received, match exchange.result with
        | .ok response => .ok (relayedResponse response)
        | .error fault => .error (.backendUnavailable fault.message)⟩

end LoginGateway.Backend
