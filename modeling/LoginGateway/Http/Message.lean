import LoginGateway.Http.Headers
import LoginGateway.Http.Method
import LoginGateway.Http.Target

namespace LoginGateway.Http

/-- What arrives of a body: its octets, and whether the stream ended without an error. -/
structure Body where
  content : ByteArray
  complete : Bool := true

structure Request where
  method : Method
  target : Target
  headers : Headers := []
  body : Body := ⟨.empty, true⟩

structure Response where
  status : Nat
  headers : Headers := []
  body : ByteArray := .empty

namespace Response

def json (status : Nat) (text : String) : Response :=
  ⟨status, [(.contentType, .ofText "application/json")], text.toUTF8⟩

def withHeader (response : Response) (name : HeaderName) (value : HeaderValue) : Response :=
  { response with headers := response.headers ++ [(name, value)] }

end Response

end LoginGateway.Http
