import LoginGateway.Http.HeaderName

namespace LoginGateway.Http

inductive Method where
  | get
  | head
  | post
  | put
  | patch
  | delete
  | options
  | other (name : String)
  deriving DecidableEq

namespace Method

def name : Method → String
  | get => "GET"
  | head => "HEAD"
  | post => "POST"
  | put => "PUT"
  | patch => "PATCH"
  | delete => "DELETE"
  | options => "OPTIONS"
  | other name => name

def parse? (s : String) : Option Method :=
  if isToken s.toList then
    some (([get, head, post, put, patch, delete, options].find? (·.name == s)).getD (other s))
  else none

end Method

end LoginGateway.Http
