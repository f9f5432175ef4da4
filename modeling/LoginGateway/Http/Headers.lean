import LoginGateway.Http.HeaderName
import LoginGateway.Http.HeaderValue

namespace LoginGateway.Http

abbrev Headers := List (HeaderName × HeaderValue)

namespace Headers

def all (headers : Headers) (name : HeaderName) : List HeaderValue :=
  headers.filterMap fun (n, v) => if n = name then some v else none

def first? (headers : Headers) (name : HeaderName) : Option HeaderValue := (headers.all name).head?

def without (headers : Headers) (name : HeaderName) : Headers := headers.filter fun f => f.1 ≠ name

def dropping (headers : Headers) (names : List HeaderName) : Headers :=
  headers.filter fun f => !names.contains f.1

def replace (headers : Headers) (name : HeaderName) (value : HeaderValue) : Headers :=
  headers.without name ++ [(name, value)]

def sorted (headers : Headers) : Headers := headers.mergeSort fun f g => f.1.text ≤ g.1.text

end Headers

end LoginGateway.Http
