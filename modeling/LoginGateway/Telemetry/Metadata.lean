import LoginGateway.Http.Headers
import LoginGateway.Text.Base64
import LoginGateway.Text.Cut

namespace LoginGateway.Telemetry

namespace Metadata

inductive Value where
  | text (value : Http.HeaderValue)
  | octets (octets : List UInt8)
  deriving DecidableEq

inductive Fault where
  /-- There is no room for all headers. -/
  | tooMany
  | notBase64 (key : String)
  | binaryKey (key : String)
  | key (key : String)
  | value (key : String)
  deriving DecidableEq

def Fault.message : Fault → String
  | tooMany => "too many headers"
  | notBase64 k => "failed to base64-decode metadata " ++ k ++ ": invalid Base64 encoding"
  | binaryKey k => "invalid binary metadata key " ++ k ++ ": invalid gRPC metadata key name"
  | key k => "invalid metadata key " ++ k ++ ": invalid gRPC metadata key name"
  | value k => "invalid metadata value for " ++ k ++ ": failed to parse metadata value"

def isBinary (key : String) : Bool := (Text.dropFront? "nib-".toList key.toList.reverse).isSome

def readEntry (key value : String) : Except Fault (Http.HeaderName × Value) :=
  if isBinary key then
    match Text.Base64.decode? value.toList with
    | none => .error (.notBase64 key)
    | some octets =>
      match Http.HeaderName.parse? key with
      | none => .error (.binaryKey key)
      | some name => .ok (name, .octets octets)
  else
    match Http.HeaderName.parse? key with
    | none => .error (.key key)
    | some name =>
      match Http.HeaderValue.ofString? value with
      | none => .error (.value key)
      | some value => .ok (name, .text value)

end Metadata

/-- Names with their values, each name once. -/
abbrev Metadata := List (Http.HeaderName × Metadata.Value)

namespace Metadata

def insert (name : Http.HeaderName) (value : Value) : Metadata → Metadata
  | [] => [(name, value)]
  | (n, v) :: rest => if n = name then (name, value) :: rest else (n, v) :: insert name value rest

def capacity : Nat := 24576

/-- The metadata of a list of headers; the first header that cannot be read is the fault. -/
def ofHeaders (headers : List (String × String)) : Except Fault Metadata :=
  if capacity < headers.length then .error .tooMany
  else headers.foldlM (fun metadata (key, value) => do
    let (name, value) ← readEntry key value
    .ok (metadata.insert name value)) []

end Metadata

end LoginGateway.Telemetry
