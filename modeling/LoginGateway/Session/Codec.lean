import LoginGateway.Duration
import LoginGateway.Digest.Hmac
import LoginGateway.Text.Hex
import LoginGateway.Text.Numeral
import LoginGateway.Text.Utf8

namespace LoginGateway.Session

/-- Signs and checks tokens with a secret that is not empty. -/
structure Codec where
  secret : String
  maxAge : Duration
  secret_ne : secret ≠ ""

namespace Codec

inductive Fault where
  | emptySecret
  deriving DecidableEq

def Fault.message : Fault → String
  | emptySecret => "session secret must not be empty"

def ofSecret (secret : String) (maxAge : Duration) : Except Fault Codec :=
  if h : secret = "" then .error .emptySecret else .ok ⟨secret, maxAge, h⟩

def sign (codec : Codec) (payload : List Char) : List Char :=
  Text.Hex.encode
    (Digest.Hmac.digest (Text.Utf8.encode codec.secret)
      (payload.flatMap String.utf8EncodeChar)).toList

def issue (codec : Codec) (now : Duration) : String :=
  let payload := Text.Numeral.decimal now.seconds
  String.ofList (payload ++ '.' :: codec.sign payload)

/-- Whether a token is well formed, not too old, and signed with the secret. -/
def verify (codec : Codec) (now : Duration) (token : String) : Bool :=
  match token.toList.splitOn '.' with
  | [payload, signature] =>
    match Text.Numeral.readNat Text.Numeral.maxUnsigned payload with
    | .error _ => false
    | .ok issued =>
      decide (now.seconds - issued ≤ codec.maxAge.seconds) && codec.sign payload == signature
  | _ => false

def text (codec : Codec) : String :=
  "SessionCodec \x7b mac: \"***\", max_age: " ++ codec.maxAge.text ++ ", .. \x7d"

end Codec

end LoginGateway.Session
