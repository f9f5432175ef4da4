import LoginGateway.Text.Utf8

namespace LoginGateway.Http

def isFieldOctet (b : UInt8) : Bool := b == 9 || (32 ≤ b && b != 127)

structure HeaderValue where
  octets : List UInt8
  legal : octets.all isFieldOctet

namespace HeaderValue

instance : DecidableEq HeaderValue := fun a b =>
  if h : a.octets = b.octets then isTrue (by cases a; cases b; simp_all)
  else isFalse fun hab => h (hab ▸ rfl)

def ofOctets? (octets : List UInt8) : Option HeaderValue :=
  if h : octets.all isFieldOctet then some ⟨octets, h⟩ else none

def ofString? (s : String) : Option HeaderValue := ofOctets? (Text.Utf8.encode s)

def invalidMessage : String := "failed to parse header value"

def readable? (value : HeaderValue) : Option String :=
  if value.octets.all (fun b => b < 127) then
    some (String.ofList (value.octets.map fun b => Char.ofNat b.toNat))
  else none

/-- The value of a text without controls; the empty value if the text has one. -/
def ofText (s : String) : HeaderValue := (ofString? s).getD ⟨[], rfl⟩

def ofNat (n : Nat) : HeaderValue := ofText (String.ofList (Nat.toDigits 10 n))

end HeaderValue

end LoginGateway.Http
