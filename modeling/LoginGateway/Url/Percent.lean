import LoginGateway.Text.Hex
import LoginGateway.Text.Utf8

namespace LoginGateway.Url

/-- A set of ASCII characters that have to be encoded; text beyond ASCII always has to be. -/
abbrev EncodeSet := Char → Bool

namespace EncodeSet

def controls : EncodeSet := fun c => c.toNat < 32 || c.toNat == 127

def fragment : EncodeSet := fun c => controls c || [' ', '"', '<', '>', '\x60'].contains c

def path : EncodeSet := fun c => fragment c || ['#', '?', '{', '}'].contains c

def userinfo : EncodeSet := fun c =>
  path c || ['/', ':', ';', '=', '@', '[', '\\', ']', '^', '|'].contains c

def query : EncodeSet := fun c => controls c || [' ', '"', '#', '<', '>'].contains c

def specialQuery : EncodeSet := fun c => query c || c == '\x27'

end EncodeSet

namespace Percent

def upperHex (n : Nat) : Char := (Text.Hex.digit n).toUpper

def octet (b : UInt8) : List Char := ['%', upperHex (b.toNat / 16), upperHex b.toNat]

def encodeChar (set : EncodeSet) (c : Char) : List Char :=
  if c.toNat < 128 && !set c then [c] else (String.utf8EncodeChar c).flatMap octet

def encode (set : EncodeSet) (cs : List Char) : List Char := cs.flatMap (encodeChar set)

/-- Replaces each `%` with two hexadecimal digits by the octet; any other `%` stands for itself. -/
def decode : List UInt8 → List UInt8
  | 37 :: a :: b :: rest =>
    match Text.Hex.value? (Char.ofNat a.toNat), Text.Hex.value? (Char.ofNat b.toNat) with
    | some m, some n => UInt8.ofNat (16 * m + n) :: decode rest
    | _, _ => 37 :: decode (a :: b :: rest)
  | b :: rest => b :: decode rest
  | [] => []

def decodeText? (s : String) : Option String := Text.Utf8.decode? (decode (Text.Utf8.encode s))

end Percent

end LoginGateway.Url
