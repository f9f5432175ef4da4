import LoginGateway.Digest.Sha256

namespace LoginGateway.Digest.Hmac

/-- A key of one block: a longer key is replaced by its digest, a shorter one is filled with zeros. -/
def blockKey (key : List UInt8) : List UInt8 :=
  let short := if key.length ≤ 64 then key else (Sha256.digest key).toList
  short ++ List.replicate (64 - short.length) 0

def digest (key message : List UInt8) : Vector UInt8 32 :=
  let k := blockKey key
  let inner := Sha256.digest (k.map (· ^^^ 0x36) ++ message)
  Sha256.digest (k.map (· ^^^ 0x5c) ++ inner.toList)

end LoginGateway.Digest.Hmac
