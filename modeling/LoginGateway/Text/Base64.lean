namespace LoginGateway.Text.Base64

def alphabet : List Char :=
  "ABCDEFGHIJKLMNOPQRSTUVWXYZabcdefghijklmnopqrstuvwxyz0123456789+/".toList

def letter (n : Nat) : Char := alphabet.getD (n % 64) 'A'

def value? (c : Char) : Option Nat := alphabet.idxOf? c

def encode : List UInt8 → List Char
  | [] => []
  | [a] => [letter (a.toNat / 4), letter (a.toNat * 16), '=', '=']
  | [a, b] =>
    let n := a.toNat * 256 + b.toNat
    [letter (n / 1024), letter (n / 16), letter (n * 4), '=']
  | a :: b :: c :: bytes =>
    let n := (a.toNat * 256 + b.toNat) * 256 + c.toNat
    letter (n / 262144) :: letter (n / 4096) :: letter (n / 64) :: letter n :: encode bytes

/-- The last group: four letters, of which the last one or two may be padding. -/
def decodeLast? (p q r s : Char) : Option (List UInt8) :=
  match value? p, value? q, value? r, value? s with
  | some a, some b, some c, some d =>
    let n := ((a * 64 + b) * 64 + c) * 64 + d
    some [UInt8.ofNat (n / 65536), UInt8.ofNat (n / 256), UInt8.ofNat n]
  | some a, some b, some c, none =>
    if s = '=' && c % 4 == 0 then
      let n := (a * 64 + b) * 16 + c / 4
      some [UInt8.ofNat (n / 256), UInt8.ofNat n]
    else none
  | some a, some b, none, none =>
    if r = '=' && s = '=' && b % 16 == 0 then some [UInt8.ofNat (a * 4 + b / 16)] else none
  | _, _, _, _ => none

def decode? : List Char → Option (List UInt8)
  | [] => some []
  | [p, q, r, s] => decodeLast? p q r s
  | p :: q :: r :: s :: rest =>
    match value? p, value? q, value? r, value? s, decode? rest with
    | some a, some b, some c, some d, some bytes =>
      let n := ((a * 64 + b) * 64 + c) * 64 + d
      some (UInt8.ofNat (n / 65536) :: UInt8.ofNat (n / 256) :: UInt8.ofNat n :: bytes)
    | _, _, _, _, _ => none
  | _ => none

example : encode "user:pass".toUTF8.toList = "dXNlcjpwYXNz".toList := by decide +kernel

example : decode? "dXNlcg==".toList = some [117, 115, 101, 114] := by decide +kernel

end LoginGateway.Text.Base64
