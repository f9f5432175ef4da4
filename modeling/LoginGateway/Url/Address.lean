import LoginGateway.Text.Hex
import LoginGateway.Text.Cut
import LoginGateway.Text.Numeral

namespace LoginGateway.Url

abbrev Ipv4 := BitVec 32

abbrev Ipv6 := Vector UInt16 8

namespace Ipv4

def ofDigits? (base : Nat) (cs : List Char) : Option Nat :=
  cs.foldlM (fun n c => do
    let d ← Text.Hex.value? c
    if d < base then some (base * n + d) else none) 0

/-- The value of one part: `0x` begins hexadecimal digits, another leading zero octal ones. -/
def part? : List Char → Option Nat
  | [] => none
  | '0' :: 'x' :: cs => ofDigits? 16 cs
  | '0' :: 'X' :: cs => ofDigits? 16 cs
  | '0' :: c :: cs => ofDigits? 8 (c :: cs)
  | cs => ofDigits? 10 cs

def parts (cs : List Char) : List (List Char) :=
  let ps := cs.splitOn '.'
  if ps.getLast? = some [] then ps.dropLast else ps

/-- A host is an address, well formed or not, if its last part looks like a number. -/
def looksNumeric (cs : List Char) : Bool :=
  match (parts cs).getLast? with
  | none => false
  | some last => (!last.isEmpty && last.all Char.isDigit) || (part? last).isSome

def room : Nat → Nat
  | 0 => 1
  | n + 1 => 256 * room n

def parse? (cs : List Char) : Option Ipv4 := do
  let numbers ← (parts cs).mapM part?
  let front := numbers.dropLast
  let last ← numbers.getLast?
  let space := room (4 - front.length)
  if front.length ≤ 3 && front.all (· ≤ 255) && last < space then
    some (BitVec.ofNat 32 (front.foldl (256 * · + ·) 0 * space + last))
  else none

def text (a : Ipv4) : List Char :=
  ['.'].intercalate <| [24, 16, 8, 0].map fun shift =>
    Text.Numeral.decimal ((a >>> shift).toNat % 256)

end Ipv4

namespace Ipv6

def group? (cs : List Char) : Option Nat :=
  if 1 ≤ cs.length && cs.length ≤ 4 then Ipv4.ofDigits? 16 cs else none

def octet? (cs : List Char) : Option Nat := do
  let n ← if cs.isEmpty then none else Ipv4.ofDigits? 10 cs
  if n ≤ 255 && Text.Numeral.decimal n = cs then some n else none

def groups? (mayEndDotted : Bool) (cs : List Char) : Option (List Nat) :=
  if cs.isEmpty then some []
  else
    let texts := cs.splitOn ':'
    let last := texts.getLastD []
    if mayEndDotted && last.contains '.' then do
      let front ← texts.dropLast.mapM group?
      match ← (last.splitOn '.').mapM octet? with
      | [a, b, c, d] => some (front ++ [256 * a + b, 256 * c + d])
      | _ => none
    else texts.mapM group?

def cutAtGap? : List Char → Option (List Char × List Char)
  | ':' :: ':' :: cs => some ([], cs)
  | c :: cs => (cutAtGap? cs).map fun (a, b) => (c :: a, b)
  | [] => none

def ofGroups? (gs : List Nat) : Option Ipv6 :=
  let words := (gs.map UInt16.ofNat).toArray
  if h : words.size = 8 then some ⟨words, h⟩ else none

def parse? (cs : List Char) : Option Ipv6 :=
  match cutAtGap? cs with
  | none => do ofGroups? (← groups? true cs)
  | some (a, b) => do
    let front ← groups? false a
    let back ← groups? true b
    if front.length + back.length ≤ 7 then
      ofGroups? (front ++ List.replicate (8 - front.length - back.length) 0 ++ back)
    else none

def zeros (gs : List UInt16) : Nat := (gs.takeWhile (· == 0)).length

/-- Where the first longest run of two or more zeros begins, with its length. -/
def gap? (gs : List UInt16) : Option (Nat × Nat) :=
  (List.range 8).foldl (fun best i =>
    let n := zeros (gs.drop i)
    if 2 ≤ n && (best.map Prod.snd).getD 0 < n then some (i, n) else best) none

def hex (g : UInt16) : List Char := Nat.toDigits 16 g.toNat

def joined (gs : List UInt16) : List Char := [':'].intercalate (gs.map hex)

def text (a : Ipv6) : List Char :=
  match gap? a.toList with
  | none => joined a.toList
  | some (i, n) => joined (a.toList.take i) ++ "::".toList ++ joined (a.toList.drop (i + n))

example : (parse? "2001:db8::1.2.3.4".toList).map text = some "2001:db8::102:304".toList := by
  decide +kernel

example : parse? "1:2:3:4:5:6:7:8::".toList = none := by decide +kernel

end Ipv6

end LoginGateway.Url
