import LoginGateway.Text.Hex
import LoginGateway.Text.Utf8

namespace LoginGateway.Login

inductive Lexeme where
  | objectOpen
  | objectClose
  | listOpen
  | listClose
  | comma
  | colon
  /-- The octets between the quotes, as they stand. -/
  | string (raw : List UInt8)
  /-- A number, or one of the words `true`, `false` and `null`. -/
  | scalar
  deriving DecidableEq

namespace Lexeme

inductive NumberPart where
  | sign
  | zero
  | whole
  | point
  | fraction
  | exponent
  | exponentSign
  | exponentDigits
  deriving DecidableEq

namespace NumberPart

def complete : NumberPart → Bool
  | zero | whole | fraction | exponentDigits => true
  | sign | point | exponent | exponentSign => false

def isDigit (b : UInt8) : Bool := 48 ≤ b && b ≤ 57

def next? (part : NumberPart) (b : UInt8) : Option NumberPart :=
  match part with
  | sign => if b = 48 then some zero else if isDigit b then some whole else none
  | zero => afterWhole b
  | whole => if isDigit b then some whole else afterWhole b
  | point => if isDigit b then some fraction else none
  | fraction => if isDigit b then some fraction else if b = 101 || b = 69 then some exponent else none
  | exponent =>
    if b = 43 || b = 45 then some exponentSign
    else if isDigit b then some exponentDigits else none
  | exponentSign => if isDigit b then some exponentDigits else none
  | exponentDigits => if isDigit b then some exponentDigits else none
where
  afterWhole (b : UInt8) : Option NumberPart :=
    if b = 46 then some point else if b = 101 || b = 69 then some exponent else none

end NumberPart

inductive EscapePart where
  | outside
  | backslash
  | hex (left : Nat)
  deriving DecidableEq

inductive Mode where
  | between
  | number (part : NumberPart)
  /-- The octets that are still missing of a word. -/
  | word (left : List UInt8)
  /-- The octets of a string so far, the last first. -/
  | string (reversed : List UInt8) (escape : EscapePart)
  deriving DecidableEq

structure Scan where
  mode : Mode := .between
  /-- The lexemes so far, the last first. -/
  reversed : List Lexeme := []

namespace Scan

def emit (scan : Scan) (lexeme : Lexeme) : Scan := ⟨.between, lexeme :: scan.reversed⟩

def start (scan : Scan) (b : UInt8) : Option Scan :=
  if b = 32 || b = 10 || b = 9 || b = 13 then some { scan with mode := .between }
  else if b = 123 then some (scan.emit .objectOpen)
  else if b = 125 then some (scan.emit .objectClose)
  else if b = 91 then some (scan.emit .listOpen)
  else if b = 93 then some (scan.emit .listClose)
  else if b = 44 then some (scan.emit .comma)
  else if b = 58 then some (scan.emit .colon)
  else if b = 34 then some { scan with mode := .string [] .outside }
  else if b = 116 then some { scan with mode := .word [114, 117, 101] }
  else if b = 102 then some { scan with mode := .word [97, 108, 115, 101] }
  else if b = 110 then some { scan with mode := .word [117, 108, 108] }
  else if b = 45 then some { scan with mode := .number .sign }
  else (NumberPart.next? .sign b).map fun part => { scan with mode := .number part }

def isHexDigit (b : UInt8) : Bool := (Text.Hex.value? (Char.ofNat b.toNat)).isSome

def inString (scan : Scan) (reversed : List UInt8) (escape : EscapePart) (b : UInt8) : Option Scan :=
  let go (escape : EscapePart) : Option Scan := some { scan with mode := .string (b :: reversed) escape }
  match escape with
  | .outside =>
    if b = 34 then some (scan.emit (.string reversed.reverse))
    else if b < 32 then none
    else if b = 92 then go .backslash
    else go .outside
  | .backslash =>
    if b = 117 then go (.hex 4)
    else if [34, 92, 47, 98, 102, 110, 114, 116].contains b then go .outside
    else none
  | .hex left =>
    if isHexDigit b then go (if left ≤ 1 then .outside else .hex (left - 1)) else none

def step (scan : Scan) (b : UInt8) : Option Scan :=
  match scan.mode with
  | .between => scan.start b
  | .number part =>
    match part.next? b with
    | some part => some { scan with mode := .number part }
    | none => if part.complete then (scan.emit .scalar).start b else none
  | .word [] => none
  | .word [c] => if b = c then some (scan.emit .scalar) else none
  | .word (c :: left) => if b = c then some { scan with mode := .word left } else none
  | .string reversed escape => scan.inString reversed escape b

def finish? (scan : Scan) : Option (List Lexeme) :=
  match scan.mode with
  | .between => some scan.reversed.reverse
  | .number part => if part.complete then some (Lexeme.scalar :: scan.reversed).reverse else none
  | _ => none

end Scan

/-- The lexemes of a text, if it consists of lexemes and blanks. -/
def scan? (octets : List UInt8) : Option (List Lexeme) := do
  let scan ← octets.foldlM Scan.step {}
  scan.finish?

def hex4? (a b c d : UInt8) : Option Nat := do
  let digit (x : UInt8) := Text.Hex.value? (Char.ofNat x.toNat)
  return ((((← digit a) * 16 + (← digit b)) * 16 + (← digit c)) * 16 + (← digit d))

def plainEscape? (b : UInt8) : Option UInt8 :=
  if b = 98 then some 8
  else if b = 102 then some 12
  else if b = 110 then some 10
  else if b = 114 then some 13
  else if b = 116 then some 9
  else if b = 34 || b = 92 || b = 47 then some b
  else none

/-- The octets that a string stands for. A code point above U+FFFF is escaped as two surrogates, and a
surrogate may not stand alone. -/
def unescape? : List UInt8 → Option (List UInt8)
  | 92 :: 117 :: a :: b :: c :: d :: rest =>
    match hex4? a b c d with
    | none => none
    | some n =>
      if 0xDC00 ≤ n && n ≤ 0xDFFF then none
      else if 0xD800 ≤ n && n ≤ 0xDBFF then
        match rest with
        | 92 :: 117 :: e :: f :: g :: h :: rest =>
          match hex4? e f g h with
          | none => none
          | some m =>
            if 0xDC00 ≤ m && m ≤ 0xDFFF then
              (unescape? rest).map
                (String.utf8EncodeChar (Char.ofNat (0x10000 + (n - 0xD800) * 0x400 + (m - 0xDC00))) ++ ·)
            else none
        | _ => none
      else (unescape? rest).map (String.utf8EncodeChar (Char.ofNat n) ++ ·)
  | 92 :: e :: rest =>
    match plainEscape? e with
    | some b => (unescape? rest).map (b :: ·)
    | none => none
  | b :: rest => (unescape? rest).map (b :: ·)
  | [] => some []

def decode? (raw : List UInt8) : Option String := do
  Text.Utf8.decode? (← unescape? raw)

end Lexeme

end LoginGateway.Login
