namespace LoginGateway.Text.Numeral

inductive Fault where
  | empty
  | invalidDigit
  | tooLarge
  | tooSmall
  deriving DecidableEq

def Fault.message : Fault → String
  | empty => "cannot parse integer from empty string"
  | invalidDigit => "invalid digit found in string"
  | tooLarge => "number too large to fit in target type"
  | tooSmall => "number too small to fit in target type"

def readDigits (limit : Nat) (excess : Fault) : Nat → List Char → Except Fault Nat
  | n, [] => .ok n
  | n, c :: cs =>
    if c.isDigit then
      let next := 10 * n + (c.toNat - '0'.toNat)
      if next ≤ limit then readDigits limit excess next cs else .error excess
    else .error .invalidDigit

def readMagnitude (limit : Nat) (excess : Fault) : List Char → Except Fault Nat
  | [] => .error .invalidDigit
  | cs => readDigits limit excess 0 cs

/-- A number from 0 to `limit`: digits, after an optional plus sign. -/
def readNat (limit : Nat) : List Char → Except Fault Nat
  | [] => .error .empty
  | '+' :: cs => readMagnitude limit .tooLarge cs
  | cs => readMagnitude limit .tooLarge cs

def maxUnsigned : Nat := 18446744073709551615

def maxSigned : Nat := 9223372036854775807

def readInt64 : List Char → Except Fault Int
  | [] => .error .empty
  | '-' :: cs => (readMagnitude (maxSigned + 1) .tooSmall cs).map fun n => -(n : Int)
  | '+' :: cs => (readMagnitude maxSigned .tooLarge cs).map fun n => (n : Int)
  | cs => (readMagnitude maxSigned .tooLarge cs).map fun n => (n : Int)

def decimal (n : Nat) : List Char := Nat.toDigits 10 n

def text (n : Nat) : String := String.ofList (decimal n)

end LoginGateway.Text.Numeral
