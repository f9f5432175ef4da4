namespace LoginGateway

structure Duration where
  nanos : Nat
  nanos_lt : nanos < 18446744073709551616 * 1000000000
  deriving DecidableEq

namespace Duration

theorem ext_nanos {d e : Duration} (h : d.nanos = e.nanos) : d = e := by
  cases d; cases e; simp_all

def zero : Duration := ⟨0, by decide⟩

def ofSeconds (s : UInt64) : Duration := ⟨s.toNat * 1000000000, by have := s.toNat_lt; omega⟩

def ofMillis (ms : UInt64) : Duration := ⟨ms.toNat * 1000000, by have := ms.toNat_lt; omega⟩

def ofParts? (s n : Nat) : Option Duration :=
  if h : s * 1000000000 + n < 18446744073709551616 * 1000000000 then some ⟨s * 1000000000 + n, h⟩ else none

def seconds (d : Duration) : Nat := d.nanos / 1000000000

def subsecNanos (d : Duration) : Nat := d.nanos % 1000000000

def millis (d : Duration) : Nat := d.nanos / 1000000

def isZero (d : Duration) : Bool := d.nanos == 0

/-- The span from `e` to `d`, or zero if `e` is the later one. -/
def since (d e : Duration) : Duration := ⟨d.nanos - e.nanos, by have := d.nanos_lt; omega⟩

instance : LE Duration := ⟨fun d e => d.nanos ≤ e.nanos⟩

instance : LT Duration := ⟨fun d e => d.nanos < e.nanos⟩

instance (d e : Duration) : Decidable (d ≤ e) := inferInstanceAs (Decidable (d.nanos ≤ e.nanos))

instance (d e : Duration) : Decidable (d < e) := inferInstanceAs (Decidable (d.nanos < e.nanos))

theorem le_def {d e : Duration} : d ≤ e ↔ d.nanos ≤ e.nanos := Iff.rfl

theorem lt_def {d e : Duration} : d < e ↔ d.nanos < e.nanos := Iff.rfl

@[simp] theorem nanos_since (d e : Duration) : (d.since e).nanos = d.nanos - e.nanos := rfl

@[simp] theorem nanos_ofSeconds (s : UInt64) : (ofSeconds s).nanos = s.toNat * 1000000000 := rfl

@[simp] theorem nanos_ofMillis (ms : UInt64) : (ofMillis ms).nanos = ms.toNat * 1000000 := rfl

theorem seconds_lt (d : Duration) : d.seconds < 18446744073709551616 := by
  have := d.nanos_lt
  simp only [seconds]
  omega

theorem subsecNanos_lt (d : Duration) : d.subsecNanos < 1000000000 := Nat.mod_lt _ (by decide)

theorem seconds_subsecNanos (d : Duration) : d.seconds * 1000000000 + d.subsecNanos = d.nanos := by
  simp only [seconds, subsecNanos]
  omega

def digits : Nat → Nat → List Char
  | 0, _ => []
  | width + 1, n => digits width (n / 10) ++ [Nat.digitChar (n % 10)]

def fraction (width n : Nat) : List Char :=
  ((digits width n).reverse.dropWhile (· == '0')).reverse

/-- `n` as a multiple of `unit`, a one with `width` zeros, with as many decimals as it needs. -/
def scaled (unit width n : Nat) : List Char :=
  let whole := Nat.toDigits 10 (n / unit)
  match fraction width n with
  | [] => whole
  | frac => whole ++ '.' :: frac

/-- The span in the largest unit of which it holds at least one: `1.5s`, `999ms`, `1.05ms`, `0ns`. -/
def text (d : Duration) : String :=
  String.ofList <|
    if 1000000000 ≤ d.nanos then scaled 1000000000 9 d.nanos ++ ['s']
    else if 1000000 ≤ d.nanos then scaled 1000000 6 d.nanos ++ ['m', 's']
    else if 1000 ≤ d.nanos then scaled 1000 3 d.nanos ++ ['µ', 's']
    else scaled 1 0 d.nanos ++ ['n', 's']

example : (ofMillis 1500).text = "1.5s" := by decide +kernel

example : zero.text = "0ns" := by decide +kernel

end Duration

end LoginGateway
