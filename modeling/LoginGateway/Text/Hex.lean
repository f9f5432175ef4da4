namespace LoginGateway.Text.Hex

def digit (n : Nat) : Char := Nat.digitChar (n % 16)

def ofByte (b : UInt8) : List Char := [digit (b.toNat / 16), digit b.toNat]

def encode (bytes : List UInt8) : List Char := bytes.flatMap ofByte

def value? (c : Char) : Option Nat :=
  if '0' ≤ c && c ≤ '9' then some (c.toNat - '0'.toNat)
  else if 'a' ≤ c && c ≤ 'f' then some (c.toNat - 'a'.toNat + 10)
  else if 'A' ≤ c && c ≤ 'F' then some (c.toNat - 'A'.toNat + 10)
  else none

theorem value?_lt {c : Char} {n : Nat} (h : value? c = some n) : n < 16 := by
  simp only [value?, Bool.and_eq_true, decide_eq_true_eq, Char.le_def, UInt32.le_iff_toNat_le] at h
  simp only [Char.toNat] at h
  split at h
  · rename_i hc
    have : '9'.val.toNat = 57 := rfl
    have : '0'.val.toNat = 48 := rfl
    simp only [Option.some.injEq] at h
    omega
  · split at h
    · rename_i hc
      have : 'f'.val.toNat = 102 := rfl
      have : 'a'.val.toNat = 97 := rfl
      simp only [Option.some.injEq] at h
      omega
    · split at h
      · rename_i hc
        have : 'F'.val.toNat = 70 := rfl
        have : 'A'.val.toNat = 65 := rfl
        simp only [Option.some.injEq] at h
        omega
      · simp at h

def decode? : List Char → Option (List UInt8)
  | [] => some []
  | [_] => none
  | a :: b :: cs =>
    match value? a, value? b, decode? cs with
    | some m, some n, some rest => some (UInt8.ofNat (16 * m + n) :: rest)
    | _, _, _ => none

theorem length_encode (bytes : List UInt8) : (encode bytes).length = 2 * bytes.length := by
  induction bytes with
  | nil => rfl
  | cons b bytes ih =>
    simp only [encode, List.flatMap_cons, List.length_append, List.length_cons] at *
    simp only [ofByte, List.length_cons, List.length_nil]
    omega

end LoginGateway.Text.Hex
