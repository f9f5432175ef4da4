import LoginGateway.Proofs.Text.Numeral
import Mathlib.Data.Bool.AllAny

namespace LoginGateway.Text.Hex

def lowerDigits : List Char := "0123456789abcdef".toList

theorem digit_mem (n : Nat) : digit n ∈ lowerDigits := by
  have key : ∀ k < 16, Nat.digitChar k ∈ lowerDigits := by
    decide
  exact key (n % 16) (Nat.mod_lt n (by decide))

theorem value?_digit (n : Nat) : value? (digit n) = some (n % 16) :=
  value?_digitChar (Nat.mod_lt n (by decide))

theorem digit_of_value? {c : Char} {n : Nat} (hc : c ∈ lowerDigits) (h : value? c = some n) :
    digit n = c := by
  have key : ∀ c ∈ lowerDigits, digit ((value? c).getD 0) = c :=
    List.all_iff_forall_prop.mp (by decide)
  have hdigit := key c hc
  rwa [h, Option.getD_some] at hdigit

theorem isAlphanum_of_value? {c : Char} {n : Nat} (h : value? c = some n) : c.isAlphanum = true := by
  simp only [value?, Bool.and_eq_true, decide_eq_true_eq, Char.le_def] at h
  delta Char.isAlphanum Char.isAlpha Char.isUpper Char.isLower Char.isDigit
  simp only [Bool.or_eq_true, Bool.and_eq_true, decide_eq_true_eq, ge_iff_le]
  split at h
  · next hdigit => exact .inr hdigit
  · split at h
    · next hlower => exact .inl (.inr ⟨hlower.1, UInt32.le_trans hlower.2 (by decide)⟩)
    · split at h
      · next hupper => exact .inl (.inl ⟨hupper.1, UInt32.le_trans hupper.2 (by decide)⟩)
      · cases h

theorem ofByte_of_value? {a b : Char} {m n : Nat} (ha : a ∈ lowerDigits) (hb : b ∈ lowerDigits)
    (hm : value? a = some m) (hn : value? b = some n) :
    ofByte (UInt8.ofNat (16 * m + n)) = [a, b] := by
  have hmlt := value?_lt hm
  have hnlt := value?_lt hn
  have hoctet : (UInt8.ofNat (16 * m + n)).toNat = 16 * m + n :=
    UInt8.toNat_ofNat_of_lt' (by simp only [UInt8.size]; omega)
  have hhigh : digit ((16 * m + n) / 16) = digit m := by
    rw [digit, digit]
    congr 1
    omega
  have hlow : digit (16 * m + n) = digit n := by
    rw [digit, digit]
    congr 1
    omega
  rw [ofByte, hoctet, hhigh, hlow, digit_of_value? ha hm, digit_of_value? hb hn]

theorem mem_of_mem_encode {bytes : List UInt8} {c : Char} (h : c ∈ encode bytes) :
    c ∈ lowerDigits := by
  obtain ⟨b, -, hc⟩ := List.mem_flatMap.mp h
  rw [ofByte, List.mem_cons, List.mem_singleton] at hc
  obtain rfl | rfl := hc
  · exact digit_mem _
  · exact digit_mem _

theorem encode_cons (b : UInt8) (bytes : List UInt8) :
    encode (b :: bytes) = digit (b.toNat / 16) :: digit b.toNat :: encode bytes := rfl

theorem decode?_encode (bytes : List UInt8) : decode? (encode bytes) = some bytes := by
  induction bytes with
  | nil => rfl
  | cons b bytes ih =>
    have hb : 16 * (b.toNat / 16 % 16) + b.toNat % 16 = b.toNat := by
      have := b.toNat_lt
      omega
    rw [encode_cons, decode?, value?_digit, value?_digit, ih]
    dsimp only
    rw [hb, UInt8.ofNat_toNat]

theorem encode_of_decode? {cs : List Char} {bytes : List UInt8} (hlower : ∀ c ∈ cs, c ∈ lowerDigits)
    (h : decode? cs = some bytes) : encode bytes = cs := by
  fun_induction decode? cs generalizing bytes with
  | case1 =>
    cases h
    rfl
  | case2 => cases h
  | case3 a b cs m n rest hrest hn hm ih =>
    cases h
    obtain ⟨ha, hlater⟩ := List.forall_mem_cons.mp hlower
    obtain ⟨hb, hcs⟩ := List.forall_mem_cons.mp hlater
    rw [encode, List.flatMap_cons, ← encode, ofByte_of_value? ha hb hm hn, ih hcs hrest]
    rfl
  | case4 => cases h

/-- A text is what is written for some octets exactly if it is in lower case and read as them. -/
theorem eq_encode_iff {cs : List Char} {bytes : List UInt8} :
    cs = encode bytes ↔ (∀ c ∈ cs, c ∈ lowerDigits) ∧ decode? cs = some bytes := by
  constructor
  · rintro rfl
    exact ⟨fun c hc => mem_of_mem_encode hc, decode?_encode bytes⟩
  · rintro ⟨hlower, h⟩
    exact (encode_of_decode? hlower h).symm

end LoginGateway.Text.Hex
