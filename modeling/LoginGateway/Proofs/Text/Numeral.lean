import LoginGateway.Text.Hex
import LoginGateway.Text.Numeral
import Mathlib.Algebra.Group.Nat.Defs

namespace LoginGateway.Text

section Digits

variable {b : Nat}

theorem toDigits_snoc (hb : 1 < b) {m k : Nat} (hm : 0 < m) (hk : k < b) :
    Nat.toDigits b (b * m + k) = Nat.toDigits b m ++ [Nat.digitChar k] := by
  rw [← Nat.toDigits_append_toDigits hb hm hk, Nat.toDigits_of_lt_base hk]

theorem mem_toDigits (hb : 1 < b) {n : Nat} {c : Char} (h : c ∈ Nat.toDigits b n) :
    ∃ k < b, c = Nat.digitChar k := by
  induction n using Nat.base_induction b hb with
  | single m hm =>
    rw [Nat.toDigits_of_lt_base hm, List.mem_singleton] at h
    exact ⟨m, hm, h⟩
  | digit m k hk hm ih =>
    rw [toDigits_snoc hb hm hk] at h
    obtain hfront | hlast := List.mem_append.mp h
    · exact ih hfront
    · exact ⟨k, hk, List.mem_singleton.mp hlast⟩

theorem toDigits_ne_zero_cons (hb : 1 < b) {n : Nat} (hn : 0 < n) (cs : List Char) :
    Nat.toDigits b n ≠ '0' :: cs := by
  induction n using Nat.base_induction b hb generalizing cs with
  | single m hm =>
    rw [Nat.toDigits_of_lt_base hm]
    intro h
    rw [Nat.digitChar_eq_zero.mp (List.cons_eq_cons.mp h).1] at hn
    exact Nat.lt_irrefl 0 hn
  | digit m k hk hm ih =>
    rw [toDigits_snoc hb hm hk]
    intro h
    obtain ⟨d, ds, hds⟩ := List.exists_cons_of_ne_nil (Nat.toDigits_ne_nil (n := m) (b := b))
    rw [hds, List.cons_append] at h
    obtain ⟨rfl, -⟩ := List.cons_eq_cons.mp h
    exact ih hm ds hds

end Digits

theorem Hex.value?_digitChar {d : Nat} (h : d < 16) : Hex.value? (Nat.digitChar d) = some d := by
  have key : ∀ k < 16, Hex.value? (Nat.digitChar k) = some k := by
    decide
  exact key d h

namespace Numeral

variable {limit : Nat} {excess : Fault}

theorem readDigits_append (n : Nat) (cs ds : List Char) :
    readDigits limit excess n (cs ++ ds) =
      (readDigits limit excess n cs).bind fun m => readDigits limit excess m ds := by
  induction cs generalizing n with
  | nil => rfl
  | cons c cs ih =>
    rw [List.cons_append, readDigits, readDigits]
    dsimp only
    split
    · split
      · exact ih _
      · rfl
    · rfl

theorem readDigits_digitChar {m k : Nat} (hk : k < 10) (h : 10 * m + k ≤ limit) :
    readDigits limit excess m [Nat.digitChar k] = .ok (10 * m + k) := by
  have hdigit : (Nat.digitChar k).isDigit = true := by
    rw [Nat.isDigit_digitChar, decide_eq_true hk]
  rw [readDigits, hdigit, if_pos rfl, Nat.toNat_digitChar_of_lt_ten hk]
  simp only [Char.reduceToNat, Nat.add_sub_cancel_left, if_pos h, readDigits]

theorem readDigits_decimal {n : Nat} (h : n ≤ limit) :
    readDigits limit excess 0 (decimal n) = .ok n := by
  rw [decimal]
  induction n using Nat.base_induction 10 (by decide) with
  | single m hm =>
    rw [Nat.toDigits_of_lt_base hm, readDigits_digitChar hm (by omega), Nat.mul_zero, Nat.zero_add]
  | digit m k hk hm ih =>
    rw [toDigits_snoc (by decide) hm hk, readDigits_append, ih (by omega)]
    exact readDigits_digitChar hk h

theorem isDigit_of_mem_decimal {n : Nat} {c : Char} (h : c ∈ decimal n) : c.isDigit = true :=
  Nat.isDigit_of_mem_toDigits (by decide) (by decide) h

theorem decimal_ne_nil (n : Nat) : decimal n ≠ [] := Nat.toDigits_ne_nil

theorem le_ofDigitChars (n : Nat) (cs : List Char) : n ≤ Nat.ofDigitChars 10 cs n := by
  rw [Nat.ofDigitChars_eq_ofDigitChars_zero]
  exact Nat.le_add_right_of_le (Nat.le_mul_of_pos_left n (Nat.pow_pos (by decide)))

theorem ofDigitChars_lt {cs : List Char} (h : ∀ c ∈ cs, c.isDigit = true) :
    Nat.ofDigitChars 10 cs 0 < 10 ^ cs.length := by
  induction cs with
  | nil => exact Nat.one_pos
  | cons c cs ih =>
    obtain ⟨hc, hcs⟩ := List.forall_mem_cons.mp h
    have hdigit := Char.isDigit_iff_toNat.mp hc
    have hrest := ih hcs
    simp only [Char.reduceToNat] at hdigit
    rw [Nat.ofDigitChars_cons, Nat.ofDigitChars_eq_ofDigitChars_zero, List.length_cons, Nat.pow_succ]
    have hfirst : 10 * 0 + (c.toNat - '0'.toNat) ≤ 9 := by
      simp only [Char.reduceToNat]
      omega
    calc 10 ^ cs.length * (10 * 0 + (c.toNat - '0'.toNat)) + Nat.ofDigitChars 10 cs 0
        ≤ 10 ^ cs.length * 9 + Nat.ofDigitChars 10 cs 0 :=
          Nat.add_le_add_right (Nat.mul_le_mul_left _ hfirst) _
      _ < 10 ^ cs.length * 9 + 10 ^ cs.length := Nat.add_lt_add_left hrest _
      _ = 10 ^ cs.length * 10 := rfl

theorem readDigits_eq_ok_iff {m n : Nat} (hm : m ≤ limit) {cs : List Char} :
    readDigits limit excess m cs = .ok n ↔
      (∀ c ∈ cs, c.isDigit = true) ∧ Nat.ofDigitChars 10 cs m = n ∧ n ≤ limit := by
  induction cs generalizing m with
  | nil =>
    rw [readDigits, Nat.ofDigitChars_nil, Except.ok.injEq]
    constructor
    · rintro rfl
      refine ⟨?_, rfl, hm⟩
      rintro c ⟨⟩
    · exact fun h => h.2.1
  | cons c cs ih =>
    rw [readDigits, List.forall_mem_cons, Nat.ofDigitChars_cons]
    dsimp only
    split
    · next hdigit =>
      split
      · next hle => rw [ih hle, and_iff_right hdigit]
      · next hgt =>
        -- the digits that follow only make the number greater
        have hover := le_ofDigitChars (10 * m + (c.toNat - '0'.toNat)) cs
        refine iff_of_false (by rintro ⟨⟩) ?_
        rintro ⟨-, rfl, hn⟩
        exact hgt (Nat.le_trans hover hn)
    · next hdigit =>
      refine iff_of_false (by rintro ⟨⟩) ?_
      rintro ⟨⟨hc, -⟩, -⟩
      exact hdigit hc

theorem readMagnitude_eq_ok_iff {n : Nat} {cs : List Char} :
    readMagnitude limit excess cs = .ok n ↔
      cs ≠ [] ∧ (∀ c ∈ cs, c.isDigit = true) ∧ Nat.ofDigitChars 10 cs 0 = n ∧ n ≤ limit := by
  cases cs with
  | nil =>
    refine iff_of_false (by rintro ⟨⟩) ?_
    rintro ⟨hne, -⟩
    exact hne rfl
  | cons c cs =>
    rw [readMagnitude, readDigits_eq_ok_iff (Nat.zero_le limit), and_iff_right (List.cons_ne_nil c cs)]
    exact fun h => by cases h

/-- Digits of `n`, zeros in front or not, after one plus sign or none. -/
def Denotes (numeral : List Char) (n : Nat) : Prop :=
  ∃ sign digits, numeral = sign ++ digits ∧ (sign = [] ∨ sign = ['+']) ∧ digits ≠ [] ∧
    (∀ c ∈ digits, c.isDigit = true) ∧ Nat.ofDigitChars 10 digits 0 = n

theorem readNat_eq_ok_iff {n : Nat} {cs : List Char} :
    readNat limit cs = .ok n ↔ Denotes cs n ∧ n ≤ limit := by
  unfold readNat
  split
  · refine iff_of_false (by rintro ⟨⟩) ?_
    rintro ⟨⟨sign, digits, happend, -, hne, -⟩, -⟩
    exact hne (List.append_eq_nil_iff.mp happend.symm).2
  · next cs =>
    rw [readMagnitude_eq_ok_iff]
    constructor
    · rintro ⟨hne, hdigits, hn, hle⟩
      exact ⟨⟨['+'], cs, rfl, .inr rfl, hne, hdigits, hn⟩, hle⟩
    · rintro ⟨⟨sign, digits, happend, rfl | rfl, hne, hdigits, hn⟩, hle⟩
      · rw [List.nil_append] at happend
        subst happend
        exact absurd (hdigits '+' List.mem_cons_self) (by decide)
      · obtain rfl := (List.cons_eq_cons.mp happend).2
        exact ⟨hne, hdigits, hn, hle⟩
  · next hplus =>
    rw [readMagnitude_eq_ok_iff]
    constructor
    · rintro ⟨hne, hdigits, hn, hle⟩
      exact ⟨⟨[], cs, rfl, .inl rfl, hne, hdigits, hn⟩, hle⟩
    · rintro ⟨⟨sign, digits, rfl, rfl | rfl, hne, hdigits, hn⟩, hle⟩
      · exact ⟨hne, hdigits, hn, hle⟩
      · exact absurd rfl (hplus digits)

theorem Denotes.unique {numeral : List Char} {m n : Nat} (hm : Denotes numeral m)
    (hn : Denotes numeral n) : m = n := by
  have hread : readNat (max m n) numeral = .ok m := readNat_eq_ok_iff.mpr ⟨hm, Nat.le_max_left m n⟩
  have hread' : readNat (max m n) numeral = .ok n := readNat_eq_ok_iff.mpr ⟨hn, Nat.le_max_right m n⟩
  exact Except.ok.inj (hread.symm.trans hread')

theorem denotes_decimal (n : Nat) : Denotes (decimal n) n :=
  ⟨[], decimal n, rfl, .inl rfl, decimal_ne_nil n, fun _ hc => isDigit_of_mem_decimal hc,
    Nat.ofDigitChars_ten_toDigits⟩

theorem length_decimal_le {numeral : List Char} {n : Nat} (h : Denotes numeral n) :
    (decimal n).length ≤ numeral.length := by
  obtain ⟨sign, digits, rfl, -, hne, hdigits, rfl⟩ := h
  have hshort := (Nat.length_toDigits_le_iff (by decide) (List.length_pos_iff.mpr hne)).mpr
    (ofDigitChars_lt hdigits)
  rw [List.length_append]
  exact Nat.le_add_left_of_le hshort

end Numeral

end LoginGateway.Text
