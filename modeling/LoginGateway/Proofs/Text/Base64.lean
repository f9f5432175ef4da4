import LoginGateway.Text.Base64
import Mathlib.Data.List.GetD

namespace LoginGateway.Text.Base64

theorem letter_congr {m n : Nat} (h : m % 64 = n % 64) : letter m = letter n := by
  rw [letter, letter, h]

theorem ofNat_eq {n : Nat} {octet : UInt8} (h : n % 256 = octet.toNat) : UInt8.ofNat n = octet := by
  rw [← UInt8.toNat_inj, UInt8.toNat_ofNat', h]

theorem value?_eq_some_iff {c : Char} {n : Nat} : value? c = some n ↔ n < 64 ∧ c = letter n := by
  have key : ∀ m < 64, value? (letter m) = some m := by
    decide +kernel
  constructor
  · intro h
    obtain ⟨hn, hc, -⟩ := List.idxOf?_eq_some_iff.mp h
    have hlength : alphabet.length = 64 := by
      decide +kernel
    have hlt : n < 64 := hlength ▸ hn
    refine ⟨hlt, ?_⟩
    rw [letter, Nat.mod_eq_of_lt hlt, List.getD_eq_getElem _ _ hn, hc]
  · rintro ⟨hn, rfl⟩
    exact key n hn

theorem value?_letter (n : Nat) : value? (letter n) = some (n % 64) :=
  value?_eq_some_iff.mpr ⟨Nat.mod_lt n (by decide), letter_congr (Nat.mod_mod n 64).symm⟩

theorem value?_padding : value? '=' = none := by
  decide +kernel

section Groups

theorem encode_group (p q r s : Nat) (octets : List UInt8) :
    let n := ((p % 64 * 64 + q % 64) * 64 + r % 64) * 64 + s % 64
    encode (UInt8.ofNat (n / 65536) :: UInt8.ofNat (n / 256) :: UInt8.ofNat n :: octets) =
      letter p :: letter q :: letter r :: letter s :: encode octets := by
  simp only [encode, UInt8.toNat_ofNat', List.cons.injEq, and_true]
  refine ⟨letter_congr ?_, letter_congr ?_, letter_congr ?_, letter_congr ?_⟩ <;> omega

theorem encode_of_decodeLast? {p q r s : Char} {octets : List UInt8}
    (h : decodeLast? p q r s = some octets) :
    encode octets = [p, q, r, s] := by
  unfold decodeLast? at h
  split at h
  · next a b c d ha hb hc hd =>
    obtain ⟨hp, rfl⟩ := value?_eq_some_iff.mp ha
    obtain ⟨hq, rfl⟩ := value?_eq_some_iff.mp hb
    obtain ⟨hr, rfl⟩ := value?_eq_some_iff.mp hc
    obtain ⟨hs, rfl⟩ := value?_eq_some_iff.mp hd
    have hgroup := encode_group a b c d []
    rw [Nat.mod_eq_of_lt hp, Nat.mod_eq_of_lt hq, Nat.mod_eq_of_lt hr, Nat.mod_eq_of_lt hs] at hgroup
    cases h
    exact hgroup
  -- the last letter is padding, and the one before it has two bits to spare
  · next a b c ha hb hc hd =>
    obtain ⟨ha, rfl⟩ := value?_eq_some_iff.mp ha
    obtain ⟨hb, rfl⟩ := value?_eq_some_iff.mp hb
    obtain ⟨hc, rfl⟩ := value?_eq_some_iff.mp hc
    obtain ⟨hfits, heq⟩ := Option.ite_none_right_eq_some.mp h
    rw [Bool.and_eq_true, decide_eq_true_eq, beq_iff_eq] at hfits
    obtain ⟨rfl, hfits⟩ := hfits
    cases heq
    simp only [encode, UInt8.toNat_ofNat', List.cons.injEq, and_true]
    refine ⟨letter_congr ?_, letter_congr ?_, letter_congr ?_⟩ <;> omega
  -- the last two letters are padding, and the one before them has four bits to spare
  · next a b ha hb hc hd =>
    obtain ⟨ha, rfl⟩ := value?_eq_some_iff.mp ha
    obtain ⟨hb, rfl⟩ := value?_eq_some_iff.mp hb
    obtain ⟨hfits, heq⟩ := Option.ite_none_right_eq_some.mp h
    rw [Bool.and_eq_true, Bool.and_eq_true, decide_eq_true_eq, decide_eq_true_eq, beq_iff_eq] at hfits
    obtain ⟨⟨rfl, rfl⟩, hfits⟩ := hfits
    cases heq
    simp only [encode, UInt8.toNat_ofNat', List.cons.injEq, and_true]
    refine ⟨letter_congr ?_, letter_congr ?_⟩ <;> omega
  · cases h

theorem decode?_letters (p q r s : Nat) (rest : List Char) :
    decode? (letter p :: letter q :: letter r :: letter s :: rest) = (decode? rest).map fun octets =>
      let n := ((p % 64 * 64 + q % 64) * 64 + r % 64) * 64 + s % 64
      UInt8.ofNat (n / 65536) :: UInt8.ofNat (n / 256) :: UInt8.ofNat n :: octets := by
  cases rest with
  | nil => simp only [decode?, decodeLast?, value?_letter, Option.map_some]
  | cons t rest =>
    rw [decode?, value?_letter, value?_letter, value?_letter, value?_letter]
    · cases decode? (t :: rest) <;> rfl
    · rintro ⟨⟩

end Groups

theorem decode?_encode (octets : List UInt8) : decode? (encode octets) = some octets := by
  induction octets using encode.induct with
  | case1 => rfl
  | case2 a =>
    have ha := a.toNat_lt
    have hlast : (a.toNat * 16 % 64 % 16 == 0) = true := by
      rw [beq_iff_eq]
      omega
    simp only [encode, decode?, decodeLast?, value?_letter, value?_padding, hlast, decide_true,
      Bool.and_self, if_true, Option.some.injEq, List.cons.injEq, and_true]
    apply ofNat_eq
    omega
  | case3 a b =>
    have ha := a.toNat_lt
    have hb := b.toNat_lt
    have hlast : ((a.toNat * 256 + b.toNat) * 4 % 64 % 4 == 0) = true := by
      rw [beq_iff_eq]
      omega
    simp only [encode, decode?, decodeLast?, value?_letter, value?_padding, hlast, decide_true,
      Bool.and_self, if_true, Option.some.injEq, List.cons.injEq, and_true]
    refine ⟨ofNat_eq ?_, ofNat_eq ?_⟩ <;> omega
  | case4 a b c octets ih =>
    have ha := a.toNat_lt
    have hb := b.toNat_lt
    have hc := c.toNat_lt
    rw [encode, decode?_letters, ih]
    simp only [Option.map_some, Option.some.injEq, List.cons.injEq, and_true]
    refine ⟨ofNat_eq ?_, ofNat_eq ?_, ofNat_eq ?_⟩ <;> omega

theorem decode?_eq_some_iff {cs : List Char} {octets : List UInt8} :
    decode? cs = some octets ↔ cs = encode octets := by
  refine ⟨fun h => ?_, ?_⟩
  · induction cs using decode?.induct generalizing octets with
    | case1 =>
      cases h
      rfl
    | case2 p q r s => exact (encode_of_decodeLast? h).symm
    | case3 p q r s rest _ a b c d bytes hbytes hs hr hq hp ih =>
      obtain ⟨-, rfl⟩ := value?_eq_some_iff.mp hp
      obtain ⟨-, rfl⟩ := value?_eq_some_iff.mp hq
      obtain ⟨-, rfl⟩ := value?_eq_some_iff.mp hr
      obtain ⟨-, rfl⟩ := value?_eq_some_iff.mp hs
      rw [decode?_letters, hbytes] at h
      cases h
      rw [encode_group, ih hbytes]
    | case4 p q r s rest hrest hnone _ =>
      rw [decode?] at h
      · split at h
        · next a b c d bytes ha hb hc hd hbytes => exact (hnone a b c d bytes ha hb hc hd hbytes).elim
        · cases h
      · exact hrest
    | case5 cs hempty hlast hgroup =>
      rw [decode?] at h
      · cases h
      · exact hempty
      · exact hlast
      · exact hgroup
  · rintro rfl
    exact decode?_encode octets

end LoginGateway.Text.Base64
