import LoginGateway.Http.HeaderValue
import LoginGateway.Proofs.Text.Numeral
import LoginGateway.Proofs.Text.Utf8
import Mathlib.Data.Bool.AllAny

namespace LoginGateway.Http

variable {cs ds : List Char}

def Printable (cs : List Char) : Prop := ∀ c ∈ cs, 32 ≤ c.toNat ∧ c.toNat < 127

instance (cs : List Char) : Decidable (Printable cs) :=
  decidable_of_iff (cs.all fun c => 32 ≤ c.toNat ∧ c.toNat < 127) List.all_iff_forall_prop

theorem printable_append : Printable (cs ++ ds) ↔ Printable cs ∧ Printable ds := List.forall_mem_append

theorem Printable.ascii (h : Printable cs) : ∀ c ∈ cs, c.toNat < 128 := fun c hc =>
  Nat.lt_succ_of_lt (h c hc).2

theorem printable_decimal (n : Nat) : Printable (Text.Numeral.decimal n) := by
  intro c hc
  have hdigit := Char.isDigit_iff_toNat.mp (Text.Numeral.isDigit_of_mem_decimal hc)
  simp only [Char.reduceToNat] at hdigit
  omega

namespace HeaderValue

variable {value : HeaderValue} {s : String}

theorem ofString?_eq_some_iff : ofString? s = some value ↔ value.octets = Text.Utf8.encode s := by
  rw [ofString?, ofOctets?]
  constructor
  · intro h
    split at h
    · cases h
      rfl
    · cases h
  · intro h
    have hlegal : (Text.Utf8.encode s).all isFieldOctet := h ▸ value.legal
    rw [dif_pos hlegal]
    cases value
    subst h
    rfl

/-- The characters that no field can hold. -/
def IsControl (c : Char) : Prop := c.toNat < 32 ∧ c ≠ '\t' ∨ c.toNat = 127

instance (c : Char) : Decidable (IsControl c) := inferInstanceAs (Decidable (_ ∨ _))

theorem isFieldOctet_iff {b : UInt8} :
    isFieldOctet b = true ↔ ¬ (b.toNat < 32 ∧ b.toNat ≠ 9 ∨ b.toNat = 127) := by
  rw [isFieldOctet, Bool.or_eq_true, Bool.and_eq_true, beq_iff_eq, decide_eq_true_eq, bne_iff_ne, Ne,
    UInt8.le_iff_toNat_le, ← UInt8.toNat_inj, ← UInt8.toNat_inj]
  simp only [UInt8.reduceToNat]
  omega

/-- A character of ASCII is its own octet; the octets of any other are no controls. -/
theorem all_isFieldOctet_utf8EncodeChar (c : Char) :
    (String.utf8EncodeChar c).all isFieldOctet = true ↔ ¬ IsControl c := by
  by_cases hascii : c.toNat < 128
  · have hoctet : (UInt8.ofNat c.toNat).toNat = c.toNat :=
      UInt8.toNat_ofNat_of_lt' (Nat.lt_trans hascii (by decide))
    have htab : c ≠ '\t' ↔ c.toNat ≠ 9 := not_congr Char.toNat_inj.symm
    rw [Text.Utf8.utf8EncodeChar_of_ascii hascii, List.all_cons, List.all_nil, Bool.and_true,
      isFieldOctet_iff, hoctet, IsControl, htab]
  · have hlarge := Nat.le_of_not_lt hascii
    refine iff_of_true (List.all_eq_true.mpr fun b hb => ?_) ?_
    · have hhigh := Text.Utf8.le_of_mem_utf8EncodeChar hlarge b hb
      rw [isFieldOctet_iff]
      omega
    · rw [IsControl]
      omega

theorem exists_ofString?_iff :
    (∃ value, ofString? s = some value) ↔ ∀ c ∈ s.toList, ¬ IsControl c := by
  have hlegal : (Text.Utf8.encode s).all isFieldOctet = true ↔ ∀ c ∈ s.toList, ¬ IsControl c := by
    rw [Text.Utf8.encode, List.all_flatMap, List.all_eq_true]
    exact forall₂_congr fun c _ => all_isFieldOctet_utf8EncodeChar c
  rw [← hlegal]
  constructor
  · rintro ⟨value, hvalue⟩
    exact ofString?_eq_some_iff.mp hvalue ▸ value.legal
  · intro h
    exact ⟨⟨_, h⟩, ofString?_eq_some_iff.mpr rfl⟩

theorem exists_ofString? (h : Printable s.toList) : ∃ value, ofString? s = some value := by
  refine exists_ofString?_iff.mpr fun c hc => ?_
  have hprintable := h c hc
  rw [IsControl]
  omega

theorem readable?_of_printable (h : Printable cs)
    (hoctets : value.octets = cs.flatMap String.utf8EncodeChar) :
    value.readable? = some (String.ofList cs) := by
  have hoctet (c : Char) (hc : c ∈ cs) : (UInt8.ofNat c.toNat).toNat = c.toNat :=
    UInt8.toNat_ofNat_of_lt' (Nat.lt_trans (h c hc).2 (by decide))
  have hread : (cs.map fun c => UInt8.ofNat c.toNat).all (fun b => b < 127) = true := by
    rw [List.all_map, List.all_eq_true]
    intro c hc
    rw [Function.comp_apply, decide_eq_true_eq, UInt8.lt_iff_toNat_lt, hoctet c hc]
    exact (h c hc).2
  rw [readable?, hoctets, Text.Utf8.octets_of_ascii h.ascii, if_pos hread, List.map_map]
  congr 2
  refine (List.map_congr_left ?_).trans (List.map_id cs)
  intro c hc
  rw [Function.comp_apply, hoctet c hc, Char.ofNat_toNat, id]

end HeaderValue

end LoginGateway.Http
