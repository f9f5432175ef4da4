import LoginGateway.Url.Percent
import Mathlib.Data.Bool.AllAny

namespace LoginGateway.Url.Percent

def marks : List Char := "%0123456789ABCDEF".toList

/-- A character that may stand as it is. -/
def Kept (set : EncodeSet) (c : Char) : Prop := c.toNat < 128 ∧ set c = false

theorem upperHex_mem (n : Nat) : upperHex n ∈ marks := by
  have key : ∀ k < 16, (Nat.digitChar k).toUpper ∈ marks := by
    decide
  exact key (n % 16) (Nat.mod_lt n (by decide))

theorem octet_subset (b : UInt8) : ∀ c ∈ octet b, c ∈ marks := by
  intro c hc
  simp only [octet, List.mem_cons, List.not_mem_nil, or_false] at hc
  obtain rfl | rfl | rfl := hc
  · decide
  · exact upperHex_mem _
  · exact upperHex_mem _

section Sets

variable {set : EncodeSet}

theorem encodeChar_of_kept {c : Char} (h : Kept set c) : encodeChar set c = [c] := by
  rw [encodeChar, if_pos]
  simp only [Bool.and_eq_true, decide_eq_true_eq, Bool.not_eq_true']
  exact h

theorem encodeChar_of_not_kept {c : Char} (h : ¬ Kept set c) :
    encodeChar set c = (String.utf8EncodeChar c).flatMap octet := by
  rw [encodeChar, if_neg]
  simp only [Bool.and_eq_true, decide_eq_true_eq, Bool.not_eq_true']
  exact h

theorem mem_encode {cs : List Char} {c : Char} (h : c ∈ encode set cs) :
    c ∈ cs ∧ Kept set c ∨ c ∈ marks := by
  obtain ⟨d, hd, hc⟩ := List.mem_flatMap.mp h
  by_cases hkept : Kept set d
  · rw [encodeChar_of_kept hkept, List.mem_singleton] at hc
    subst hc
    exact .inl ⟨hd, hkept⟩
  · rw [encodeChar_of_not_kept hkept] at hc
    obtain ⟨b, -, hb⟩ := List.mem_flatMap.mp hc
    exact .inr (octet_subset b c hb)

theorem kept_of_mem_encode (hset : ∀ c ∈ marks, Kept set c) {cs : List Char} {c : Char}
    (h : c ∈ encode set cs) : Kept set c := by
  obtain ⟨-, hkept⟩ | hmark := mem_encode h
  · exact hkept
  · exact hset c hmark

theorem encode_of_kept {cs : List Char} (h : ∀ c ∈ cs, Kept set c) : encode set cs = cs := by
  induction cs with
  | nil => rfl
  | cons c cs ih =>
    obtain ⟨hc, hcs⟩ := List.forall_mem_cons.mp h
    rw [encode, List.flatMap_cons, encodeChar_of_kept hc]
    exact congrArg (c :: ·) (ih hcs)

theorem encode_ne_nil {cs : List Char} (h : cs ≠ []) : encode set cs ≠ [] := by
  obtain ⟨c, cs, rfl⟩ := List.exists_cons_of_ne_nil h
  rw [encode, List.flatMap_cons]
  apply List.append_ne_nil_of_left_ne_nil
  by_cases hc : Kept set c
  · rw [encodeChar_of_kept hc]
    exact List.cons_ne_nil c []
  · obtain ⟨b, bs, hbs⟩ := List.exists_cons_of_ne_nil (String.utf8EncodeChar_ne_nil (c := c))
    rw [encodeChar_of_not_kept hc, hbs, List.flatMap_cons]
    exact List.cons_ne_nil _ _

end Sets

instance (set : EncodeSet) (c : Char) : Decidable (Kept set c) :=
  inferInstanceAs (Decidable (_ ∧ _))

theorem kept_path_of_mark : ∀ c ∈ marks, Kept .path c :=
  List.all_iff_forall_prop.mp (by decide)

theorem kept_userinfo_of_mark : ∀ c ∈ marks, Kept .userinfo c :=
  List.all_iff_forall_prop.mp (by decide)

theorem decode_of_not_mem {octets : List UInt8} (h : 37 ∉ octets) : decode octets = octets := by
  fun_induction decode octets with
  | case1 | case2 => exact absurd List.mem_cons_self h
  | case3 b rest _ ih => rw [ih (mt (List.mem_cons_of_mem b) h)]
  | case4 => rfl

end LoginGateway.Url.Percent
