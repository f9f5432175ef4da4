import LoginGateway.Text.Utf8

namespace LoginGateway.Text.Utf8

theorem decode?_flatMap (cs : List Char) :
    decode? (cs.flatMap String.utf8EncodeChar) = some (String.ofList cs) := by
  have hbytes : (⟨(cs.flatMap String.utf8EncodeChar).toArray⟩ : ByteArray) = cs.utf8Encode :=
    ByteArray.ext List.data_toByteArray.symm
  have hvalid : cs.utf8Encode.IsValidUTF8 := ⟨cs, rfl⟩
  rw [decode?, hbytes, String.fromUTF8?, dif_pos hvalid]
  rfl

theorem decode?_eq_some_iff {octets : List UInt8} {s : String} :
    decode? octets = some s ↔ octets = s.toList.flatMap String.utf8EncodeChar := by
  constructor
  · intro h
    rw [decode?, String.fromUTF8?] at h
    split at h
    · next hvalid =>
      obtain rfl := Option.some.inj h
      have hbytes := congrArg (·.data.toList)
        (String.utf8Encode_toList (b := String.fromUTF8 ⟨octets.toArray⟩ hvalid))
      rw [List.utf8Encode, List.data_toByteArray] at hbytes
      exact hbytes.symm
    · cases h
  · rintro rfl
    rw [decode?_flatMap, String.ofList_toList]

theorem utf8EncodeChar_of_ascii {c : Char} (h : c.toNat < 128) :
    String.utf8EncodeChar c = [UInt8.ofNat c.toNat] := by
  rw [String.utf8EncodeChar]
  exact if_pos (Nat.le_of_lt_succ h)

theorem octets_of_ascii {cs : List Char} (h : ∀ c ∈ cs, c.toNat < 128) :
    cs.flatMap String.utf8EncodeChar = cs.map fun c => UInt8.ofNat c.toNat := by
  induction cs with
  | nil => rfl
  | cons c cs ih =>
    obtain ⟨hc, hcs⟩ := List.forall_mem_cons.mp h
    rw [List.flatMap_cons, utf8EncodeChar_of_ascii hc, ih hcs]
    rfl

/-- No octet of a character beyond ASCII is one of ASCII. -/
theorem le_of_mem_utf8EncodeChar {c : Char} (h : 128 ≤ c.toNat) :
    ∀ b ∈ String.utf8EncodeChar c, 128 ≤ b.toNat := by
  have hlarge : ¬ c.val.toNat ≤ 127 := fun hle => Nat.not_lt.mpr h (Nat.lt_succ_of_le hle)
  have hmarked (value width mark : Nat) (hmark : 128 ≤ mark) (hwidth : 0 < width)
      (hfits : width + mark ≤ 256) : 128 ≤ (UInt8.ofNat (value % width + mark)).toNat := by
    have hlt := Nat.mod_lt value hwidth
    rw [UInt8.toNat_ofNat_of_lt' (by omega : value % width + mark < 256)]
    omega
  have hlast (value : Nat) : 128 ≤ (UInt8.ofNat (value % 64 + 128)).toNat :=
    hmarked value 64 128 (by decide) (by decide) (by decide)
  rw [String.utf8EncodeChar, if_neg hlarge]
  split
  · simp only [List.forall_mem_cons, List.not_mem_nil, false_implies, implies_true, and_true]
    exact ⟨hmarked _ 32 192 (by decide) (by decide) (by decide), hlast _⟩
  split
  · simp only [List.forall_mem_cons, List.not_mem_nil, false_implies, implies_true, and_true]
    exact ⟨hmarked _ 16 224 (by decide) (by decide) (by decide), hlast _, hlast _⟩
  · simp only [List.forall_mem_cons, List.not_mem_nil, false_implies, implies_true, and_true]
    exact ⟨hmarked _ 8 240 (by decide) (by decide) (by decide), hlast _, hlast _, hlast _⟩

theorem utf8EncodeChar_eq_cons (c : Char) : ∃ b bs, String.utf8EncodeChar c = b :: bs ∧
    (b.toNat = c.toNat ∨ 128 ≤ b.toNat) := by
  have hpos : 0 < (String.utf8EncodeChar c).length := by
    rw [String.length_utf8EncodeChar]
    exact c.utf8Size_pos
  obtain ⟨b, bs, hoctets⟩ := List.exists_cons_of_length_pos hpos
  refine ⟨b, bs, hoctets, ?_⟩
  by_cases hascii : c.toNat < 128
  · rw [utf8EncodeChar_of_ascii hascii] at hoctets
    obtain ⟨rfl, -⟩ := List.cons_eq_cons.mp hoctets
    exact .inl (UInt8.toNat_ofNat_of_lt' (Nat.lt_trans hascii (by decide)))
  · refine .inr (le_of_mem_utf8EncodeChar (Nat.le_of_not_lt hascii) b ?_)
    rw [hoctets]
    exact List.mem_cons_self

/-- The octets of a character behind its first are none that could begin one. -/
theorem exists_utf8EncodeChar_eq_cons (c : Char) : ∃ b bs, String.utf8EncodeChar c = b :: bs ∧
    b.IsUTF8FirstByte ∧ ∀ x ∈ bs, ¬ x.IsUTF8FirstByte := by
  obtain ⟨b, bs, hoctets, -⟩ := utf8EncodeChar_eq_cons c
  have hfirst (i : Nat) (hi : i < (b :: bs).length) : (b :: bs)[i].IsUTF8FirstByte ↔ i = 0 := by
    have h : ∀ hi, (String.utf8EncodeChar c)[i].IsUTF8FirstByte ↔ i = 0 := fun hi =>
      UInt8.isUTF8FirstByte_getElem_utf8EncodeChar
    simp only [hoctets] at h
    exact h hi
  refine ⟨b, bs, hoctets, (hfirst 0 (Nat.zero_lt_succ _)).mpr rfl, ?_⟩
  intro x hx
  obtain ⟨i, hi, rfl⟩ := List.mem_iff_getElem.mp hx
  exact fun h => absurd ((hfirst (i + 1) (Nat.succ_lt_succ hi)).mp h) (Nat.succ_ne_zero i)

theorem utf8EncodeChar_append_inj {c d : Char} {xs ys : List UInt8}
    (h : String.utf8EncodeChar c ++ xs = String.utf8EncodeChar d ++ ys) : c = d ∧ xs = ys := by
  have hchar := congrArg (fun octets : List UInt8 => octets.toByteArray.utf8DecodeChar? 0) h
  simp only [List.toByteArray_append, ByteArray.utf8DecodeChar?_utf8EncodeChar_append] at hchar
  obtain rfl := Option.some.inj hchar
  exact ⟨rfl, List.append_cancel_left h⟩

theorem not_mem_octets {cs : List Char} (hascii : ∀ c ∈ cs, c.toNat < 128) {d : Char}
    (hd : d.toNat < 128) (h : d ∉ cs) :
    UInt8.ofNat d.toNat ∉ cs.flatMap String.utf8EncodeChar := by
  intro hmem
  obtain ⟨c, hc, hoctet⟩ := List.mem_flatMap.mp hmem
  have hlt := hascii c hc
  rw [utf8EncodeChar_of_ascii hlt, List.mem_singleton] at hoctet
  have heq : d.toNat = c.toNat := by
    have := congrArg UInt8.toNat hoctet
    rwa [UInt8.toNat_ofNat_of_lt' (Nat.lt_trans hd (by decide)),
      UInt8.toNat_ofNat_of_lt' (Nat.lt_trans hlt (by decide))] at this
  rw [Char.toNat_inj.mp heq] at h
  exact h hc

end LoginGateway.Text.Utf8
