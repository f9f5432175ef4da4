import LoginGateway.Proofs.Text.Cut
import LoginGateway.Proofs.Text.Hex
import LoginGateway.Session.Codec

namespace LoginGateway.Session.Codec

open Text

variable (codec : Codec) {payload signature : List Char} {now : Duration}

def digest (payload : List Char) : Vector UInt8 32 :=
  Digest.Hmac.digest (Utf8.encode codec.secret) (payload.flatMap String.utf8EncodeChar)

/-- The signature is the keyed digest of `payload` in lower-case hexadecimal. -/
structure Signs (payload signature : List Char) : Prop where
  length : signature.length = 64
  lower : ∀ c ∈ signature, c ∈ Hex.lowerDigits
  digest : Hex.decode? signature = some (codec.digest payload).toList

/-- The token is a numeral of 64 bits, a point, and the signature of the numeral as it stands. -/
structure Stamped (token : String) (payload : List Char) (issued : Nat) : Prop where
  signed : ∃ signature, token.toList = payload ++ '.' :: signature ∧ codec.Signs payload signature
  denotes : Numeral.Denotes payload issued
  lt : issued < UInt64.size

theorem sign_eq (payload : List Char) : codec.sign payload = Hex.encode (codec.digest payload).toList := by
  rw [sign, digest]

theorem length_sign (payload : List Char) : (codec.sign payload).length = 64 := by
  rw [sign_eq, Hex.length_encode, Vector.length_toList]

theorem point_not_mem_sign (payload : List Char) : '.' ∉ codec.sign payload := by
  intro h
  rw [sign_eq] at h
  exact absurd (Hex.mem_of_mem_encode h) (by decide)

theorem signs_iff : codec.Signs payload signature ↔ signature = codec.sign payload := by
  rw [sign_eq, Hex.eq_encode_iff]
  constructor
  · intro h
    exact ⟨h.lower, h.digest⟩
  · intro h
    have hlength := codec.length_sign payload
    rw [sign_eq, ← Hex.eq_encode_iff.mpr h] at hlength
    exact ⟨hlength, h.1, h.2⟩

theorem point_not_mem_of_denotes {n : Nat} (h : Numeral.Denotes payload n) : '.' ∉ payload := by
  obtain ⟨sign, digits, rfl, hsign, -, hdigits, -⟩ := h
  rw [List.mem_append, not_or]
  refine ⟨?_, fun hmem => absurd (hdigits '.' hmem) (by decide)⟩
  obtain rfl | rfl := hsign
  · exact List.not_mem_nil
  · decide

theorem verify_eq_true_iff {token : String} :
    codec.verify now token = true ↔
      ∃ payload issued, codec.Stamped token payload issued ∧
        now.seconds ≤ issued + codec.maxAge.seconds := by
  have hmax : Numeral.maxUnsigned + 1 = UInt64.size := rfl
  constructor
  · intro h
    unfold verify at h
    split at h
    · next payload signature hsplit =>
      split at h
      · cases h
      · next issued hread =>
        obtain ⟨htext, -, -⟩ := splitOn_eq_pair_iff.mp hsplit
        obtain ⟨hdenotes, hle⟩ := Numeral.readNat_eq_ok_iff.mp hread
        rw [Bool.and_eq_true, decide_eq_true_eq, beq_iff_eq] at h
        obtain ⟨hage, hsign⟩ := h
        have hsigns := codec.signs_iff.mpr hsign.symm
        exact ⟨payload, issued, ⟨⟨signature, htext, hsigns⟩, hdenotes, by omega⟩, by omega⟩
    · cases h
  · rintro ⟨payload, issued, ⟨⟨signature, htext, hsigns⟩, hdenotes, hlt⟩, hage⟩
    rw [codec.signs_iff.mp hsigns] at htext
    have hsplit : token.toList.splitOn '.' = [payload, codec.sign payload] :=
      splitOn_eq_pair_iff.mpr
        ⟨htext, point_not_mem_of_denotes hdenotes, codec.point_not_mem_sign payload⟩
    have hread : Numeral.readNat Numeral.maxUnsigned payload = .ok issued :=
      Numeral.readNat_eq_ok_iff.mpr ⟨hdenotes, by omega⟩
    rw [verify, hsplit]
    dsimp only
    rw [hread]
    dsimp only
    rw [Bool.and_eq_true, decide_eq_true_eq, beq_iff_eq]
    exact ⟨by omega, rfl⟩

theorem toList_issue (now : Duration) :
    (codec.issue now).toList =
      Numeral.decimal now.seconds ++ '.' :: codec.sign (Numeral.decimal now.seconds) := by
  rw [issue, String.toList_ofList]

theorem mem_of_mem_issue {c : Char} (h : c ∈ (codec.issue now).toList) :
    c ∈ '.' :: Hex.lowerDigits := by
  rw [toList_issue, List.mem_append, List.mem_cons, sign_eq] at h
  obtain h | rfl | h := h
  · obtain ⟨k, hk, rfl⟩ := mem_toDigits (by decide) h
    have hdigit := Hex.digit_mem k
    rw [Hex.digit, Nat.mod_eq_of_lt (Nat.lt_trans hk (by decide))] at hdigit
    exact List.mem_cons_of_mem _ hdigit
  · exact List.mem_cons_self
  · exact List.mem_cons_of_mem _ (Hex.mem_of_mem_encode h)

theorem stamped_issue (now : Duration) :
    codec.Stamped (codec.issue now) (Numeral.decimal now.seconds) now.seconds where
  signed := ⟨_, codec.toList_issue now, codec.signs_iff.mpr rfl⟩
  denotes := Numeral.denotes_decimal now.seconds
  lt := now.seconds_lt

theorem Stamped.unique {token : String} {payload payload' : List Char} {issued issued' : Nat}
    (h : codec.Stamped token payload issued) (h' : codec.Stamped token payload' issued') :
    issued = issued' := by
  obtain ⟨signature, htext, -⟩ := h.signed
  obtain ⟨signature', htext', -⟩ := h'.signed
  have hcut := cutAt?_append (b := signature) (point_not_mem_of_denotes h.denotes)
  have hcut' := cutAt?_append (b := signature') (point_not_mem_of_denotes h'.denotes)
  rw [← htext', htext, hcut] at hcut'
  obtain ⟨rfl, -⟩ := Prod.mk.inj (Option.some.inj hcut')
  exact h.denotes.unique h'.denotes

/-- A token is good until its greatest age has passed, in whole seconds. -/
theorem verify_issue (now later : Duration) :
    codec.verify later (codec.issue now) = true ↔
      later.seconds ≤ now.seconds + codec.maxAge.seconds := by
  rw [verify_eq_true_iff]
  constructor
  · rintro ⟨payload, issued, hstamped, hage⟩
    rwa [← Stamped.unique codec hstamped (codec.stamped_issue now)]
  · intro hage
    exact ⟨_, _, codec.stamped_issue now, hage⟩

/-- A token is good exactly if it is stamped with a second that is not too long ago. The token that is
issued now is stamped with the shortest numeral of this second. -/
theorem verify_language (now : Duration) :
    (∀ token, codec.verify now token = true ↔
      ∃ payload issued, codec.Stamped token payload issued ∧
        now.seconds ≤ issued + codec.maxAge.seconds) ∧
    codec.Stamped (codec.issue now) (Numeral.decimal now.seconds) now.seconds ∧
    (∀ payload, Numeral.Denotes payload now.seconds →
      (Numeral.decimal now.seconds).length ≤ payload.length) ∧
    codec.verify now (codec.issue now) = true := by
  refine ⟨fun token => codec.verify_eq_true_iff, codec.stamped_issue now, ?_, ?_⟩
  · intro payload hdenotes
    exact Numeral.length_decimal_le hdenotes
  · exact (codec.verify_issue now now).mpr (Nat.le_add_right _ _)

end LoginGateway.Session.Codec
