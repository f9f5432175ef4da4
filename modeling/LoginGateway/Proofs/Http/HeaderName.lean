import LoginGateway.Http.HeaderName
import LoginGateway.Proofs.Text.Ascii

namespace LoginGateway.Http

/-- A token that is neither empty nor too long, its letters in any case. -/
structure LegalName (s : String) : Prop where
  ne : s ≠ ""
  token : ∀ c ∈ s.toList, isTokenChar c = true
  length : s.toList.length ≤ 65535

theorem isTokenChar_toLower (c : Char) : isTokenChar c.toLower = isTokenChar c := by
  cases hupper : c.isUpper with
  | false => rw [Text.toLower_eq_self hupper]
  | true =>
    have hrange := Text.isUpper_iff_toNat.mp hupper
    have hlower : c.toLower.isLower = true := by
      rw [Text.isLower_iff_toNat, Text.toNat_toLower, if_pos hrange]
      omega
    have hletter {d : Char} (hd : d.isUpper = true ∨ d.isLower = true) : isTokenChar d = true := by
      have halphanum : d.isAlphanum = true := by
        delta Char.isAlphanum Char.isAlpha
        rw [Bool.or_eq_true, Bool.or_eq_true]
        exact .inl hd
      rw [isTokenChar, halphanum, Bool.true_or]
    rw [hletter (.inr hlower), hletter (.inl hupper)]

theorem isUpper_toLower (c : Char) : c.toLower.isUpper = false := by
  rw [← Bool.not_eq_true, Text.isUpper_iff_toNat, Text.toNat_toLower]
  split <;> omega

theorem isFieldName_map_toLower {cs : List Char} :
    isFieldName (cs.map Char.toLower) = true ↔
      cs ≠ [] ∧ (∀ c ∈ cs, isTokenChar c = true) ∧ cs.length ≤ 65535 := by
  have hupper : (cs.map Char.toLower).all (fun c => !c.isUpper) = true := by
    rw [List.all_map, List.all_eq_true]
    intro c _
    rw [Function.comp_apply, isUpper_toLower]
    rfl
  have htoken : (cs.map Char.toLower).all isTokenChar = true ↔ ∀ c ∈ cs, isTokenChar c = true := by
    rw [List.all_map, List.all_eq_true]
    exact forall₂_congr fun c _ => by rw [Function.comp_apply, isTokenChar_toLower]
  have hempty : (!(cs.map Char.toLower).isEmpty) = true ↔ cs ≠ [] := by
    cases cs with
    | nil => exact iff_of_false Bool.false_ne_true (fun h => h rfl)
    | cons c cs => exact iff_of_true rfl (List.cons_ne_nil c cs)
  rw [isFieldName, isToken, hupper, Bool.and_true, Bool.and_eq_true, Bool.and_eq_true, htoken, hempty,
    decide_eq_true_eq, List.length_map, and_assoc]

theorem isFieldName_lower_iff {s : String} :
    isFieldName (String.ofList (s.toList.map Char.toLower)).toList = true ↔ LegalName s := by
  rw [String.toList_ofList, isFieldName_map_toLower]
  constructor
  · rintro ⟨hne, htoken, hlength⟩
    exact ⟨fun hempty => hne (by rw [hempty]; rfl), htoken, hlength⟩
  · intro h
    exact ⟨fun hempty => h.ne (String.toList_inj.mp hempty), h.token, h.length⟩

namespace HeaderName

variable {s : String} {name : HeaderName}

theorem eq_of_text {a b : HeaderName} (h : a.text = b.text) : a = b := by
  cases a
  cases b
  subst h
  rfl

theorem text_of_parse? (h : parse? s = some name) :
    LegalName s ∧ name.text = String.ofList (s.toList.map Char.toLower) := by
  unfold parse? at h
  dsimp only at h
  split at h
  · next hlegal =>
    cases h
    exact ⟨isFieldName_lower_iff.mp hlegal, rfl⟩
  · cases h

theorem parse?_eq_none_iff : parse? s = none ↔ ¬ LegalName s := by
  rw [parse?, ← isFieldName_lower_iff]
  split
  · next hlegal => exact iff_of_false (by rintro ⟨⟩) (not_not_intro hlegal)
  · next hillegal => exact iff_of_true rfl hillegal

end HeaderName

end LoginGateway.Http
