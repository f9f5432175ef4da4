import LoginGateway.Proofs.Text.Ascii
import LoginGateway.Proofs.Text.Blank
import LoginGateway.Proofs.Text.Cut
import LoginGateway.Url.Parse

namespace LoginGateway.Url

open Text

structure IsScheme (cs : List Char) : Prop where
  head : ∃ c ∈ cs.head?, c.isAlpha = true
  chars : ∀ c ∈ cs, isSchemeChar c = true

theorem isScheme_iff {cs : List Char} :
    IsScheme cs ↔ (cs.head?.any Char.isAlpha && cs.all isSchemeChar) = true := by
  rw [Bool.and_eq_true, List.all_eq_true, Option.any_eq_true]
  exact ⟨fun h => ⟨h.head, h.chars⟩, fun h => ⟨h.1, h.2⟩⟩

instance (cs : List Char) : Decidable (IsScheme cs) := decidable_of_iff _ isScheme_iff.symm

def lowerScheme (cs : List Char) : String := String.ofList (cs.map Char.toLower)

theorem plain_of_isSchemeChar {c : Char} (h : isSchemeChar c = true) :
    32 < c.toNat ∧ c ≠ ':' ∧ c ≠ '/' := by
  have key : ∀ n < 128, isSchemeChar (Char.ofNat n) = true →
      32 < (Char.ofNat n).toNat ∧ Char.ofNat n ≠ ':' ∧ Char.ofNat n ≠ '/' := by
    decide +kernel
  have hascii : c.toNat < 128 := by
    rw [isSchemeChar, Bool.or_eq_true] at h
    obtain halphanum | hmark := h
    · exact ascii_of_isAlphanum halphanum
    · have hmarks : ['+', '-', '.'].all (fun d => d.toNat < 128) = true := by
        decide
      exact of_decide_eq_true (List.all_eq_true.mp hmarks c (List.contains_iff_mem.mp hmark))
  obtain ⟨n, hn, rfl⟩ := exists_ofNat_of_ascii hascii
  exact key n hn h

theorem significant_eq_self {cs : List Char} (h : ∀ c ∈ cs, 32 < c.toNat) : significant cs = cs := by
  apply List.filter_eq_self.mpr
  intro c hc
  have hlow := h c hc
  rw [Bool.not_eq_true', isBreak, Bool.or_eq_false_iff, Bool.or_eq_false_iff, beq_eq_false_iff_ne,
    beq_eq_false_iff_ne, beq_eq_false_iff_ne]
  refine ⟨⟨?_, ?_⟩, ?_⟩ <;> rintro rfl <;> exact absurd hlow (by decide)

section Reading

variable {scheme : List Char}

theorem IsScheme.not_mem (h : IsScheme scheme) : ':' ∉ scheme ∧ '/' ∉ scheme :=
  ⟨fun hmem => (plain_of_isSchemeChar (h.chars _ hmem)).2.1 rfl,
    fun hmem => (plain_of_isSchemeChar (h.chars _ hmem)).2.2 rfl⟩

theorem cutScheme?_append (h : IsScheme scheme) (more : List Char) :
    cutScheme? (scheme ++ ':' :: more) = some (lowerScheme scheme, more) := by
  have hvisible : significant scheme = scheme :=
    significant_eq_self fun c hc => (plain_of_isSchemeChar (h.chars c hc)).1
  rw [cutScheme?, cutAt?_append h.not_mem.1]
  dsimp only
  rw [hvisible, if_pos (isScheme_iff.mp h), lowerScheme]

theorem parse_append (h : IsScheme scheme) (more : List Char) :
    parse (String.ofList (scheme ++ ':' :: more)) =
      withScheme (lowerScheme scheme) (trimEndBy (·.toNat ≤ 32) more) := by
  obtain ⟨c, hc, -⟩ := h.head
  have hfirst : ∀ d ∈ (scheme ++ ':' :: more).head?, decide (d.toNat ≤ 32) = false := by
    intro d hd
    rw [List.head?_append, Option.mem_def.mp hc, Option.some_or] at hd
    obtain rfl := Option.mem_some_iff.mp hd
    exact decide_eq_false (Nat.not_le.mpr (plain_of_isSchemeChar (h.chars c (List.mem_of_mem_head? hc))).1)
  have hcolon : ∀ d ∈ (scheme ++ [':']).getLast?, decide (d.toNat ≤ 32) = false := by
    simp
  have htrim : trimBy (·.toNat ≤ 32) (scheme ++ ':' :: more) =
      scheme ++ ':' :: trimEndBy (·.toNat ≤ 32) more := by
    have hend := trimEndBy_append hcolon more
    rw [List.append_assoc, List.append_assoc, List.singleton_append, List.singleton_append] at hend
    rw [trimBy_eq_trimEndBy hfirst, hend]
  rw [parse, trim, String.toList_ofList, htrim, cutScheme?_append h]

end Reading

theorem fileUrl_scheme {cs : List Char} {url : Url} (h : fileUrl cs = .ok url) : url.scheme = "file" := by
  rw [fileUrl] at h
  cases hcut : cutFileHost (cs.takeWhile (!endsMain ·)) with
  | error fault =>
    rw [hcut] at h
    cases h
  | ok parts =>
    rw [hcut] at h
    cases h
    rfl

theorem afterSlashes_scheme {scheme : String} {cs : List Char} {url : Url}
    (h : afterSlashes scheme cs = .ok url) : url.scheme = scheme := by
  rw [afterSlashes] at h
  generalize readAuthority _ _ _ = parts at h
  cases parts with
  | error fault => cases h
  | ok parts =>
    cases h
    rfl

theorem otherScheme_scheme {scheme : String} {cs : List Char} {url : Url}
    (h : otherScheme scheme cs = .ok url) : url.scheme = scheme := by
  unfold otherScheme at h
  split at h
  · exact afterSlashes_scheme h
  · cases h
    rfl

theorem withScheme_scheme {scheme : String} {cs : List Char} {url : Url}
    (h : withScheme scheme cs = .ok url) :
    url.scheme = scheme := by
  unfold withScheme at h
  split at h
  · exact afterSlashes_scheme h
  · next hkind =>
    have hfile : scheme = "file" := by
      unfold SchemeKind.ofScheme at hkind
      grind
    rw [hfile]
    exact fileUrl_scheme h
  · exact otherScheme_scheme h

theorem scheme_of_parse_append {scheme more : List Char} (h : IsScheme scheme) {url : Url}
    (hparse : parse (String.ofList (scheme ++ ':' :: more)) = .ok url) :
    url.scheme = lowerScheme scheme := by
  rw [parse_append h] at hparse
  exact withScheme_scheme hparse

end LoginGateway.Url
