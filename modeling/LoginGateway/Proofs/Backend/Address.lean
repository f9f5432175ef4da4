import LoginGateway.Backend.Address
import LoginGateway.Proofs.Config
import LoginGateway.Proofs.Url.Web

namespace LoginGateway.Backend

open Url Url.Path

section DotSegments

variable {cs t : List Char}

theorem plainDots_eq_nil_iff : plainDots cs = [] ↔ cs = [] := by
  fun_cases plainDots cs with
  | case1 | case2 | case3 => simp
  | case4 => simp

theorem plainDots_eq_cons_iff :
    plainDots cs = '.' :: t ↔ ∃ form ∈ dotForms, ∃ rest, cs = form ++ rest ∧ plainDots rest = t := by
  constructor
  · fun_cases plainDots cs with
    | case1 rest =>
      rintro ⟨⟩
      exact ⟨"%2e".toList, by decide, rest, rfl, rfl⟩
    | case2 rest =>
      rintro ⟨⟩
      exact ⟨"%2E".toList, by decide, rest, rfl, rfl⟩
    | case3 c rest =>
      rintro ⟨⟩
      exact ⟨".".toList, by decide, rest, rfl, rfl⟩
    | case4 => rintro ⟨⟩
  · rintro ⟨form, hform, rest, rfl, rfl⟩
    simp only [dotForms, List.mem_cons, List.not_mem_nil, or_false] at hform
    obtain rfl | rfl | rfl := hform
    · rfl
    · rfl
    · rfl

theorem plainDots_dot_iff :
    plainDots cs = ['.'] ∨ plainDots cs = ['.', '.'] ↔ IsDotSegment cs := by
  simp only [plainDots_eq_cons_iff, plainDots_eq_nil_iff]
  constructor
  · rintro (⟨form, hform, rest, rfl, rfl⟩ | ⟨a, ha, rest, rfl, b, hb, last, rfl, rfl⟩)
    · rw [List.append_nil]
      exact .inl hform
    · rw [List.append_nil]
      exact .inr ⟨a, ha, b, hb, rfl⟩
  · rintro (hform | ⟨a, ha, b, hb, rfl⟩)
    · exact .inl ⟨cs, hform, [], (List.append_nil cs).symm, rfl⟩
    · exact .inr ⟨a, ha, b, rfl, b, hb, [], (List.append_nil b).symm, rfl⟩

/-- The paths that are refused are those with a segment that the reading of URLs would resolve. -/
theorem hasDotSegment_iff {path : String} :
    hasDotSegment path = true ↔ ∃ segment ∈ segmentsOf true path.toList, IsDotSegment segment := by
  rw [hasDotSegment, List.any_eq_true]
  apply exists_congr
  intro segment
  rw [Bool.or_eq_true, beq_iff_eq, beq_iff_eq, plainDots_dot_iff]
  rfl

theorem hasDotSegment_eq_false {path : String}
    (h : ∀ segment ∈ segmentsOf true path.toList, ¬ IsDotSegment segment) :
    hasDotSegment path = false := by
  rw [← Bool.not_eq_true, hasDotSegment_iff]
  rintro ⟨segment, hsegment, hdot⟩
  exact h segment hsegment hdot

theorem segmentsOf_dropWhile_subset (cs : List Char) :
    segmentsOf true (cs.dropWhile Backend.isSlash) ⊆ segmentsOf true cs := by
  induction cs with
  | nil => exact List.Subset.refl _
  | cons c cs ih =>
    rw [List.dropWhile_cons]
    split
    · next hslash =>
      obtain rfl : c = '/' := beq_iff_eq.mp hslash
      have hsplit : segmentsOf true ('/' :: cs) = segmentsOf true [] ++ segmentsOf true cs :=
        segmentsOf_append (.inl rfl) [] cs
      rw [hsplit]
      exact List.subset_append_of_subset_right _ ih
    · exact List.Subset.refl _

end DotSegments

section Mounting

/-- The text of the URL below which everything is relayed. -/
def mount (config : Config) : String :=
  String.ofList (Text.trimEndBy isSlash config.backendUrl.render.toList) ++ config.pathPrefix ++ "/"

def querySuffix (query : Option String) : List Char :=
  match query with
  | none => []
  | some query => if query = "" then [] else '?' :: query.toList

theorem suffix_querySuffix_some {text : String} (hne : text ≠ "") (hhash : '#' ∉ text.toList)
    {kind : SchemeKind} (hkind : kind.isSpecial = true) :
    suffix kind (querySuffix (some text)) =
      (some (String.ofList (Percent.encode .specialQuery text.toList)), none) := by
  have hplain : ∀ c ∈ text.toList, (c != '#') = true := by
    intro c hc
    rw [bne_iff_ne]
    rintro rfl
    exact hhash hc
  rw [querySuffix, if_neg hne, Url.suffix, hkind, if_pos rfl, List.takeWhile_eq_self_iff.mpr hplain,
    List.dropWhile_eq_nil_iff.mpr hplain]
  rfl

/-- Settings below whose URL and prefix a path can stand. -/
structure Mountable (config : Config) : Prop where
  made : config.Made
  query : config.backendUrl.query = none
  fragment : config.backendUrl.fragment = none
  pathPrefix : ∀ c ∈ config.pathPrefix.toList, c ≠ '?' ∧ c ≠ '#'

variable {config : Config}

theorem address_eq (config : Config) (rest : String) (query : Option String) :
    address config rest query =
      config.backendUrl.mounted config.pathPrefix.toList (rest.toList.dropWhile isSlash)
        (querySuffix query) := by
  obtain ⟨text, haddress, htext⟩ : ∃ text, address config rest query =
      String.ofList (Text.trimEndBy isSlash config.backendUrl.render.toList) ++ config.pathPrefix ++
        "/" ++ String.ofList (rest.toList.dropWhile isSlash) ++ text ∧
          text.toList = querySuffix query := by
    refine ⟨_, rfl, ?_⟩
    cases query with
    | none => rfl
    | some query =>
      dsimp only [querySuffix]
      by_cases hempty : query = ""
      · rw [if_pos hempty, if_pos hempty]
        rfl
      · rw [if_neg hempty, if_neg hempty, String.toList_append]
        rfl
  rw [mounted, ← String.toList_inj]
  simp only [haddress, String.toList_append, htext, String.toList_ofList, List.append_assoc]
  rfl

theorem address_empty (config : Config) : address config "" none = mount config := by
  simp [mount, address]

theorem continues_address {rest : String} {query : Option String}
    (hrest : ∀ c ∈ rest.toList, 32 < c.toNat ∧ c ≠ '?' ∧ c ≠ '#')
    (hquery : ∀ text, query = some text → ∀ c ∈ text.toList, 32 < c.toNat)
    (hdots : hasDotSegment rest = false) :
    Continues (rest.toList.dropWhile isSlash) (querySuffix query) where
  main := by
    intro c hc
    obtain ⟨hlow, hends⟩ := hrest c ((List.dropWhile_subset _) hc)
    exact ⟨hlow, endsMain_eq_false_iff.mpr hends⟩
  visible := by
    intro c hc
    unfold querySuffix at hc
    split at hc
    · cases hc
    · next text =>
      split at hc
      · cases hc
      · obtain rfl | hc := List.mem_cons.mp hc
        · decide
        · exact hquery text rfl c hc
  ends := by
    intro c hc
    unfold querySuffix at hc
    split at hc
    · cases hc
    · split at hc
      · cases hc
      · cases hc
        rfl
  plain := by
    intro segment hsegment hdot
    have hrefused := hasDotSegment_iff.mpr ⟨segment, segmentsOf_dropWhile_subset _ hsegment, hdot⟩
    rw [hdots] at hrefused
    cases hrefused

/-- Below the URL and the prefix of a backend each segment of a path stands by itself, and the rest of
the URL stays as it is; or nothing can be relayed. -/
theorem parse_address (h : Mountable config)
    (hscheme : config.backendUrl.scheme = "http" ∨ config.backendUrl.scheme = "https") :
    (∃ above, ∀ rest query, Continues (rest.toList.dropWhile isSlash) (querySuffix query) →
      Url.parse (address config rest query) =
        .ok { config.backendUrl with
          path := .rooted (above ++ (segmentsOf true (rest.toList.dropWhile isSlash)).map encodeSegment)
          query := (suffix config.backendUrl.kind (querySuffix query)).1
          fragment := (suffix config.backendUrl.kind (querySuffix query)).2 }) ∨
    ∀ rest query, Continues (rest.toList.dropWhile isSlash) (querySuffix query) →
      Url.parse (address config rest query) = .error .invalidName := by
  obtain ⟨text, htext⟩ := h.made.backendUrl
  have hplain : ∀ c ∈ config.pathPrefix.toList, endsMain c = false := fun c hc =>
    endsMain_eq_false_iff.mpr (h.pathPrefix c hc)
  simp only [address_eq]
  obtain ⟨above, hread⟩ | hnone :=
      parse_mounted htext hscheme h.query h.fragment h.made.head?_pathPrefix hplain
  · exact .inl ⟨above, fun rest query hcontinues => hread _ _ hcontinues⟩
  · exact .inr fun rest query hcontinues => hnone _ _ hcontinues

theorem mountable_small : Mountable Config.small where
  made := ⟨⟨"http://h", by decide +kernel⟩, "/api/fortress", by decide +kernel⟩
  query := rfl
  fragment := rfl
  pathPrefix := List.all_iff_forall_prop.mp (by decide)

end Mounting

end LoginGateway.Backend
