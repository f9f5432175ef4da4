import LoginGateway.Proofs.Backend.Redirect
import LoginGateway.Proofs.Url.Mark

namespace LoginGateway.Backend

open Url

/-- Letters, digits, and single slashes between them. -/
def PlainRest (rest : String) : Prop :=
  ∀ segment ∈ rest.toList.splitOn '/', segment ≠ [] ∧ ∀ c ∈ segment, c.isAlphanum = true

instance : DecidablePred PlainRest := fun rest =>
  decidable_of_iff
    ((rest.toList.splitOn '/').all fun segment => segment ≠ [] && segment.all Char.isAlphanum)
    (by simp only [PlainRest, List.all_eq_true, Bool.and_eq_true, decide_eq_true_eq])

def PlainQuery (query : String) : Prop :=
  ∀ c ∈ query.toList, c.isAlphanum = true ∨ c = '=' ∨ c = '&'

instance : DecidablePred PlainQuery := fun query =>
  decidable_of_iff (query.toList.all fun c => c.isAlphanum = true ∨ c = '=' ∨ c = '&')
    List.all_iff_forall_prop

/-- The URL leads to the server of the backend, there to a path that ends with the one that was asked
for, and has the query that was asked for; an empty query is none. -/
structure Lands (config : Config) (rest : String) (query : Option String) (url : Url) : Prop where
  origin : url.SameOrigin config.backendUrl
  path : ("/" ++ rest).toList <:+ url.path.text.toList
  query : url.query = query.filter (· ≠ "")

/-- Every plain path is reached behind the URL and the prefix, with its query. -/
def AllLand (config : Config) : Prop :=
  ∀ rest query, PlainRest rest → (∀ text ∈ query, PlainQuery text) →
    ∃ url, Url.parse (address config rest query) = .ok url ∧ Lands config rest query url

section Plain

def signs : List Char := ['/', '\\', '?', '#', '.', '%']

theorem plain_of_isAlphanum {c : Char} (h : c.isAlphanum = true) :
    32 < c.toNat ∧ c ∉ signs ∧ Percent.Kept .path c ∧ Percent.Kept .specialQuery c := by
  have key : ∀ n < 128, (Char.ofNat n).isAlphanum = true →
      32 < (Char.ofNat n).toNat ∧ Char.ofNat n ∉ signs ∧ Percent.Kept .path (Char.ofNat n) ∧
        Percent.Kept .specialQuery (Char.ofNat n) := by
    decide +kernel
  obtain ⟨n, hn, rfl⟩ := Text.exists_ofNat_of_ascii (Text.ascii_of_isAlphanum h)
  exact key n hn h

variable {rest : String}

theorem PlainRest.mem (h : PlainRest rest) : ∀ c ∈ rest.toList, c = '/' ∨ c.isAlphanum = true := by
  intro c hc
  have hmem : c ∈ (rest.toList.splitOn '/').flatMap ('/' :: ·) := by
    rw [Text.flatMap_splitOn]
    exact List.mem_cons_of_mem '/' hc
  obtain ⟨segment, hsegment, hmem⟩ := List.mem_flatMap.mp hmem
  exact (List.mem_cons.mp hmem).imp_right ((h segment hsegment).2 c)

theorem PlainRest.not_mem (h : PlainRest rest) {c : Char} (hc : c ∈ signs) (hslash : c ≠ '/') :
    c ∉ rest.toList := by
  intro hmem
  obtain heq | halnum := h.mem c hmem
  · exact hslash heq
  · exact (plain_of_isAlphanum halnum).2.1 hc

theorem PlainRest.dropWhile_eq (h : PlainRest rest) :
    rest.toList.dropWhile Backend.isSlash = rest.toList := by
  refine Lists.dropWhile_eq_self fun c hc => ?_
  rw [Backend.isSlash, beq_eq_false_iff_ne]
  rintro rfl
  -- a slash in front would have an empty segment before it
  obtain ⟨more, hmore⟩ := List.head?_eq_some_iff.mp hc
  refine (h [] ?_).1 rfl
  rw [hmore, List.splitOn_cons_eq_if_modifyHead, if_pos (beq_self_eq_true '/')]
  exact List.mem_cons_self

theorem PlainRest.hasDotSegment_eq_false (h : PlainRest rest) : hasDotSegment rest = false := by
  refine Backend.hasDotSegment_eq_false fun segment hsegment hdot => ?_
  rw [Path.segmentsOf_eq_splitOn (h.not_mem (by decide) (by decide))] at hsegment
  have hnot {c : Char} (hc : c ∈ signs) : c ∉ segment := fun hmem =>
    (plain_of_isAlphanum ((h segment hsegment).2 c hmem)).2.1 hc
  exact (Path.mem_of_isDotSegment hdot).elim (hnot (by decide)) (hnot (by decide))

theorem PlainRest.continues (h : PlainRest rest) {query : Option String}
    (hquery : ∀ text ∈ query, PlainQuery text) :
    Continues (rest.toList.dropWhile Backend.isSlash) (querySuffix query) := by
  refine continues_address (fun c hc => ?_) (fun text htext c hc => ?_) h.hasDotSegment_eq_false
  · obtain rfl | halnum := h.mem c hc
    · decide
    · obtain ⟨hvisible, hsigns, -⟩ := plain_of_isAlphanum halnum
      refine ⟨hvisible, ?_, ?_⟩ <;> rintro rfl <;> exact hsigns (by decide)
  · obtain halnum | rfl | rfl := hquery text htext c hc
    · exact (plain_of_isAlphanum halnum).1
    · decide
    · decide

theorem PlainRest.suffix_text (h : PlainRest rest) (above : List String) :
    ("/" ++ rest).toList <:+
      (Path.rooted (above ++ (Path.segmentsOf true rest.toList).map Path.encodeSegment)).text.toList := by
  have hkept : ∀ c ∈ rest.toList, Percent.Kept .path c := by
    intro c hc
    obtain rfl | halnum := h.mem c hc
    · decide
    · exact (plain_of_isAlphanum halnum).2.2.1
  refine ⟨(Path.rooted above).text.toList, ?_⟩
  rw [Path.toList_text_append, Path.segmentsOf_eq_splitOn (h.not_mem (by decide) (by decide)),
    Path.toList_text_splitOn hkept, String.toList_append]
  rfl

theorem suffix_querySuffix {query : Option String} (h : ∀ text ∈ query, PlainQuery text)
    {kind : SchemeKind} (hkind : kind.isSpecial = true) :
    suffix kind (querySuffix query) = (query.filter (· ≠ ""), none) := by
  cases query with
  | none => rfl
  | some text =>
    by_cases hempty : text = ""
    · subst hempty
      rfl
    · have hkept : ∀ c ∈ text.toList, Percent.Kept .specialQuery c := by
        intro c hc
        obtain halnum | rfl | rfl := h text rfl c hc
        · exact (plain_of_isAlphanum halnum).2.2.2
        · decide
        · decide
      have hhash : '#' ∉ text.toList := fun hmem => absurd (hkept '#' hmem) (by decide)
      rw [suffix_querySuffix_some hempty hhash hkind, Percent.encode_of_kept hkept, String.ofList_toList,
        Option.filter_some, if_pos (decide_eq_true hempty)]

end Plain

section Landing

variable {config : Config}

theorem allLand_of_mountable (h : Mountable config)
    (hscheme : config.backendUrl.scheme = "http" ∨ config.backendUrl.scheme = "https")
    (hhost : ∀ host, config.backendUrl.host? = some host → Url.Host.parse host.text.toList = .ok host) :
    AllLand config := by
  intro rest query hrest hquery
  obtain ⟨text, htext⟩ := h.made.backendUrl
  obtain ⟨a, d, hweb⟩ := Url.isWeb_of_parse htext hscheme
  have hkind : config.backendUrl.kind.isSpecial = true := by
    rw [Url.kind, hweb.kind]
    rfl
  have hcontinues := hrest.continues hquery
  obtain ⟨above, hread⟩ | hnone := parse_address h hscheme
  · refine ⟨_, hread rest query hcontinues, Url.sameOrigin_of_authority rfl rfl, ?_, ?_⟩
    · rw [hrest.dropWhile_eq]
      exact hrest.suffix_text above
    · rw [suffix_querySuffix hquery hkind]
  · obtain ⟨host, hplace⟩ := Url.exists_host hweb
    obtain ⟨url, hurl, -⟩ | ⟨-, hlost⟩ := Url.parse_mounted_or htext hscheme h.made.head?_pathPrefix
      (rest.toList.dropWhile Backend.isSlash) (querySuffix query) hplace
    · rw [← address_eq, hnone rest query hcontinues] at hurl
      cases hurl
    · rw [hhost host hplace] at hlost
      cases hlost

theorem mountable_of_allLand (h : AllLand config) (hmade : config.Made)
    (hscheme : config.backendUrl.scheme = "http" ∨ config.backendUrl.scheme = "https") :
    Mountable config ∧
      ∀ host, config.backendUrl.host? = some host → Url.Host.parse host.text.toList = .ok host := by
  obtain ⟨text, htext⟩ := hmade.backendUrl
  obtain ⟨a, d, hweb⟩ := Url.isWeb_of_parse htext hscheme
  -- a mark before the path adds a query to the one, or takes that of the other away
  obtain ⟨url, hurl, hlands⟩ := h "x" none (by decide) (by decide)
  obtain ⟨url', hurl', hlands'⟩ := h "x" (some "a") (by decide) (by decide)
  rw [address_eq] at hurl hurl'
  have hplain : ∀ c ∈ Text.trimEndBy (· == '/') config.backendUrl.beyond ++ config.pathPrefix.toList,
      endsMain c = false := by
    intro c hc
    by_contra hmark
    obtain hquery | hquery := Url.query_of_marked hweb hc (Bool.not_eq_false _ ▸ hmark)
    · exact hquery _ _ url hurl hlands.query
    · have hlost := hlands'.query.symm.trans (hquery _ _ url' hurl')
      exact absurd hlost (by decide)
  obtain ⟨hquery, hfragment, hprefix⟩ := Url.unmarked_of_forall hplain
  refine ⟨⟨hmade, hquery, hfragment, hprefix⟩, fun host hhost => ?_⟩
  obtain ⟨-, -, -, -, hagain⟩ | ⟨hlost, -⟩ := Url.parse_mounted_or htext hscheme
    hmade.head?_pathPrefix _ _ hhost
  · exact hagain
  · rw [hurl] at hlost
    cases hlost

/-- Behind the URL of a backend and a prefix all plain paths are reached, with their queries, exactly if
neither has a mark of a query or of a fragment and the host is read again as it is. Settings are
accepted without a look at that. -/
theorem allLand_iff (hmade : config.Made) (hvalid : config.fault? = none) :
    AllLand config ↔
      config.backendUrl.query = none ∧ config.backendUrl.fragment = none ∧
        (∀ c ∈ config.pathPrefix.toList, c ≠ '?' ∧ c ≠ '#') ∧
        ∀ host, config.backendUrl.host? = some host → Url.Host.parse host.text.toList = .ok host := by
  have hscheme := Config.isWebScheme_iff.mp (Config.fault?_eq_none_iff.mp hvalid).scheme
  constructor
  · intro h
    obtain ⟨hmount, hhost⟩ := mountable_of_allLand h hmade hscheme
    exact ⟨hmount.query, hmount.fragment, hmount.pathPrefix, hhost⟩
  · rintro ⟨hquery, hfragment, hprefix, hhost⟩
    exact allLand_of_mountable ⟨hmade, hquery, hfragment, hprefix⟩ hscheme hhost

end Landing

theorem small_lands :
    ∃ url, Url.parse (address Config.small "a/b1" (some "k=v")) = .ok url ∧
      Lands Config.small "a/b1" (some "k=v") url := by
  have hhost : ∀ host, Config.small.backendUrl.host? = some host →
      Url.Host.parse host.text.toList = .ok host := by
    rintro host ⟨⟩
    decide +kernel
  have hall : AllLand Config.small := (allLand_iff mountable_small.made Config.fault?_small).mpr
    ⟨mountable_small.query, mountable_small.fragment, mountable_small.pathPrefix, hhost⟩
  exact hall "a/b1" (some "k=v") (by decide) (by decide)

def asking : Config :=
  { Config.small with
    backendUrl := ⟨"http", some ⟨"", none, some (.name "h"), none⟩, .rooted [""], some "k=v", none⟩ }

/-- What is put behind the query of a URL is not read as a path. -/
theorem asking_swallows : ¬ ∀ config : Config, config.Made → config.fault? = none → AllLand config := by
  intro h
  have hmade : asking.Made := ⟨⟨"http://h/?k=v", by decide +kernel⟩, mountable_small.made.pathPrefix⟩
  obtain ⟨hmount, -⟩ := mountable_of_allLand (h asking hmade (by decide +kernel)) hmade (.inl rfl)
  exact absurd hmount.query (by decide)

end LoginGateway.Backend
