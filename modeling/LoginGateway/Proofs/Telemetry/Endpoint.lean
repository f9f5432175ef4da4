import LoginGateway.Proofs.Telemetry.Settings
import LoginGateway.Proofs.Url.Web

namespace LoginGateway.Telemetry.Settings

open Text

theorem hasSchemeMark_iff {cs : List Char} : hasSchemeMark cs = true ↔ "://".toList <:+: cs := by
  induction cs with
  | nil => exact iff_of_false Bool.false_ne_true (by decide)
  | cons c cs ih =>
    have hfront : (dropFront? "://".toList (c :: cs)).isSome = true ↔ "://".toList <+: c :: cs := by
      rw [Option.isSome_iff_exists]
      exact exists_congr fun rest => dropFront?_eq_some.trans eq_comm
    rw [hasSchemeMark, Bool.or_eq_true, hfront, ih, List.infix_cons_iff]

def endpointText (raw : String) : List Char :=
  if hasSchemeMark (trimEndpoint raw) then trimEndpoint raw else "https://".toList ++ trimEndpoint raw

theorem parse_of_readEndpoint {raw : String} {endpoint : Url} (h : readEndpoint raw = .ok endpoint) :
    Url.parse (String.ofList (endpointText raw)) = .ok endpoint := by
  have hread : readEndpoint raw = (Url.parse (String.ofList (endpointText raw))).mapError fun cause =>
    ⟨String.ofList (trimEndpoint raw), cause⟩ := rfl
  rw [hread] at h
  cases hparse : Url.parse (String.ofList (endpointText raw)) with
  | error cause =>
    rw [hparse] at h
    cases h
  | ok url =>
    rw [hparse] at h
    cases h
    rfl

theorem tlsDomain?_isSome_iff {settings : Settings} :
    (tlsDomain? settings).isSome ↔
      settings.endpoint.scheme = "https" ∧ settings.endpoint.host?.isSome := by
  rw [tlsDomain?]
  split
  · next hscheme => rw [Option.isSome_map, and_iff_right hscheme]
  · next hscheme => exact iff_of_false Bool.false_ne_true fun h => hscheme h.1

/-- The endpoint has the scheme that its text begins with, TLS follows from that scheme, and no other
scheme was put before the text. -/
structure AsWritten (raw : String) (settings : Settings) (scheme : List Char) : Prop where
  lower : settings.endpoint.scheme = Url.lowerScheme scheme
  tls : (tlsDomain? settings).isSome ↔ Url.lowerScheme scheme = "https" ∧ settings.endpoint.host?.isSome
  kept : endpointText raw = trimEndpoint raw

section Schemes

variable {raw : String} {scheme rest : List Char}

theorem endpointText_of_more (htext : trimBlank raw.toList = scheme ++ "://".toList ++ rest)
    (hmore : ∃ c ∈ rest, c ≠ '/') :
    trimEndpoint raw = scheme ++ "://".toList ++ trimEndBy (· == '/') rest ∧
      endpointText raw = trimEndpoint raw := by
  obtain ⟨c, hmem, hc⟩ := hmore
  have htrim : trimEndpoint raw = scheme ++ "://".toList ++ trimEndBy (· == '/') rest := by
    have hstays : (c == '/') = false := beq_eq_false_iff_ne.mpr hc
    rw [trimEndpoint, htext]
    apply trimEndBy_append_of_mem hmem hstays
  refine ⟨htrim, if_pos (hasSchemeMark_iff.mpr ?_)⟩
  rw [htrim]
  exact List.infix_append _ _ _

theorem endpointText_of_slashes (hscheme : Url.IsScheme scheme)
    (htext : trimBlank raw.toList = scheme ++ "://".toList ++ rest) (hslashes : ∀ c ∈ rest, c = '/') :
    trimEndpoint raw = scheme ++ [':'] ∧ endpointText raw = "https://".toList ++ trimEndpoint raw := by
  have htrim : trimEndpoint raw = scheme ++ [':'] := by
    have hdropped : ∀ c ∈ '/' :: '/' :: rest, (c == '/') = true := by
      simpa using hslashes
    have hsplit : scheme ++ "://".toList ++ rest = scheme ++ [':'] ++ '/' :: '/' :: rest := by
      simp
    rw [trimEndpoint, htext, hsplit, trimEndBy_append_right hdropped]
    exact trimEndBy_eq_self (by simp)
  -- all slashes are gone, so there is no `://` any more
  refine ⟨htrim, if_neg fun hmark => ?_⟩
  have hslash : '/' ∈ scheme ++ [':'] := by
    rw [← htrim]
    exact (hasSchemeMark_iff.mp hmark).subset (by decide)
  exact hscheme.not_mem.2 (by simpa using hslash)

/-- A text with a scheme and `://` gives an endpoint of that scheme, in lower case, with TLS exactly for
`https`, unless only slashes follow. Then its scheme is the name of a host that is reached over TLS. -/
theorem as_written_iff {environment : String → Option String} {settings : Settings}
    (hraw : environment endpointVariable = some raw)
    (hsettings : ofEnvironment environment = .ok (some settings))
    (hscheme : Url.IsScheme scheme) (htext : trimBlank raw.toList = scheme ++ "://".toList ++ rest) :
    (AsWritten raw settings scheme ↔ ∃ c ∈ rest, c ≠ '/') ∧
      ((∀ c ∈ rest, c = '/') → endpointText raw = "https://".toList ++ (scheme ++ [':']) ∧
        settings.endpoint.scheme = "https" ∧ (tlsDomain? settings).isSome) := by
  obtain ⟨_, hraw', hread, -⟩ := ofEnvironment_eq_some_iff.mp hsettings
  obtain rfl := Option.some.inj (hraw.symm.trans hraw')
  have hparse := parse_of_readEndpoint hread
  refine ⟨⟨fun h => ?_, fun hmore => ?_⟩, fun hslashes => ?_⟩
  · by_contra hnone
    have hslashes : ∀ c ∈ rest, c = '/' := by
      simpa using hnone
    obtain ⟨-, hadded⟩ := endpointText_of_slashes hscheme htext hslashes
    rw [h.kept, List.self_eq_append_left] at hadded
    exact absurd hadded (by decide)
  · obtain ⟨htrim, hkept⟩ := endpointText_of_more htext hmore
    have hsplit : endpointText raw = scheme ++ ':' :: ('/' :: '/' :: trimEndBy (· == '/') rest) := by
      rw [hkept, htrim]
      simp
    rw [hsplit] at hparse
    have hlower := Url.scheme_of_parse_append hscheme hparse
    refine ⟨hlower, ?_, hkept⟩
    rw [tlsDomain?_isSome_iff, hlower]
  · obtain ⟨htrim, hadded⟩ := endpointText_of_slashes hscheme htext hslashes
    rw [htrim] at hadded
    -- what was the scheme is a host now
    have hhttps : Url.IsScheme "https".toList := by
      decide
    have hsplit : endpointText raw = "https".toList ++ ':' :: ('/' :: '/' :: (scheme ++ [':'])) := by
      rw [hadded]
      rfl
    rw [hsplit] at hparse
    have htls : settings.endpoint.scheme = "https" := Url.scheme_of_parse_append hhttps hparse
    obtain ⟨a, d, hweb⟩ := Url.isWeb_of_parse hparse (.inr htls)
    obtain ⟨host, hhost, -⟩ := hweb.wellFormed.host
    have hsome : settings.endpoint.host? = some host := by
      rw [Url.host?, hweb.authority]
      exact hhost
    exact ⟨hadded, htls, tlsDomain?_isSome_iff.mpr ⟨htls, by rw [hsome]; rfl⟩⟩

theorem as_written_of_capitals :
    let environment : String → Option String := fun name =>
      if name = endpointVariable then some " HTTPS://collector:4317// " else none
    let endpoint : Url :=
      ⟨"https", some { host := some (.name "collector"), port := some 4317 }, .rooted [""], none, none⟩
    ofEnvironment environment = .ok (some ⟨endpoint, [], none⟩) ∧
      AsWritten " HTTPS://collector:4317// " ⟨endpoint, [], none⟩ "HTTPS".toList := by
  intro environment endpoint
  have hendpoint : readEndpoint " HTTPS://collector:4317// " = .ok endpoint := by
    decide +kernel
  have hsettings : ofEnvironment environment = .ok (some ⟨endpoint, [], none⟩) :=
    ofEnvironment_eq_some_iff.mpr ⟨_, if_pos rfl, hendpoint, by decide +kernel, rfl⟩
  have htext : trimBlank " HTTPS://collector:4317// ".toList =
      "HTTPS".toList ++ "://".toList ++ "collector:4317//".toList := by
    decide +kernel
  have hmore : ∃ c ∈ "collector:4317//".toList, c ≠ '/' := ⟨'c', List.mem_cons_self, by decide⟩
  exact ⟨hsettings, (as_written_iff (if_pos rfl) hsettings (by decide) htext).1.mpr hmore⟩

/-- An endpoint that asks for no TLS is taken for a host named `http`, and reached over TLS. -/
theorem not_as_written_of_slashes :
    let environment : String → Option String := fun name =>
      if name = endpointVariable then some "http://" else none
    ∃ settings, ofEnvironment environment = .ok (some settings) ∧
      trimBlank "http://".toList = "http".toList ++ "://".toList ++ [] ∧ Url.IsScheme "http".toList ∧
      settings.endpoint.scheme = "https" ∧ tlsDomain? settings = some "http" ∧
      ¬ AsWritten "http://" settings "http".toList := by
  intro environment
  let endpoint : Url := ⟨"https", some { host := some (.name "http") }, .rooted [""], none, none⟩
  have hendpoint : readEndpoint "http://" = .ok endpoint := by
    decide +kernel
  have hsettings : ofEnvironment environment = .ok (some ⟨endpoint, [], none⟩) :=
    ofEnvironment_eq_some_iff.mpr ⟨_, if_pos rfl, hendpoint, by decide +kernel, rfl⟩
  refine ⟨⟨endpoint, [], none⟩, hsettings, by decide +kernel, by decide, rfl, rfl, fun h => ?_⟩
  exact absurd h.lower (by decide)

end Schemes

end LoginGateway.Telemetry.Settings
