import LoginGateway.Proofs.Backend.Redirect
import LoginGateway.Proofs.Http.HeaderValue
import LoginGateway.Proofs.Url.Request

namespace LoginGateway.Backend

open Client

section Target

variable {text : String} {url : Url} {host : Url.Host}

theorem exists_target_requested (h : Url.parse text = .ok url)
    (hscheme : url.scheme = "http" ∨ url.scheme = "https") (hhost : url.host? = some host) :
    (∃ target, Http.Target.parse (requested url).render = .ok target) ↔
      (requested url).render.utf8ByteSize ≤ 65534 ∧ ∀ c ∈ host.text.toList, c ∉ Url.unspeakable := by
  obtain ⟨a, d, hweb⟩ := Url.isWeb_of_parse h hscheme
  have hencoded := Url.encoded_of_parse h hscheme
  have hplace : a.host = some host := by
    rw [Url.host?, hweb.authority, Option.bind_some] at hhost
    exact hhost
  unfold requested
  cases url.credentials? with
  | none => exact Url.exists_target_iff hweb hencoded hplace
  | some credentials =>
    exact Url.exists_target_iff hweb.withoutCredentials hencoded.withoutCredentials hplace

end Target

/-- There can be a request for the place: its URL is not too long, and the host of the backend is one
that is read again as it is and can stand in a request target. -/
structure Requestable (config : Config) (rest : String) (query : Option String) : Prop where
  host : ∀ host, config.backendUrl.host? = some host →
    Url.Host.parse host.text.toList = .ok host ∧ ∀ c ∈ host.text.toList, c ∉ Url.unspeakable
  size : ∀ url, Url.parse (address config rest query) = .ok url →
    (requested url).render.utf8ByteSize ≤ 65534

section Requests

variable {config : Config} {rest : String} {query : Option String}

theorem requestable_iff (hmade : config.Made)
    (hscheme : config.backendUrl.scheme = "http" ∨ config.backendUrl.scheme = "https") :
    Requestable config rest query ↔
      ∃ url, Url.parse (address config rest query) = .ok url ∧
        ∃ target, Http.Target.parse (requested url).render = .ok target := by
  obtain ⟨text, htext⟩ := hmade.backendUrl
  obtain ⟨a, d, hweb⟩ := Url.isWeb_of_parse htext hscheme
  obtain ⟨host, hhost⟩ := Url.exists_host hweb
  have hread := Url.parse_mounted_or htext hscheme hmade.head?_pathPrefix (rest.toList.dropWhile isSlash)
    (querySuffix query) hhost
  rw [← address_eq] at hread
  obtain ⟨url, hurl, hsame, hauthority, hagain⟩ | ⟨hnone, hlost⟩ := hread
  · have htarget := exists_target_requested hurl (hsame ▸ hscheme)
      ((Url.sameOrigin_of_authority hsame hauthority).host.trans hhost)
    constructor
    · intro h
      exact ⟨url, hurl, htarget.mpr ⟨h.size url hurl, (h.host host hhost).2⟩⟩
    · rintro ⟨url', hurl', hmakes⟩
      obtain rfl : url' = url := Except.ok.inj (hurl'.symm.trans hurl)
      obtain ⟨hsize, hchars⟩ := htarget.mp hmakes
      refine ⟨fun host' hhost' => ?_, fun url'' hurl'' => ?_⟩
      · obtain rfl : host' = host := Option.some.inj (hhost'.symm.trans hhost)
        exact ⟨hagain, hchars⟩
      · obtain rfl : url'' = url' := Except.ok.inj (hurl''.symm.trans hurl)
        exact hsize
  · refine iff_of_false (fun h => ?_) ?_
    · have hagain := (h.host host hhost).1
      rw [hlost] at hagain
      cases hagain
    · rintro ⟨url, hurl, -⟩
      rw [hnone] at hurl
      cases hurl

theorem relayedBody_eq_some_iff {method : Http.Method} {body : Http.Body} {octets : ByteArray} :
    relayedBody method body = some octets ↔
      (method ≠ .get ∧ method ≠ .head) ∧ body.complete = true ∧ 1 ≤ body.content.size ∧
        body.content.size ≤ 10 * 1024 * 1024 ∧ octets = body.content := by
  rw [relayedBody, maxBodySize]
  split
  · next hnone =>
    simp only [Bool.or_eq_true, decide_eq_true_eq, Bool.not_eq_true'] at hnone
    refine iff_of_false (by simp) ?_
    rintro ⟨⟨hget, hhead⟩, hcomplete, hsome, hsmall, -⟩
    obtain (((hmethod | hmethod) | hbroken) | hempty) | hlarge := hnone
    · exact hget hmethod
    · exact hhead hmethod
    · rw [hcomplete] at hbroken
      cases hbroken
    · omega
    · omega
  · next hall =>
    simp only [Bool.or_eq_true, decide_eq_true_eq, Bool.not_eq_true', not_or, Bool.not_eq_false] at hall
    obtain ⟨⟨⟨⟨hget, hhead⟩, hcomplete⟩, hsome⟩, hsmall⟩ := hall
    rw [Option.some.injEq, eq_comm]
    constructor
    · intro hoctets
      exact ⟨⟨hget, hhead⟩, hcomplete, by omega, by omega, hoctets⟩
    · rintro ⟨-, -, -, -, hoctets⟩
      exact hoctets

section Relaying

variable (client : Client) {secret : Http.HeaderValue} (request : Http.Request) (hmade : config.Made)
  (hscheme : config.backendUrl.scheme = "http" ∨ config.backendUrl.scheme = "https")
  (hdots : hasDotSegment rest = false)
  (hsecret : Http.HeaderValue.ofString? config.backendSecret = some secret)
include hmade hscheme hdots hsecret

theorem Requestable.relay_eq_follow (h : Requestable config rest request.target.query) :
    ∃ url, Url.parse (address config rest request.target.query) = .ok url ∧
      ∀ network, relay client network config rest request =
        reported (client.follow network (requested url) maxRedirects []
          (firstRequest request.method url (relayedHeaders config secret)
            (relayedBody request.method request.body))) := by
  obtain ⟨url, hurl, target, htarget⟩ := (requestable_iff hmade hscheme).mp h
  refine ⟨url, hurl, fun network => ?_⟩
  rw [relay_eq_send hdots hsecret, send_of_parse _ _ _ _ hurl, htarget]

theorem relay_of_not_requestable (h : ¬ Requestable config rest request.target.query) :
    ∃ fault, ∀ network, relay client network config rest request = reported ⟨[], .error fault⟩ := by
  rw [requestable_iff hmade hscheme] at h
  cases hurl : Url.parse (address config rest request.target.query) with
  | error fault =>
    refine ⟨.unbuildable, fun network => ?_⟩
    rw [relay_eq_send hdots hsecret, send_of_error _ _ _ _ hurl]
  | ok url =>
    cases htarget : Http.Target.parse (requested url).render with
    | error fault =>
      refine ⟨.unsuitable (requested url), fun network => ?_⟩
      rw [relay_eq_send hdots hsecret, send_of_parse _ _ _ _ hurl, htarget]
    | ok target => exact absurd ⟨url, hurl, target, htarget⟩ h

end Relaying

/-- The request is addressed to the backend and has the secret under its name, as it is configured. Under
that name there are besides only the credentials of the backend's URL, before it, and the type of the body,
behind it. What tells how long the body is is not the client's to send. -/
structure Presents (config : Config) (request : Outgoing) : Prop where
  origin : request.url.SameOrigin config.backendUrl
  secret : config.secretHeader ∉ framing → ∃ value : Http.HeaderValue,
    value.octets = Text.Utf8.encode config.backendSecret ∧
      request.headers.all config.secretHeader =
        (if config.secretHeader = .authorization then
          (config.backendUrl.credentials?.map fun c => basicAuthorization c.1 c.2).toList else []) ++
        [value] ++
        if config.secretHeader = .contentType then [.ofText "application/json"] else []

theorem all_basic (url : Url) (name : Http.HeaderName) :
    (basic url).all name = if name = .authorization then
      (url.credentials?.map fun c => basicAuthorization c.1 c.2).toList else [] := by
  rw [basic]
  cases url.credentials? with
  | none => exact (ite_self []).symm
  | some c => exact (Http.Headers.all_singleton name .authorization _).trans (by simp only [eq_comm]; rfl)

theorem all_relayedHeaders (config : Config) (secret : Http.HeaderValue) :
    (relayedHeaders config secret).all config.secretHeader =
      [secret] ++ if config.secretHeader = .contentType then [.ofText "application/json"] else [] := by
  rw [relayedHeaders, Http.Headers.all_cons_self, Http.Headers.all_singleton, List.singleton_append]
  simp only [eq_comm]

theorem presents_firstRequest {secret : Http.HeaderValue} (hmade : config.Made)
    (hscheme : config.backendUrl.scheme = "http" ∨ config.backendUrl.scheme = "https")
    (hsecret : Http.HeaderValue.ofString? config.backendSecret = some secret) {url : Url}
    (hurl : Url.parse (address config rest query) = .ok url) (method : Http.Method)
    (body : Option ByteArray) :
    Presents config (firstRequest method url (relayedHeaders config secret) body) where
  origin := (Url.sameOrigin_of_withoutCredentials (requested_withoutCredentials url)).trans
    (sameOrigin_of_parse_address hmade hscheme hurl)
  secret := by
    intro _
    refine ⟨secret, Http.HeaderValue.ofString?_eq_some_iff.mp hsecret, ?_⟩
    have hcredentials : url.credentials? = config.backendUrl.credentials? := by
      rw [Url.credentials?, Url.credentials?, (server_of_parse_address hmade hscheme hurl).2]
    have hsent : (config.secretHeader, secret) ∈ basic url ++ relayedHeaders config secret :=
      List.mem_append_right _ List.mem_cons_self
    rw [firstRequest]
    dsimp only
    rw [all_withOwn hsent, Http.Headers.all_append, all_basic, all_relayedHeaders, hcredentials,
      List.append_assoc]

end Requests

end LoginGateway.Backend
