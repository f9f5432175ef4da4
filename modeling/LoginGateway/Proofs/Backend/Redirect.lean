import LoginGateway.Proofs.Backend.Relay

namespace LoginGateway.Backend

open Client

/-- The reply to `request`, received after `sofar`, sends the client on to `next`. -/
def SendsOn (client : Client) (network : Network) (sofar : List Outgoing) (request : Outgoing)
    (status : Nat) (next : Url) : Prop :=
  ∃ headers body complete, network sofar request = .answered status headers body complete ∧
    client.redirection? request.url status headers = some next

variable {client : Client}

theorem SendsOn.unique {network : Network} {sofar : List Outgoing} {request : Outgoing}
    {status status' : Nat} {next next' : Url} (h : SendsOn client network sofar request status next)
    (h' : SendsOn client network sofar request status' next') : status = status' ∧ next = next' := by
  obtain ⟨headers, body, complete, hreply, hnext⟩ := h
  obtain ⟨headers', body', complete', hreply', hnext'⟩ := h'
  obtain ⟨rfl, rfl, -, -⟩ := Reply.answered.inj (hreply.symm.trans hreply')
  exact ⟨rfl, Option.some.inj (hnext.symm.trans hnext')⟩

theorem url_redirected (client : Client) (request : Outgoing) (status : Nat) (next : Url) :
    (client.redirected request status next).url = next := rfl

theorem method_redirected (client : Client) (request : Outgoing) (status : Nat) (next : Url) :
    (client.redirected request status next).method =
      (client.redirectedMethod status request.method).1 := rfl

/-- A redirect changes the method to GET after 303, HEAD excepted, and that of a POST after 301 and 302. -/
theorem redirectedMethod_standard_ne_iff (status : Nat) (method : Http.Method) :
    (standard.redirectedMethod status method).1 ≠ method ↔
      status = 303 ∧ method ≠ .get ∧ method ≠ .head ∨
        (status = 301 ∨ status = 302) ∧ method = .post := by
  rw [standard]
  dsimp only
  split
  · next hsee =>
    subst hsee
    split
    · next hhead => simp [hhead]
    · next hhead => simp [hhead, eq_comm]
  · next hsee =>
    simp only [hsee, false_and, false_or, Bool.and_eq_true, Bool.or_eq_true, decide_eq_true_eq]
    split
    · next hpost => simp [hpost]
    · next hpost => simp [hpost]

/-- What is received from `request` on, after `sofar`. -/
inductive Chain (client : Client) (network : Network) : List Outgoing → Outgoing → List Outgoing → Prop
  | unreached {sofar request} : network sofar request = .refused → Chain client network sofar request []
  | last {sofar request} : Chain client network sofar request [request]
  | next {sofar request status url later} : SendsOn client network sofar request status url →
      Chain client network (sofar ++ [request]) (client.redirected request status url) later →
      Chain client network sofar request (request :: later)

section Chain

variable {network : Network} {sofar chain : List Outgoing} {request : Outgoing}

theorem chain_follow (client : Client) (network : Network) (first : Url) (budget : Nat)
    (sofar : List Outgoing)
    (request : Outgoing) :
    ∃ chain, (client.follow network first budget sofar request).received = sofar ++ chain ∧
      Chain client network sofar request chain := by
  fun_induction client.follow network first budget sofar request with
  | case1 budget sofar request hreply => exact ⟨[], (List.append_nil _).symm, .unreached hreply⟩
  | case2 budget sofar request => exact ⟨[request], rfl, .last⟩
  | case3 budget sofar request => exact ⟨[request], rfl, .last⟩
  | case4 sofar request => exact ⟨[request], rfl, .last⟩
  | case5 sofar request status headers body complete hreply received next budget hnext hweb ih =>
    obtain ⟨later, hlater, hchain⟩ := ih
    refine ⟨request :: later, ?_, .next ⟨headers, body, complete, hreply, hnext⟩ hchain⟩
    rw [hlater, List.append_assoc]
    rfl
  | case6 sofar request => exact ⟨[request], rfl, .last⟩

theorem Chain.head_eq (h : Chain client network sofar request chain) {first : Outgoing}
    {later : List Outgoing} (hchain : chain = first :: later) : first = request := by
  cases h with
  | unreached => cases hchain
  | last | next => exact (List.cons_eq_cons.mp hchain).1.symm

theorem Chain.redirected_of_append (h : Chain client network sofar request chain)
    {before after : List Outgoing} {previous next : Outgoing}
    (hchain : chain = before ++ previous :: next :: after) :
    ∃ status url, SendsOn client network (sofar ++ before) previous status url ∧
      next = client.redirected previous status url := by
  induction h generalizing before with
  | unreached =>
    cases before <;> cases hchain
  | last =>
    cases before with
    | nil => cases hchain
    | cons b before =>
      cases before <;> cases hchain
  | @next sofar request status url later hon hlater ih =>
    cases before with
    | nil =>
      obtain ⟨rfl, hrest⟩ := List.cons_eq_cons.mp hchain
      rw [List.append_nil]
      exact ⟨status, url, hon, hlater.head_eq hrest⟩
    | cons b before =>
      obtain ⟨rfl, hrest⟩ := List.cons_eq_cons.mp hchain
      obtain ⟨status, url, hsends, hnext⟩ := ih hrest
      refine ⟨status, url, ?_, hnext⟩
      rwa [List.append_assoc, List.singleton_append] at hsends

theorem Chain.forall {q : Outgoing → Prop} (h : Chain client network sofar request chain)
    (hfirst : q request)
    (hstep : ∀ previous status url, q previous → q (client.redirected previous status url)) :
    ∀ each ∈ chain, q each := by
  induction h with
  | unreached => exact List.forall_mem_nil q
  | last => exact List.forall_mem_singleton.mpr hfirst
  | next _ _ ih => exact List.forall_mem_cons.mpr ⟨hfirst, ih (hstep _ _ _ hfirst)⟩

end Chain

/-- The last request that was received got this response, whole, and it does not redirect. -/
def Ended (client : Client) (network : Network) (received : List Outgoing) (response : Http.Response) :
    Prop :=
  ∃ before last, received = before ++ [last] ∧
    network before last = .answered response.status response.headers response.body true ∧
    client.redirection? last.url response.status response.headers = none

section Ended

variable {network : Network} {sofar : List Outgoing} {request : Outgoing} {response : Http.Response}

theorem ended_concat_iff :
    Ended client network (sofar ++ [request]) response ↔
      network sofar request = .answered response.status response.headers response.body true ∧
        client.redirection? request.url response.status response.headers = none := by
  constructor
  · rintro ⟨before, last, hreceived, hended⟩
    obtain ⟨rfl, hlast⟩ := List.append_inj' hreceived rfl
    obtain rfl := List.singleton_inj.mp hlast
    exact hended
  · intro hended
    exact ⟨sofar, request, rfl, hended⟩

theorem SendsOn.not_ended {status : Nat} {next : Url}
    (h : SendsOn client network sofar request status next) :
    ¬ Ended client network (sofar ++ [request]) response := by
  obtain ⟨headers, body, complete, hreply, hnext⟩ := h
  rw [ended_concat_iff, hreply]
  rintro ⟨⟨⟩, hstay⟩
  rw [hnext] at hstay
  cases hstay

theorem not_ended_nil : ¬ Ended client network [] response := by
  rintro ⟨before, last, hnil, -⟩
  exact List.append_ne_nil_of_right_ne_nil before (List.cons_ne_nil last []) hnil.symm

theorem length_received_follow (client : Client) (network : Network) (first : Url) (budget : Nat)
    (sofar : List Outgoing)
    (request : Outgoing) :
    (client.follow network first budget sofar request).received.length ≤ sofar.length + budget + 1 := by
  have hlast (sofar : List Outgoing) (request : Outgoing) (budget : Nat) :
      (sofar ++ [request]).length ≤ sofar.length + budget + 1 := by
    rw [List.length_append, List.length_singleton]
    omega
  fun_induction client.follow network first budget sofar request with
  | case1 budget sofar request => exact Nat.le_add_right sofar.length (budget + 1)
  | case2 | case3 | case6 => exact hlast _ _ _
  | case4 => exact hlast _ _ 0
  | case5 sofar request status headers body complete hreply received next budget hnext hweb ih =>
    have hlength : received.length = sofar.length + 1 := List.length_append
    omega

/-- What was received so far has led to this request, and so the result is the response to the request that
was received last, if that is whole and does not redirect. -/
theorem result_follow_eq_ok_iff (first : Url) (budget : Nat) (request : Outgoing)
    (hsofar : ¬ Ended client network sofar response) :
    (client.follow network first budget sofar request).result = .ok response ↔
      Ended client network (client.follow network first budget sofar request).received response := by
  fun_induction client.follow network first budget sofar request with
  | case1 budget sofar request hreply => exact iff_of_false (by rintro ⟨⟩) hsofar
  | case2 budget sofar request hreply =>
    rw [ended_concat_iff, hreply]
    exact iff_of_false (by rintro ⟨⟩) (by rintro ⟨⟨⟩, -⟩)
  | case3 budget sofar request status headers body complete hreply received hstay =>
    rw [ended_concat_iff, hreply]
    cases complete with
    | false => exact iff_of_false (by rintro ⟨⟩) (by rintro ⟨⟨⟩, -⟩)
    | true =>
      constructor
      · rintro ⟨⟩
        exact ⟨rfl, hstay⟩
      · rintro ⟨⟨⟩, -⟩
        rfl
  | case4 sofar request status headers body complete hreply received next hnext =>
    exact iff_of_false (by rintro ⟨⟩) (SendsOn.not_ended ⟨headers, body, complete, hreply, hnext⟩)
  | case5 sofar request status headers body complete hreply received next budget hnext hweb ih =>
    exact ih (SendsOn.not_ended ⟨headers, body, complete, hreply, hnext⟩)
  | case6 sofar request status headers body complete hreply received next budget hnext hweb =>
    exact iff_of_false (by rintro ⟨⟩) (SendsOn.not_ended ⟨headers, body, complete, hreply, hnext⟩)

end Ended

/-- The names whose values no redirect takes away or replaces. -/
def Lasting (name : Http.HeaderName) : Prop := name ∉ .referer :: payload ++ sensitive

instance (name : Http.HeaderName) : Decidable (Lasting name) :=
  inferInstanceAs (Decidable (name ∉ _))

theorem mem_headers_redirected {name : Http.HeaderName} {value : Http.HeaderValue} (hname : Lasting name)
    (request : Outgoing) (status : Nat) (next : Url) :
    (name, value) ∈ (client.redirected request status next).headers ↔
      (name, value) ∈ request.headers := by
  rw [Lasting, List.cons_append, List.mem_cons, List.mem_append, not_or, not_or] at hname
  obtain ⟨hreferer, hpayload, hsensitive⟩ := hname
  have hreplace (fields : Http.Headers) (link : Http.HeaderValue) :
      (name, value) ∈ fields.replace .referer link ↔ (name, value) ∈ fields := by
    rw [Http.Headers.replace, List.mem_append, Http.Headers.mem_without hreferer, List.mem_singleton]
    refine or_iff_left ?_
    rintro ⟨⟩
    exact hreferer rfl
  rw [redirected]
  dsimp only
  cases referer? request.url next with
  | none =>
    dsimp only
    split <;> split <;>
      simp only [Http.Headers.mem_dropping hsensitive, Http.Headers.mem_dropping hpayload]
  | some link =>
    dsimp only
    rw [hreplace]
    split <;> split <;>
      simp only [Http.Headers.mem_dropping hsensitive, Http.Headers.mem_dropping hpayload]

section Relaying

variable {network : Network} {config : Config} {rest : String} {request : Http.Request}

/-- The shared secret stands in the request, under its name. -/
def CarriesSecret (config : Config) (request : Outgoing) : Prop :=
  ∃ secret, Http.HeaderValue.ofString? config.backendSecret = some secret ∧
    (config.secretHeader, secret) ∈ request.headers

theorem carriesSecret_redirected (hname : Lasting config.secretHeader) (previous : Outgoing)
    (status : Nat) (next : Url) :
    CarriesSecret config (client.redirected previous status next) ↔ CarriesSecret config previous := by
  simp only [CarriesSecret, mem_headers_redirected hname]

theorem chain_send {address : String} {url : Url} (h : Url.parse address = .ok url) (client : Client)
    (network : Network) (method : Http.Method) (headers : Http.Headers) (body : Option ByteArray) :
    (client.send network method address headers body).received = [] ∨
      Chain client network [] (firstRequest method url headers body)
        (client.send network method address headers body).received := by
  rw [send_of_parse network method headers body h]
  cases Http.Target.parse (requested url).render with
  | error fault => exact .inl rfl
  | ok target =>
    obtain ⟨chain, hreceived, hchain⟩ := chain_follow client network (requested url) maxRedirects []
      (firstRequest method url headers body)
    dsimp only
    rw [hreceived, List.nil_append]
    exact .inr hchain

theorem server_of_parse_address (hmade : config.Made)
    (hscheme : config.backendUrl.scheme = "http" ∨ config.backendUrl.scheme = "https")
    {query : Option String} {url : Url} (h : Url.parse (address config rest query) = .ok url) :
    url.scheme = config.backendUrl.scheme ∧ url.authority = config.backendUrl.authority := by
  obtain ⟨text, htext⟩ := hmade.backendUrl
  rw [address_eq] at h
  exact Url.server_of_parse_mounted htext hscheme hmade.head?_pathPrefix h

theorem sameOrigin_of_parse_address (hmade : config.Made)
    (hscheme : config.backendUrl.scheme = "http" ∨ config.backendUrl.scheme = "https")
    {query : Option String} {url : Url} (h : Url.parse (address config rest query) = .ok url) :
    url.SameOrigin config.backendUrl :=
  have hserver := server_of_parse_address hmade hscheme h
  Url.sameOrigin_of_authority hserver.1 hserver.2

theorem chain_relay (hmade : config.Made)
    (hscheme : config.backendUrl.scheme = "http" ∨ config.backendUrl.scheme = "https") :
    (relay client network config rest request).received = [] ∨
      ∃ first : Outgoing, first.url.SameOrigin config.backendUrl ∧ CarriesSecret config first ∧
        Chain client network [] first (relay client network config rest request).received := by
  obtain hrefused | hunbuilt | ⟨secret, hsecret, hsent⟩ :=
    relay_cases client network config rest request
  · rw [hrefused]
    exact .inl rfl
  · rw [hunbuilt]
    exact .inl rfl
  · rw [hsent, received_reported]
    cases hurl : Url.parse (address config rest request.target.query) with
    | error fault =>
      rw [send_of_error _ _ _ _ hurl]
      exact .inl rfl
    | ok url =>
      obtain hnone | hchain := chain_send hurl client network request.method
        (relayedHeaders config secret) (relayedBody request.method request.body)
      · exact .inl hnone
      · refine .inr ⟨_, ?_, ⟨secret, hsecret, ?_⟩, hchain⟩
        · exact (Url.sameOrigin_of_withoutCredentials (requested_withoutCredentials url)).trans
            (sameOrigin_of_parse_address hmade hscheme hurl)
        · exact List.mem_append_left _ (List.mem_append_right _ List.mem_cons_self)

end Relaying

end LoginGateway.Backend
