import LoginGateway.Proofs.Backend.Alike
import LoginGateway.Proofs.Gateway.Run

namespace LoginGateway.Gateway

open Backend Http

section Inwards

variable {network : Network} {gateway gateway' : Gateway} {arrival arrival' : Arrival}

theorem relay_congr {request request' : Request} (hmethod : request'.method = request.method)
    (htarget : request'.target = request.target) (hbody : request'.body = request.body)
    (client : Client) (network : Network) (config : Config) (rest : String) :
    relay client network config rest request' = relay client network config rest request := by
  rw [relay, relay, hmethod, htarget, hbody]

theorem received_congr (hclient : gateway'.client = gateway.client)
    (hconfig : gateway'.config = gateway.config)
    (hmethod : arrival'.request.method = arrival.request.method)
    (htarget : arrival'.request.target = arrival.request.target)
    (hbody : arrival'.request.body = arrival.request.body)
    (hauth : gateway.Authorised arrival.now arrival.request.headers)
    (hauth' : gateway'.Authorised arrival'.now arrival'.request.headers) :
    (handle network gateway' arrival').received = (handle network gateway arrival).received := by
  by_cases hrelayed : Below arrival.request.target.path ∧
      arrival.request.method ∈ [.get, .head, .post, .put, .patch, .delete]
  · obtain ⟨hbelow, hserved⟩ := hrelayed
    obtain ⟨rest, hroute⟩ := below_iff.mp hbelow
    have hinner : inner network gateway arrival = _ := inner_relay_of_route network hroute hserved hauth
    rw [← htarget] at hroute
    rw [← hmethod] at hserved
    have hinner' : inner network gateway' arrival' = _ :=
      inner_relay_of_route network hroute hserved hauth'
    rw [received_handle, received_handle, hinner, hinner', hclient, hconfig,
      relay_congr hmethod htarget hbody]
  · have hnone : (handle network gateway arrival).received = [] := by
      by_contra h
      exact hrelayed ⟨(allowed_of_received h).1, (allowed_of_received h).2.1⟩
    have hnone' : (handle network gateway' arrival').received = [] := by
      by_contra h
      obtain ⟨hbelow, hserved, -⟩ := allowed_of_received h
      rw [htarget] at hbelow
      rw [hmethod] at hserved
      exact hrelayed ⟨hbelow, hserved⟩
    rw [hnone, hnone']

end Inwards

/-- The two gateways have seen the same attempts, and of their settings only the shared secret differs. -/
structure Twins (gateway gateway' : Gateway) : Prop where
  config : ∃ secret, gateway'.config = { gateway.config with backendSecret := secret }
  ledger : gateway'.ledger = gateway.ledger
  client : gateway'.client = gateway.client
  commit? : gateway'.commit? = gateway.commit?

namespace Twins

variable {network : Network} {gateway gateway' : Gateway} (h : Twins gateway gateway')
include h

theorem withLedger (ledger : Attempts.Ledger) :
    Twins (gateway.withLedger ledger) (gateway'.withLedger ledger) :=
  ⟨h.config, rfl, h.client, h.commit?⟩

theorem reset (source : String) : Twins (gateway.reset source) (gateway'.reset source) := by
  rw [Gateway.reset, Gateway.reset, h.ledger]
  exact h.withLedger _

theorem codec_eq : gateway'.codec = gateway.codec := by
  obtain ⟨secret, hconfig⟩ := h.config
  simp only [codec, hconfig]

theorem authorised_iff (now : Duration) (headers : Headers) :
    gateway'.Authorised now headers ↔ gateway.Authorised now headers := by
  rw [Authorised, Authorised, h.codec_eq]

theorem accepted_eq (now : Duration) : gateway'.accepted now = gateway.accepted now := by
  obtain ⟨secret, hconfig⟩ := h.config
  rw [accepted, accepted, h.codec_eq, hconfig]

theorem counted_eq (now : Duration) (headers : Headers) :
    gateway'.counted now headers = gateway.counted now headers := by
  obtain ⟨secret, hconfig⟩ := h.config
  rw [counted, counted, h.ledger, hconfig]

theorem login (now : Duration) (headers : Headers) (body : Body) :
    (gateway'.login now headers body).1 = (gateway.login now headers body).1 ∧
      Twins (gateway.login now headers body).2 (gateway'.login now headers body).2 := by
  have hpassword : gateway'.config.password = gateway.config.password := by
    obtain ⟨secret, hconfig⟩ := h.config
    rw [hconfig]
  have hafter (ledger : Attempts.Ledger) := h.withLedger ledger
  rw [Gateway.login, Gateway.login, check_eq_counted, check_eq_counted, h.counted_eq]
  obtain ⟨decision, ledger⟩ := gateway.counted now headers
  cases decision with
  | limited wait => exact ⟨rfl, hafter ledger⟩
  | allowed =>
    dsimp only
    cases givenPassword? body with
    | none => exact ⟨rfl, hafter ledger⟩
    | some password =>
      dsimp only
      have hconfig (gateway : Gateway) : (gateway.withLedger ledger).config = gateway.config := rfl
      rw [hconfig, hconfig, hpassword]
      split
      · dsimp only
        exact ⟨(hafter ledger).accepted_eq now, (hafter ledger).reset (Login.source headers)⟩
      · exact ⟨rfl, hafter ledger⟩

theorem serveAuth (now : Duration) (request : Request) :
    (Gateway.serveAuth gateway' now request).response = (Gateway.serveAuth gateway now request).response ∧
      Twins (Gateway.serveAuth gateway now request).gateway
        (Gateway.serveAuth gateway' now request).gateway := by
  have hstatus : gateway'.sessionStatus now request.headers =
      gateway.sessionStatus now request.headers := by
    rw [sessionStatus, sessionStatus, authenticated, authenticated, h.codec_eq]
  have hsecure : gateway'.config.cookieSecure = gateway.config.cookieSecure := by
    obtain ⟨secret, hconfig⟩ := h.config
    rw [hconfig]
  have hlogout : gateway'.logout = gateway.logout := by
    rw [logout, logout, hsecure]
  obtain ⟨hresult, hafter⟩ := h.login now request.headers request.body
  rw [Gateway.serveAuth, Gateway.serveAuth]
  split
  · exact ⟨hstatus, h⟩
  · exact ⟨hstatus, h⟩
  · refine ⟨?_, hafter⟩
    dsimp only
    rw [hresult]
  · refine ⟨?_, h⟩
    dsimp only
    rw [hlogout]
  · exact ⟨rfl, h⟩

section Relaying

variable {secret secret' : HeaderValue}
  (hsecret : HeaderValue.ofString? gateway.config.backendSecret = some secret)
  (hsecret' : HeaderValue.ofString? gateway'.config.backendSecret = some secret')
  (hnetwork : Impartial gateway.config.secretHeader secret secret' network)
include hsecret hsecret' hnetwork

theorem serveProxy (now : Duration) (rest : String) (request : Request) :
    (Gateway.serveProxy network gateway' now rest request).response =
        (Gateway.serveProxy network gateway now rest request).response ∧
      Twins (Gateway.serveProxy network gateway now rest request).gateway
        (Gateway.serveProxy network gateway' now rest request).gateway := by
  by_cases hauth : gateway.Authorised now request.headers
  · have hauth' := (h.authorised_iff now request.headers).mpr hauth
    rw [serveProxy_of_authorised hauth, serveProxy_of_authorised hauth', passed, passed]
    split
    · obtain ⟨other, hconfig⟩ := h.config
      rw [h.client, hconfig]
      rw [hconfig] at hsecret'
      obtain ⟨-, hresult⟩ := relay_alike gateway.client hnetwork hsecret hsecret' rest request
      exact ⟨congrArg outcome hresult, h⟩
    · exact ⟨rfl, h⟩
  · have hauth' := (h.authorised_iff now request.headers).not.mpr hauth
    rw [serveProxy_of_not_authorised hauth, serveProxy_of_not_authorised hauth']
    exact ⟨rfl, h⟩

theorem handle (arrival : Arrival) :
    (Gateway.handle network gateway' arrival).response =
        (Gateway.handle network gateway arrival).response ∧
      Twins (Gateway.handle network gateway arrival).gateway
        (Gateway.handle network gateway' arrival).gateway := by
  have hinner : (inner network gateway' arrival).response = (inner network gateway arrival).response ∧
      Twins (inner network gateway arrival).gateway (inner network gateway' arrival).gateway := by
    rw [inner, inner]
    split
    · exact ⟨rfl, h⟩
    cases Route.ofPath? arrival.request.target.path with
    | none => exact ⟨rfl, h⟩
    | some route =>
      cases route with
      | auth => exact h.serveAuth arrival.now arrival.request
      | health =>
        rw [serveRoute, serveRoute, serveHealth, serveHealth, h.commit?]
        split <;> exact ⟨rfl, h⟩
      | proxy rest => exact h.serveProxy hsecret hsecret' hnetwork arrival.now rest arrival.request
  have hlayers (gateway : Gateway) : (Gateway.handle network gateway arrival).response =
      (withOrigins (withLength arrival.request.method (withAllow
        (Route.ofPath? arrival.request.target.path) arrival.request.method
        (inner network gateway arrival).response))).withHeader .requestId (requestId arrival) := rfl
  refine ⟨?_, hinner.2⟩
  rw [hlayers, hlayers, hinner.1]

end Relaying

end Twins

def responses : Gateway → List Action → List Response
  | _, [] => []
  | gateway, .request network arrival :: actions =>
    (handle network gateway arrival).response ::
      responses (gateway.step (.request network arrival)) actions
  | gateway, .sweep now :: actions => responses (gateway.step (.sweep now)) actions

theorem Twins.sweep {gateway gateway' : Gateway} (h : Twins gateway gateway') (now : Duration) :
    Twins (gateway.sweep now) (gateway'.sweep now) := by
  obtain ⟨secret, hconfig⟩ := h.config
  rw [Gateway.sweep, Gateway.sweep, h.ledger, hconfig]
  exact h.withLedger _

theorem Twins.responses_eq {gateway gateway' : Gateway} (h : Twins gateway gateway')
    {secret secret' : HeaderValue}
    (hsecret : HeaderValue.ofString? gateway.config.backendSecret = some secret)
    (hsecret' : HeaderValue.ofString? gateway'.config.backendSecret = some secret')
    {actions : List Action}
    (hnetworks : ∀ network arrival, .request network arrival ∈ actions →
      Impartial gateway.config.secretHeader secret secret' network) :
    gateway'.responses actions = gateway.responses actions := by
  induction actions generalizing gateway gateway' with
  | nil => rfl
  | cons action actions ih =>
    have hlater : ∀ network arrival, .request network arrival ∈ actions →
        Impartial gateway.config.secretHeader secret secret' network :=
      fun network arrival hmem => hnetworks network arrival (List.mem_cons_of_mem _ hmem)
    -- a step leaves the settings as they are, and so the two secrets
    have hafter (hstep : Twins (gateway.step action) (gateway'.step action)) :
        (gateway'.step action).responses actions = (gateway.step action).responses actions := by
      rw [← gateway.config_step action] at hsecret hlater
      rw [← gateway'.config_step action] at hsecret'
      exact ih hstep hsecret hsecret' hlater
    cases action with
    | request network arrival =>
      obtain ⟨hresponse, hstep⟩ :=
        h.handle hsecret hsecret' (hnetworks network arrival List.mem_cons_self) arrival
      rw [responses, responses, hresponse, hafter hstep]
    | sweep now => exact hafter (h.sweep now)

/-- Two requests that agree in method, target and body and both carry a session have the backend receive
the same, whatever else stands in their headers. Two gateways that differ in the shared secret alone
give the same responses at all times, if the secrets can be sent and the backend does not tell them
apart. -/
theorem credentials_stay_apart :
    (∀ (network : Network) (gateway gateway' : Gateway) (arrival arrival' : Arrival),
      gateway'.client = gateway.client → gateway'.config = gateway.config →
      arrival'.request.method = arrival.request.method →
      arrival'.request.target = arrival.request.target →
      arrival'.request.body = arrival.request.body →
      gateway.Authorised arrival.now arrival.request.headers →
      gateway'.Authorised arrival'.now arrival'.request.headers →
        (handle network gateway' arrival').received = (handle network gateway arrival).received) ∧
    ∀ (gateway gateway' : Gateway) (secret secret' : HeaderValue) (actions : List Action),
      Twins gateway gateway' →
      HeaderValue.ofString? gateway.config.backendSecret = some secret →
      HeaderValue.ofString? gateway'.config.backendSecret = some secret' →
      (∀ network arrival, .request network arrival ∈ actions →
        Impartial gateway.config.secretHeader secret secret' network) →
        gateway'.responses actions = gateway.responses actions :=
  ⟨fun _ _ _ _ _ hclient hconfig hmethod htarget hbody hauth hauth' =>
      received_congr hclient hconfig hmethod htarget hbody hauth hauth',
    fun _ _ _ _ _ h hsecret hsecret' hnetworks => h.responses_eq hsecret hsecret' hnetworks⟩

def smallRekeyed : Gateway where
  config := { Config.small with backendSecret := "c" }
  valid := by decide +kernel
  ledger := .empty

theorem credentials_stay_apart_in_redirect :
    let network := inTurn [.answered 302 [(.location, .ofText "/login")] .empty true, .broken]
    let request : Request := ⟨.post, ⟨"/proxy/x", none⟩, smallSession, ⟨"x".toUTF8, true⟩⟩
    let crowded : Request := { request with headers :=
      (.authorization, .ofText "Basic cDpw") :: smallSession ++ [(.forwardedFor, .ofText "10.0.0.1")] }
    let arrival : Arrival := ⟨.zero, .ofText "", request⟩
    let actions :=
      [.request network arrival, .sweep .zero, .request network ⟨.zero, .ofText "", smallLogin⟩]
    (handle network small ⟨.zero, .ofText "", crowded⟩).received =
      (handle network small arrival).received ∧
      smallRekeyed.responses actions = small.responses actions := by
  intro network request crowded arrival actions
  have hauth : small.Authorised .zero crowded.headers :=
    (authorised_congr (by decide +kernel : crowded.headers.all .cookie = smallSession.all .cookie)).mpr
      authorised_small
  refine ⟨?_, ?_⟩
  · exact credentials_stay_apart.1 network small small arrival ⟨.zero, .ofText "", crowded⟩ rfl rfl rfl
      rfl rfl authorised_small hauth
  · refine credentials_stay_apart.2 small smallRekeyed (.ofText "b") (.ofText "c") actions
      ⟨⟨"c", rfl⟩, rfl, rfl, rfl⟩ (by decide +kernel) (by decide +kernel) ?_
    intro network' arrival' hmem
    simp only [actions, List.mem_cons, List.not_mem_nil, or_false, Action.request.injEq, reduceCtorEq,
      false_or] at hmem
    obtain ⟨rfl, -⟩ | ⟨rfl, -⟩ := hmem
    · exact impartial_inTurn _
    · exact impartial_inTurn _

end LoginGateway.Gateway
