import LoginGateway.Proofs.Config
import LoginGateway.Proofs.Gateway.Handle
import LoginGateway.Proofs.Session.Cookie

namespace LoginGateway.Gateway

open Http

theorem scheme_backendUrl (gateway : Gateway) :
    gateway.config.backendUrl.scheme = "http" ∨ gateway.config.backendUrl.scheme = "https" :=
  Config.isWebScheme_iff.mp (Config.fault?_eq_none_iff.mp gateway.valid).scheme

/-- The first session token that the cookies carry is good at `now`. -/
def Authorised (gateway : Gateway) (now : Duration) (headers : Headers) : Prop :=
  ∃ token, Session.Cookie.Carries headers token ∧ gateway.codec.verify now token = true

theorem authenticated_iff {gateway : Gateway} {now : Duration} {headers : Headers} :
    gateway.authenticated now headers = true ↔ gateway.Authorised now headers := by
  rw [authenticated, Option.any_eq_true, Authorised]
  exact exists_congr fun token => and_congr_left' Session.Cookie.token?_eq_some_iff

theorem authorised_congr {gateway : Gateway} {now : Duration} {headers headers' : Headers}
    (h : headers.all .cookie = headers'.all .cookie) :
    gateway.Authorised now headers ↔ gateway.Authorised now headers' := by
  simp only [← authenticated_iff, authenticated, Session.Cookie.token?, h]

theorem authorised_of_carries {gateway : Gateway} {now : Duration} {headers : Headers} {token : String}
    (h : Session.Cookie.Carries headers token) :
    gateway.Authorised now headers ↔ gateway.codec.verify now token = true := by
  rw [← authenticated_iff, authenticated, Session.Cookie.token?_eq_some_iff.mpr h, Option.any_some]

/-- What is answered below the mount point once the guard has let the request through. -/
def passed (network : Backend.Network) (gateway : Gateway) (rest : String) (request : Request) : Answer :=
  if (Route.proxy rest).serves request.method then
    let relayed := Backend.relay gateway.client network gateway.config rest request
    ⟨gateway, outcome relayed.result, relayed.received⟩
  else ⟨gateway, methodNotAllowed, []⟩

section Proxy

variable {network : Backend.Network} {gateway : Gateway} {now : Duration} {rest : String}
  {request : Request}

theorem serveProxy_of_not_authorised (h : ¬ gateway.Authorised now request.headers) :
    serveProxy network gateway now rest request = ⟨gateway, Failure.unauthorized.response, []⟩ := by
  rw [← authenticated_iff, Bool.not_eq_true] at h
  rw [serveProxy, h, Bool.not_false, if_pos rfl]

theorem serveProxy_of_authorised (h : gateway.Authorised now request.headers) :
    serveProxy network gateway now rest request = passed network gateway rest request := by
  rw [← authenticated_iff] at h
  rw [serveProxy, h, Bool.not_true, if_neg Bool.false_ne_true, passed]

theorem mem_methods_of_received (h : (passed network gateway rest request).received ≠ []) :
    request.method ∈ [.get, .head, .post, .put, .patch, .delete] := by
  unfold passed at h
  split at h
  · next hserves => exact Route.serves_proxy_iff.mp hserves
  · exact absurd rfl h

end Proxy

def refusal : ByteArray := "\x7b\"error\":\"Unauthorized\"\x7d".toUTF8

theorem body_unauthorized : Failure.unauthorized.response.body = refusal := by
  decide +kernel

theorem status_sessionStatus (gateway : Gateway) (now : Duration) (headers : Headers) :
    (gateway.sessionStatus now headers).status = 200 ↔ gateway.Authorised now headers := by
  rw [← authenticated_iff, sessionStatus]
  cases gateway.authenticated now headers with
  | false => exact iff_of_false (by decide) Bool.false_ne_true
  | true => exact iff_of_true rfl rfl

section Guard

variable {network : Backend.Network} {gateway : Gateway} {arrival : Arrival}

theorem allowed_of_received (h : (handle network gateway arrival).received ≠ []) :
    Below arrival.request.target.path ∧
      arrival.request.method ∈ [.get, .head, .post, .put, .patch, .delete] ∧
      gateway.Authorised arrival.now arrival.request.headers := by
  obtain ⟨rest, hroute, heq⟩ := received_inner h
  rw [received_handle, heq] at h
  by_cases hauth : gateway.Authorised arrival.now arrival.request.headers
  · rw [serveProxy_of_authorised hauth] at h
    exact ⟨below_iff.mpr ⟨rest, hroute⟩, mem_methods_of_received h, hauth⟩
  · rw [serveProxy_of_not_authorised hauth] at h
    exact absurd rfl h

theorem inner_of_not_authorised (hbelow : Below arrival.request.target.path)
    (hmethod : arrival.request.method ≠ .options)
    (hauth : ¬ gateway.Authorised arrival.now arrival.request.headers) :
    inner network gateway arrival = ⟨gateway, Failure.unauthorized.response, []⟩ := by
  obtain ⟨rest, hroute⟩ := below_iff.mp hbelow
  rw [inner_proxy hmethod hroute, serveProxy_of_not_authorised hauth]

theorem inner_of_authorised {rest : String}
    (hroute : Route.ofPath? arrival.request.target.path = some (.proxy rest))
    (hmethod : arrival.request.method ≠ .options)
    (hauth : gateway.Authorised arrival.now arrival.request.headers) :
    inner network gateway arrival = passed network gateway rest arrival.request := by
  rw [inner_proxy hmethod hroute, serveProxy_of_authorised hauth]

theorem inner_session (hpath : arrival.request.target.path = "/auth")
    (hmethod : arrival.request.method = .get) :
    inner network gateway arrival =
      ⟨gateway, gateway.sessionStatus arrival.now arrival.request.headers, []⟩ := by
  have hroute : Route.ofPath? "/auth" = some .auth := if_pos rfl
  rw [inner, if_neg (by simp [hmethod]), hpath, hroute, serveRoute, serveAuth, hmethod]

end Guard

section Relaying

variable {gateway : Gateway} {arrival : Arrival} {rest : String}

theorem inner_relay_of_route (network : Backend.Network)
    (hroute : Route.ofPath? arrival.request.target.path = some (.proxy rest))
    (hmethod : arrival.request.method ∈ [.get, .head, .post, .put, .patch, .delete])
    (hauth : gateway.Authorised arrival.now arrival.request.headers) :
    inner network gateway arrival =
      ⟨gateway, outcome (Backend.relay gateway.client network gateway.config rest arrival.request).result,
        (Backend.relay gateway.client network gateway.config rest arrival.request).received⟩ := by
  have hoptions : arrival.request.method ≠ .options := by
    intro hoptions
    rw [hoptions] at hmethod
    exact absurd hmethod (by decide)
  rw [inner_of_authorised hroute hoptions hauth, passed, if_pos (Route.serves_proxy_iff.mpr hmethod)]

theorem inner_relay (network : Backend.Network) (hbelow : Below arrival.request.target.path)
    (hpath : arrival.request.target.path = "/proxy" ++ rest)
    (hmethod : arrival.request.method ∈ [.get, .head, .post, .put, .patch, .delete])
    (hauth : gateway.Authorised arrival.now arrival.request.headers) :
    inner network gateway arrival =
      ⟨gateway, outcome (Backend.relay gateway.client network gateway.config rest arrival.request).result,
        (Backend.relay gateway.client network gateway.config rest arrival.request).received⟩ := by
  obtain ⟨rest', hroute⟩ := below_iff.mp hbelow
  obtain rfl : rest' = rest := by
    have htext := (Route.ofPath?_proxy_iff.mp hroute).1
    rw [hpath, String.toList_append] at htext
    exact (String.toList_inj.mp (List.append_cancel_left htext)).symm
  exact inner_relay_of_route network hroute hmethod hauth

end Relaying

/-- A request that reaches the backend goes on after `/proxy/`, has a method that is relayed, and
carries a session. Below the mount point a request without one is refused, with a text unless the
method is HEAD; one with a session is let through; and which of the two it is can be asked for with
the same cookies at `/auth`. -/
theorem guarded (network : Backend.Network) (gateway : Gateway) (arrival : Arrival) :
    let request := arrival.request
    let answer := handle network gateway arrival
    (answer.received ≠ [] →
      Below request.target.path ∧ request.method ∈ [.get, .head, .post, .put, .patch, .delete] ∧
        gateway.Authorised arrival.now request.headers) ∧
    (Below request.target.path → request.method ≠ .options →
      ¬ gateway.Authorised arrival.now request.headers →
        answer.received = [] ∧ answer.response.status = 401 ∧
          answer.response.body = if request.method = .head then .empty else refusal) ∧
    (Below request.target.path → request.method ≠ .options →
      gateway.Authorised arrival.now request.headers →
        ∃ rest, request.target.path = "/proxy" ++ rest ∧
          answer.received = (passed network gateway rest request).received ∧
          answer.response.status = (passed network gateway rest request).response.status ∧
          answer.response.body = if request.method = .head then .empty
            else (passed network gateway rest request).response.body) ∧
    ∀ inquiry : Arrival, inquiry.now = arrival.now → inquiry.request.target.path = "/auth" →
      inquiry.request.method = .get →
      inquiry.request.headers.all .cookie = request.headers.all .cookie →
        ((handle network gateway inquiry).response.status = 200 ↔
          gateway.Authorised arrival.now request.headers) := by
  intro request answer
  refine ⟨allowed_of_received, ?_, ?_, ?_⟩
  · intro hbelow hmethod hauth
    have hinner : inner network gateway arrival = ⟨gateway, Failure.unauthorized.response, []⟩ :=
      inner_of_not_authorised hbelow hmethod hauth
    refine ⟨?_, ?_, ?_⟩
    · rw [received_handle, hinner]
    · rw [status_handle, hinner]
      rfl
    · rw [body_handle, hinner, body_unauthorized]
  · intro hbelow hmethod hauth
    obtain ⟨rest, hroute⟩ := below_iff.mp hbelow
    have hinner : inner network gateway arrival = passed network gateway rest request :=
      inner_of_authorised hroute hmethod hauth
    refine ⟨rest, ?_, ?_, ?_, ?_⟩
    · rw [← String.toList_inj, String.toList_append]
      exact (Route.ofPath?_proxy_iff.mp hroute).1
    · rw [received_handle, hinner]
    · rw [status_handle, hinner]
    · rw [body_handle, hinner]
  · intro inquiry hnow hpath hmethod hcookies
    rw [status_handle, inner_session hpath hmethod, status_sessionStatus, hnow]
    exact authorised_congr hcookies

def small : Gateway where
  config := Config.small
  valid := Config.fault?_small
  ledger := .empty

/-- The cookie of a session from time zero. -/
def smallSession : Headers :=
  [(.cookie,
    .ofText "rampart_session=0.6378380f77bca1cb01a32087f879f28d37bd4acbd8a9532b8115d074c1a173f1")]

theorem authorised_small : small.Authorised .zero smallSession :=
  authenticated_iff.mp (by decide +kernel)

theorem guarded_with_session :
    let request : Request := ⟨.get, ⟨"/proxy/x", none⟩, smallSession, ⟨.empty, true⟩⟩
    (handle (fun _ _ => .broken) small ⟨.zero, .ofText "", request⟩).received ≠ [] ∧
      small.Authorised .zero request.headers := by
  intro request
  have hinner : inner (fun _ _ => .broken) small ⟨.zero, .ofText "", request⟩ =
      passed (fun _ _ => .broken) small "/x" request :=
    inner_of_authorised (by decide) (by decide) authorised_small
  have hreceived : (handle (fun _ _ => .broken) small ⟨.zero, .ofText "", request⟩).received ≠ [] := by
    rw [received_handle, hinner]
    exact List.ne_nil_of_length_pos (by decide +kernel)
  exact ⟨hreceived, ((guarded (fun _ _ => .broken) small ⟨.zero, .ofText "", request⟩).1 hreceived).2.2⟩

/-- To HEAD the refusal is told without its text. -/
theorem refused_without_body :
    ¬ ∀ (network : Backend.Network) (gateway : Gateway) (arrival : Arrival),
      Below arrival.request.target.path → arrival.request.method ≠ .options →
      ¬ gateway.Authorised arrival.now arrival.request.headers →
        (handle network gateway arrival).response.status = 401 ∧
          (handle network gateway arrival).response.body = refusal := by
  intro h
  have hrefused := h (fun _ _ => .refused) small
    ⟨.zero, .ofText "", ⟨.head, ⟨"/proxy/x", none⟩, [], ⟨.empty, true⟩⟩⟩ ⟨'x', [], rfl⟩ (by decide) ?_
  · exact absurd hrefused.2 (by decide +kernel)
  · rintro ⟨token, ⟨before, pair, after, hpairs, -, -⟩, -⟩
    have hnone : Session.Cookie.pairs [] = [] := rfl
    rw [hnone] at hpairs
    exact List.cons_ne_nil pair after (List.append_eq_nil_iff.mp hpairs.symm).2

end LoginGateway.Gateway
