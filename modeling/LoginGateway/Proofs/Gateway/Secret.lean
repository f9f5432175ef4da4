import LoginGateway.Proofs.Backend.Redirect
import LoginGateway.Proofs.Gateway.Guard

namespace LoginGateway.Gateway

open Backend Http

section Received

variable {network : Network} {gateway : Gateway} {arrival : Arrival}

theorem received_eq_relay (h : (handle network gateway arrival).received ≠ []) :
    ∃ rest, (handle network gateway arrival).received =
      (relay gateway.client network gateway.config rest arrival.request).received := by
  obtain ⟨hbelow, hmethod, hauth⟩ := allowed_of_received h
  obtain ⟨rest, hroute⟩ := below_iff.mp hbelow
  refine ⟨rest, ?_⟩
  rw [received_handle, inner_relay_of_route network hroute hmethod hauth]

theorem chain_handle (network : Network) (arrival : Arrival) (hmade : gateway.config.Made) :
    (handle network gateway arrival).received = [] ∨
      ∃ first : Outgoing, first.url.SameOrigin gateway.config.backendUrl ∧
        CarriesSecret gateway.config first ∧
        Chain gateway.client network [] first (handle network gateway arrival).received := by
  by_cases h : (handle network gateway arrival).received = []
  · exact .inl h
  · obtain ⟨rest, hreceived⟩ := received_eq_relay h
    rw [hreceived]
    exact chain_relay hmade gateway.scheme_backendUrl

theorem carriesSecret_of_received (hmade : gateway.config.Made)
    (hname : Lasting gateway.config.secretHeader) :
    ∀ request ∈ (handle network gateway arrival).received, CarriesSecret gateway.config request := by
  obtain hnone | ⟨first, -, hsecret, hchain⟩ := chain_handle network arrival hmade
  · rw [hnone]
    exact List.forall_mem_nil _
  · exact hchain.forall hsecret fun previous status url =>
      (carriesSecret_redirected hname previous status url).mpr

theorem sendsOn_of_received (hmade : gateway.config.Made) {before after : List Outgoing}
    {previous next : Outgoing}
    (h : (handle network gateway arrival).received = before ++ previous :: next :: after) :
    ∃ status url, SendsOn gateway.client network before previous status url ∧
      next = gateway.client.redirected previous status url := by
  obtain hnone | ⟨first, -, -, hchain⟩ := chain_handle network arrival hmade
  · rw [h] at hnone
    cases before <;> cases hnone
  · exact hchain.redirected_of_append h

theorem first_of_received (hmade : gateway.config.Made) {first : Outgoing} {later : List Outgoing}
    (h : (handle network gateway arrival).received = first :: later) :
    CarriesSecret gateway.config first ∧ first.url.SameOrigin gateway.config.backendUrl := by
  obtain hnone | ⟨first', horigin, hsecret, hchain⟩ := chain_handle network arrival hmade
  · rw [h] at hnone
    cases hnone
  · obtain rfl := hchain.head_eq h
    exact ⟨hsecret, horigin⟩

end Received

/-- What is received first carries the secret and is addressed to the backend; what is received after it is
where the reply before sent the client on to, and still carries the secret if no redirect touches its name.
So the secret stays with the backend exactly if no redirect that takes it along leads elsewhere. -/
theorem secret_stays_iff (network : Network) (gateway : Gateway) (arrival : Arrival)
    (hmade : gateway.config.Made) :
    let config := gateway.config
    let received := (handle network gateway arrival).received
    (∀ first later, received = first :: later →
      CarriesSecret config first ∧ first.url.SameOrigin config.backendUrl) ∧
    (∀ before previous next after, received = before ++ previous :: next :: after →
      ∃ status url, SendsOn gateway.client network before previous status url ∧
        next = gateway.client.redirected previous status url) ∧
    (Lasting config.secretHeader → ∀ request ∈ received, CarriesSecret config request) ∧
    ((∀ request ∈ received, CarriesSecret config request →
        request.url.SameOrigin config.backendUrl) ↔
      ∀ before previous status url after, received = before ++ previous :: after → after ≠ [] →
        SendsOn gateway.client network before previous status url →
        CarriesSecret config (gateway.client.redirected previous status url) →
          url.SameOrigin config.backendUrl) := by
  intro config received
  have hfollow {before after : List Outgoing} {previous next : Outgoing}
      (h : received = before ++ previous :: next :: after) :
      ∃ status url, SendsOn gateway.client network before previous status url ∧
        next = gateway.client.redirected previous status url := sendsOn_of_received hmade h
  refine ⟨fun first later => first_of_received hmade, fun _ _ _ _ => hfollow,
    carriesSecret_of_received hmade, ?_⟩
  constructor
  · intro hstays before previous status url after hreceived hne hon hsecret
    obtain ⟨next, after, rfl⟩ := List.exists_cons_of_ne_nil hne
    obtain ⟨status', url', hon', rfl⟩ := hfollow hreceived
    obtain ⟨rfl, rfl⟩ := hon.unique hon'
    have hmem : gateway.client.redirected previous status url ∈ received := by
      rw [hreceived]
      exact List.mem_append_right before (List.mem_cons_of_mem _ List.mem_cons_self)
    exact hstays _ hmem hsecret
  · intro hredirects request hrequest hsecret
    obtain ⟨later, hreceived⟩ | ⟨before, previous, after, hreceived⟩ :=
      Lists.eq_cons_or_of_mem hrequest
    · exact (first_of_received hmade hreceived).2
    · obtain ⟨status, url, hon, rfl⟩ := hfollow hreceived
      rw [url_redirected]
      exact hredirects before previous status url _ hreceived (List.cons_ne_nil _ after) hon hsecret

/-- The first reply redirects the client, and nothing comes back after it. -/
def redirecting (location : String) : Network := fun sofar _ =>
  if sofar.isEmpty then .answered 302 [(.location, .ofText location)] .empty true else .broken

def smallRequest : Arrival :=
  ⟨.zero, .ofText "", ⟨.get, ⟨"/proxy/x", none⟩, smallSession, ⟨.empty, true⟩⟩⟩

/-- A redirect to another path of the backend takes the secret along, and it stays there. -/
theorem secret_stays_at_backend :
    let received := (handle (redirecting "/login") small smallRequest).received
    received.map (·.url.host?) = [some (.name "h"), some (.name "h")] ∧
      ∀ request ∈ received, CarriesSecret Config.small request := by
  intro received
  refine ⟨by decide +kernel, ?_⟩
  exact (secret_stays_iff (redirecting "/login") small smallRequest mountable_small.made).2.2.1 (by decide)

/-- So does a redirect to another host. -/
theorem secret_leaves_backend :
    ¬ ∀ (network : Network) (gateway : Gateway) (arrival : Arrival), gateway.config.Made →
      gateway.Authorised arrival.now arrival.request.headers →
      ∀ request ∈ (handle network gateway arrival).received, CarriesSecret gateway.config request →
        request.url.SameOrigin gateway.config.backendUrl := by
  intro h
  have hstays := h (redirecting "http://evil/") small smallRequest mountable_small.made authorised_small
  have hsecret : ∀ request ∈ (handle (redirecting "http://evil/") small smallRequest).received,
      CarriesSecret Config.small request :=
    carriesSecret_of_received mountable_small.made (by decide)
  have hsecond : (handle (redirecting "http://evil/") small smallRequest).received[1]?.map
      (·.url.host?) = some (some (.name "evil")) := by
    decide +kernel
  obtain ⟨request, hrequest, hhost⟩ := Option.map_eq_some_iff.mp hsecond
  have hmem := List.mem_of_getElem? hrequest
  have hsame := (hstays request hmem (hsecret request hmem)).host
  rw [hhost] at hsame
  exact absurd hsame (by decide)

end LoginGateway.Gateway
