import LoginGateway.Proofs.Gateway.Fidelity

namespace LoginGateway.Gateway

open Backend Http

/-- There can be a request for the place, and it can carry the secret. -/
structure Sendable (config : Config) (rest : String) (query : Option String) : Prop where
  secret : ∀ c ∈ config.backendSecret.toList, ¬ HeaderValue.IsControl c
  place : Requestable config rest query

namespace Admitted

variable {gateway : Gateway} {arrival : Arrival} {rest : String} (h : Admitted gateway arrival rest)
include h

theorem handle_of_unsent {network : Network} {fault : ClientFault}
    (hrelay : relay gateway.client network gateway.config rest arrival.request =
      reported ⟨[], .error fault⟩) :
    handle network gateway arrival = ⟨gateway, delivered arrival (unavailable fault), []⟩ := by
  rw [h.handle_of_relay hrelay, outcome_reported_error]

theorem handle_of_isControl (hcontrol : ∃ c ∈ gateway.config.backendSecret.toList, HeaderValue.IsControl c)
    (network : Network) :
    handle network gateway arrival = ⟨gateway, delivered arrival (unavailable .unbuildable), []⟩ := by
  have hnone : HeaderValue.ofString? gateway.config.backendSecret = none := by
    rw [Option.eq_none_iff_forall_not_mem]
    intro secret hsecret
    obtain ⟨c, hc, hcontrol⟩ := hcontrol
    exact HeaderValue.exists_ofString?_iff.mp ⟨secret, hsecret⟩ c hc hcontrol
  exact h.handle_of_unsent (relay_of_no_secret (hasDotSegment_eq_false h.plain) hnone)

theorem exists_first (hsendable : Sendable gateway.config rest arrival.request.target.query) :
    ∃ (url : Url) (first : Outgoing),
      Url.parse (address gateway.config rest arrival.request.target.query) = .ok url ∧
      first.url = Client.requested url ∧ first.method = arrival.request.method ∧
        Presents gateway.config first ∧
      ∀ network, relay gateway.client network gateway.config rest arrival.request =
        reported (gateway.client.follow network first.url Client.maxRedirects [] first) := by
  obtain ⟨secret, hsecret⟩ := HeaderValue.exists_ofString?_iff.mpr hsendable.secret
  obtain ⟨url, hurl, hrelay⟩ := hsendable.place.relay_eq_follow gateway.client arrival.request h.made
    gateway.scheme_backendUrl (hasDotSegment_eq_false h.plain) hsecret
  exact ⟨url, _, hurl, rfl, rfl,
    presents_firstRequest h.made gateway.scheme_backendUrl hsecret hurl _ _, hrelay⟩

theorem handle_of_not_sendable (hnot : ¬ Sendable gateway.config rest arrival.request.target.query) :
    ∃ fault, ∀ network,
      handle network gateway arrival = ⟨gateway, delivered arrival (unavailable fault), []⟩ := by
  by_cases hclean : ∀ c ∈ gateway.config.backendSecret.toList, ¬ HeaderValue.IsControl c
  · obtain ⟨secret, hsecret⟩ := HeaderValue.exists_ofString?_iff.mpr hclean
    obtain ⟨fault, hrelay⟩ := relay_of_not_requestable gateway.client arrival.request h.made
      gateway.scheme_backendUrl (hasDotSegment_eq_false h.plain) hsecret fun hplace =>
        hnot ⟨hclean, hplace⟩
    exact ⟨fault, fun network => h.handle_of_unsent (hrelay network)⟩
  · simp only [not_forall, not_not] at hclean
    obtain ⟨c, hc, hcontrol⟩ := hclean
    exact ⟨.unbuildable, h.handle_of_isControl ⟨c, hc, hcontrol⟩⟩

end Admitted

/-- If the secret has no control character and there can be a request for the place, the same one is sent
whatever the network is like; it carries the secret, and it is received unless there is no connection.
Otherwise nothing is ever sent, and for want of a secret the client is told that nothing could be built. -/
theorem received_iff_sendable {gateway : Gateway} {arrival : Arrival} {rest : String}
    (h : Admitted gateway arrival rest) :
    (Sendable gateway.config rest arrival.request.target.query →
      ∃ first : Outgoing, first.method = arrival.request.method ∧ Presents gateway.config first ∧
        ∀ network, (∃ later, (handle network gateway arrival).received = first :: later) ↔
          network [] first ≠ .refused) ∧
    (¬ Sendable gateway.config rest arrival.request.target.query →
      ∃ fault, ∀ network,
        handle network gateway arrival = ⟨gateway, delivered arrival (unavailable fault), []⟩) ∧
    ((∃ c ∈ gateway.config.backendSecret.toList, HeaderValue.IsControl c) → ∀ network,
      handle network gateway arrival =
        ⟨gateway, delivered arrival (unavailable .unbuildable), []⟩) := by
  refine ⟨fun hsendable => ?_, h.handle_of_not_sendable, h.handle_of_isControl⟩
  obtain ⟨-, first, -, -, hmethod, hpresents, hrelay⟩ := h.exists_first hsendable
  refine ⟨first, hmethod, hpresents, fun network => ?_⟩
  rw [h.handle_of_relay (hrelay network)]
  exact Client.exists_received_follow_iff

theorem sendable_small : Sendable small.config "/x" none :=
  ⟨List.all_iff_forall_prop.mp (by decide), requestable_small⟩

theorem received_of_small :
    let arrival := smallArrival .put ⟨"\x7b\x7d".toUTF8, true⟩
    ∃ first : Outgoing, first.method = .put ∧ Presents small.config first ∧ ∀ network : Network,
      network [] first ≠ .refused → ∃ later, (handle network small arrival).received = first :: later := by
  intro arrival
  have hadmitted : Admitted small arrival "/x" :=
    admitted_small (by decide) _
  obtain ⟨first, hmethod, hpresents, hreceived⟩ := (received_iff_sendable hadmitted).1 sendable_small
  exact ⟨first, hmethod, hpresents, fun network => (hreceived network).mpr⟩

/-- A gateway whose secret was read with the line break after it; its settings have no fault. -/
def wrapped : Gateway where
  config := { Config.small with backendSecret := "b\n" }
  valid := by decide +kernel
  ledger := .empty

/-- A gateway that runs may not be able to send anything, though the backend is there. -/
theorem nothing_received_of_wrapped :
    ¬ ∀ (network : Network) (gateway : Gateway) (arrival : Arrival) (rest : String),
      Admitted gateway arrival rest → (∀ sofar request, network sofar request ≠ .refused) →
        (handle network gateway arrival).received ≠ [] := by
  intro h
  have hmade : wrapped.config.Made := ⟨mountable_small.made.backendUrl, mountable_small.made.pathPrefix⟩
  have hadmitted : Admitted wrapped (smallArrival .get ⟨.empty, true⟩) "/x" :=
    admitted_smallArrival hmade authorised_small (by decide) _
  have hunsent := hadmitted.handle_of_isControl ⟨'\n', by decide, by decide⟩ fun _ _ => .broken
  refine h (fun _ _ => .broken) wrapped _ "/x" hadmitted (fun _ _ => by rintro ⟨⟩) ?_
  rw [hunsent]

end LoginGateway.Gateway
