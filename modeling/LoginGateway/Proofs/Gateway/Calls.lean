import LoginGateway.Proofs.Backend.Alike
import LoginGateway.Proofs.Gateway.Reach

namespace LoginGateway.Gateway

open Backend Http

/-- What a request that is sent as `first` turns into, and the answer that comes of it. -/
structure Course (client : Client) (network : Network) (arrival : Arrival) (first : Outgoing)
    (answer : Answer) : Prop where
  unreached : answer.received = [] ↔ network [] first = .refused
  begins : ∀ request later, answer.received = request :: later → request = first
  bounded : answer.received.length ≤ 11
  /-- Each request but the first was called for by the reply to the one before it. -/
  led : ∀ before previous next after, answer.received = before ++ previous :: next :: after →
    ∃ status url, SendsOn client network before previous status url ∧
      next = client.redirected previous status url ∧
      (client.redirectedMethod = Client.standard.redirectedMethod →
        (next.method ≠ previous.method ↔
          status = 303 ∧ previous.method ≠ .get ∧ previous.method ≠ .head ∨
            (status = 301 ∨ status = 302) ∧ previous.method = .post))
  /-- The client gets the response to the request that was received last. -/
  ended : ∀ response, Ended client network answer.received response →
    answer.response = delivered arrival (relayedResponse response)
  unended : (∀ response, ¬ Ended client network answer.received response) →
    ∃ fault, answer.response = delivered arrival (unavailable fault)
  single : ∀ status headers body, network [] first = .answered status headers body true →
    (answer.received = [first] ∧ answer.response.status = status ↔
      client.redirection? first.url status headers = none)

theorem mem_redirectStatuses_of_redirection? {client : Client} {url next : Url} {status : Nat}
    {headers : Headers}
    (h : client.redirection? url status headers = some next) : status ∈ Client.redirectStatuses := by
  by_contra hnot
  rw [← List.contains_iff_mem] at hnot
  rw [Client.redirection?, if_neg hnot] at h
  cases h

section Following

variable {client : Client} {network : Network} {first : Outgoing}

theorem outcome_follow_of_unended
    (hnone : ∀ response, ¬ Ended client network
      (client.follow network first.url Client.maxRedirects [] first).received response) :
    ∃ fault, outcome (reported (client.follow network first.url Client.maxRedirects [] first)).result =
      unavailable fault := by
  cases hresult : (client.follow network first.url Client.maxRedirects [] first).result with
  | error fault =>
    refine ⟨fault, ?_⟩
    rw [reported, hresult]
    rfl
  | ok response =>
    exact absurd ((result_follow_eq_ok_iff _ _ _ not_ended_nil).mp hresult) (hnone response)

theorem single_follow_iff {status : Nat} {headers : Headers} {body : ByteArray}
    (hreply : network [] first = .answered status headers body true) :
    (client.follow network first.url Client.maxRedirects [] first).received = [first] ∧
        (outcome (reported (client.follow network first.url Client.maxRedirects [] first)).result).status =
          status ↔
      client.redirection? first.url status headers = none := by
  cases hnext : client.redirection? first.url status headers with
  | none =>
    rw [Client.follow_of_not_redirected hreply hnext]
    exact iff_of_true ⟨rfl, rfl⟩ rfl
  | some next =>
    have hredirects : SendsOn client network [] first status next := ⟨headers, body, true, hreply, hnext⟩
    refine iff_of_false ?_ (Option.some_ne_none next)
    rintro ⟨hone, hstatus⟩
    -- the one reply is not the last word, and its status is none that a failure has
    obtain ⟨fault, hfault⟩ := outcome_follow_of_unended fun response => hone ▸ hredirects.not_ended
    rw [hfault] at hstatus
    have hmem : (unavailable fault).status ∈ Client.redirectStatuses :=
      hstatus ▸ mem_redirectStatuses_of_redirection? hnext
    exact absurd hmem (by decide : 502 ∉ Client.redirectStatuses)

theorem course_follow (client : Client) (network : Network) (gateway : Gateway) (arrival : Arrival)
    (first : Outgoing) :
    let exchange := client.follow network first.url Client.maxRedirects [] first
    Course client network arrival first
      ⟨gateway, delivered arrival (outcome (reported exchange).result), exchange.received⟩ := by
  intro exchange
  obtain ⟨chain, hreceived, hchain⟩ := chain_follow client network first.url Client.maxRedirects [] first
  rw [List.nil_append] at hreceived
  exact {
    unreached := Client.received_follow_eq_nil_iff
    begins := fun request later hlater => hchain.head_eq (hreceived.symm.trans hlater)
    bounded := length_received_follow client network first.url Client.maxRedirects [] first
    led := by
      intro before previous next after hafter
      obtain ⟨status, url, hon, rfl⟩ := hchain.redirected_of_append (hreceived.symm.trans hafter)
      refine ⟨status, url, hon, rfl, fun hstandard => ?_⟩
      rw [method_redirected, hstandard]
      exact redirectedMethod_standard_ne_iff status previous.method
    ended := by
      intro response hended
      have hresult : exchange.result = .ok response :=
        (result_follow_eq_ok_iff _ _ _ not_ended_nil).mpr hended
      rw [reported, hresult]
      rfl
    unended := by
      intro hnone
      obtain ⟨fault, hfault⟩ := outcome_follow_of_unended hnone
      exact ⟨fault, congrArg (delivered arrival) hfault⟩
    single := fun _ _ _ hreply => single_follow_iff hreply }

end Following

/-- Of a session's request nothing is sent, or what is sent first has its method; more is sent only
where a reply redirects, and the client then gets the response to the last of them. -/
theorem one_call_iff {gateway : Gateway} {arrival : Arrival} {rest : String}
    (h : Admitted gateway arrival rest) :
    (Sendable gateway.config rest arrival.request.target.query →
      ∃ first : Outgoing, first.method = arrival.request.method ∧
        ∀ network, Course gateway.client network arrival first (handle network gateway arrival)) ∧
    (¬ Sendable gateway.config rest arrival.request.target.query →
      ∃ fault, ∀ network,
        handle network gateway arrival = ⟨gateway, delivered arrival (unavailable fault), []⟩) := by
  refine ⟨fun hsendable => ?_, h.handle_of_not_sendable⟩
  obtain ⟨-, first, -, -, hmethod, -, hrelay⟩ := h.exists_first hsendable
  refine ⟨first, hmethod, fun network => ?_⟩
  rw [h.handle_of_relay (hrelay network)]
  exact course_follow gateway.client network gateway arrival first

theorem one_call_of_conflict :
    let arrival := smallArrival .post ⟨"\x7b\x7d".toUTF8, true⟩
    ∃ first : Outgoing, first.method = .post ∧ ∀ network : Network,
      network [] first = .answered 409 [(.location, .ofText "/login")] .empty true →
        (handle network small arrival).received = [first] ∧
          (handle network small arrival).response.status = 409 := by
  intro arrival
  have hadmitted : Admitted small arrival "/x" :=
    admitted_small (by decide) _
  obtain ⟨first, hmethod, hcourse⟩ := (one_call_iff hadmitted).1 sendable_small
  exact ⟨first, hmethod, fun network hreply => ((hcourse network).single 409 _ _ hreply).mpr rfl⟩

def afterWrite : Network :=
  inTurn [.answered 302 [(.location, .ofText "/login")] .empty true, .answered 200 [] .empty true]

/-- A write that is redirected becomes two calls, the second of them a GET, and what the client gets is the
response to that. -/
theorem two_calls_of_redirect :
    (¬ ∀ (network : Network) (gateway : Gateway) (arrival : Arrival) (rest : String),
      Admitted gateway arrival rest → (handle network gateway arrival).received.length ≤ 1) ∧
    (¬ ∀ (network : Network) (gateway : Gateway) (arrival : Arrival) (rest : String),
      Admitted gateway arrival rest → ∀ request ∈ (handle network gateway arrival).received,
        request.method = arrival.request.method) ∧
    ¬ ∀ (network : Network) (gateway : Gateway) (arrival : Arrival) (rest : String),
      Admitted gateway arrival rest →
      ∀ first later status headers body, (handle network gateway arrival).received = first :: later →
        network [] first = .answered status headers body true → 200 ≤ status →
          (handle network gateway arrival).response.status = status := by
  have hadmitted : Admitted small (smallArrival .post ⟨"\x7b\x7d".toUTF8, true⟩) "/x" :=
    admitted_small (by decide) _
  have hinner :=
    inner_relay afterWrite hadmitted.below hadmitted.path hadmitted.method hadmitted.authorised
  refine ⟨fun h => ?_, fun h => ?_, fun h => ?_⟩
  · have honce := h afterWrite small _ "/x" hadmitted
    rw [received_handle, hinner] at honce
    exact absurd honce (by decide +kernel)
  · have hpost := h afterWrite small _ "/x" hadmitted
    rw [received_handle, hinner] at hpost
    exact absurd (List.all_eq_true.mpr fun request hrequest => decide_eq_true (hpost request hrequest))
      (by decide +kernel)
  · have hstatus := h afterWrite small _ "/x" hadmitted
    rw [received_handle, status_handle, hinner] at hstatus
    obtain ⟨first, later, hlater⟩ := List.exists_cons_of_length_pos
      (by decide +kernel : 0 < (relay small.client afterWrite small.config "/x"
        (smallArrival .post ⟨"\x7b\x7d".toUTF8, true⟩).request).received.length)
    exact absurd (hstatus first later 302 _ _ hlater rfl (by decide)) (by decide +kernel)

end LoginGateway.Gateway
