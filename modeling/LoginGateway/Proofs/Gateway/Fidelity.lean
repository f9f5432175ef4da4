import LoginGateway.Proofs.Backend.Requestable
import LoginGateway.Proofs.Gateway.Guard

namespace LoginGateway.Gateway

open Backend Http

/-- A session's request below the mount point, with a method that is relayed and no dot segment. -/
structure Admitted (gateway : Gateway) (arrival : Arrival) (rest : String) : Prop where
  made : gateway.config.Made
  below : Below arrival.request.target.path
  path : arrival.request.target.path = "/proxy" ++ rest
  method : arrival.request.method ∈ [.get, .head, .post, .put, .patch, .delete]
  authorised : gateway.Authorised arrival.now arrival.request.headers
  plain : ∀ segment ∈ Url.Path.segmentsOf true rest.toList, ¬ Url.Path.IsDotSegment segment

structure Relayable (gateway : Gateway) (arrival : Arrival) (rest : String) : Prop
    extends Admitted gateway arrival rest where
  secret : ∃ secret, HeaderValue.ofString? gateway.config.backendSecret = some secret

def unavailable (fault : ClientFault) : Response where
  status := 502
  headers := [(.contentType, .ofText "application/json")]
  body := (Json.object [("detail", .string fault.message),
    ("error", .string "Backend unavailable")]).text.toUTF8

theorem body_unavailable_ne_empty (fault : ClientFault) : (unavailable fault).body ≠ .empty := by
  intro h
  have htext : (Json.object [("detail", .string fault.message),
      ("error", .string "Backend unavailable")]).text = "" := String.toByteArray_inj.mp h
  rw [Json.text, String.append_assoc, ← String.toList_inj, String.toList_append] at htext
  cases htext

/-- What comes of a request that is sent as `first`, for each reply to it that is not followed
elsewhere: how the gateway is left, what the client gets, and what was received. -/
structure Faithful (network : Network) (gateway : Gateway) (arrival : Arrival) (first : Outgoing) :
    Prop where
  refused : network [] first = .refused →
    handle network gateway arrival = ⟨gateway, delivered arrival (unavailable (.unsent first.url)), []⟩
  broken : network [] first = .broken →
    handle network gateway arrival =
      ⟨gateway, delivered arrival (unavailable (.unsent first.url)), [first]⟩
  once : ∀ status headers body complete,
    network [] first = .answered status headers body complete →
    (∀ next, gateway.client.redirection? first.url status headers = some next →
      Config.isWebScheme next.scheme = false) →
    (handle network gateway arrival).received = [first]
  whole : ∀ status headers body, network [] first = .answered status headers body true →
    gateway.client.redirection? first.url status headers = none →
    handle network gateway arrival =
      ⟨gateway, delivered arrival ⟨status,
        [(.contentType, (headers.first? .contentType).getD (.ofText "application/json"))], body⟩, [first]⟩
  cutShort : ∀ status headers body, network [] first = .answered status headers body false →
    gateway.client.redirection? first.url status headers = none →
    handle network gateway arrival = ⟨gateway, delivered arrival (unavailable .brokenBody), [first]⟩

section Relaying

variable {network : Network} {gateway : Gateway} {arrival : Arrival} {rest : String}

theorem Admitted.handle_of_relay (h : Admitted gateway arrival rest) {exchange : Exchange}
    (hrelay : relay gateway.client network gateway.config rest arrival.request = reported exchange) :
    handle network gateway arrival =
      ⟨gateway, delivered arrival (outcome (reported exchange).result), exchange.received⟩ := by
  obtain ⟨rest', hroute⟩ := below_iff.mp h.below
  have hserves : (Route.proxy rest').serves arrival.request.method = true :=
    Route.serves_proxy_iff.mpr h.method
  have hinner := inner_relay network h.below h.path h.method h.authorised
  have hanswer : handle network gateway arrival =
      ⟨(inner network gateway arrival).gateway, (handle network gateway arrival).response,
        (inner network gateway arrival).received⟩ := rfl
  rw [hanswer, response_handle hroute hserves, hinner, hrelay]
  rfl

theorem outcome_reported_error (received : List Outgoing) (fault : ClientFault) :
    outcome (reported ⟨received, .error fault⟩).result = unavailable fault := rfl

theorem outcome_reported_ok (received : List Outgoing) (response : Response) :
    outcome (reported ⟨received, .ok response⟩).result = relayedResponse response := rfl

theorem Relayable.faithful (h : Relayable gateway arrival rest) {first : Outgoing}
    (hrelay : relay gateway.client network gateway.config rest arrival.request =
      reported (gateway.client.follow network first.url Client.maxRedirects [] first)) :
    Faithful network gateway arrival first where
  refused hreply := by
    rw [Client.follow_of_refused hreply] at hrelay
    rw [h.handle_of_relay hrelay, outcome_reported_error]
  broken hreply := by
    rw [Client.follow_of_broken hreply] at hrelay
    rw [h.handle_of_relay hrelay, outcome_reported_error]
    rfl
  once status headers body complete hreply hstay := by
    cases hnext : gateway.client.redirection? first.url status headers with
    | none =>
      rw [Client.follow_of_not_redirected hreply hnext] at hrelay
      rw [h.handle_of_relay hrelay]
      rfl
    | some next =>
      rw [Client.maxRedirects, Client.follow_of_led_off_web hreply hnext (hstay next hnext)] at hrelay
      rw [h.handle_of_relay hrelay]
      rfl
  whole status headers body hreply hstay := by
    rw [Client.follow_of_not_redirected hreply hstay, if_pos rfl] at hrelay
    rw [h.handle_of_relay hrelay, outcome_reported_ok]
    rfl
  cutShort status headers body hreply hstay := by
    rw [Client.follow_of_not_redirected hreply hstay, if_neg Bool.false_ne_true] at hrelay
    rw [h.handle_of_relay hrelay, outcome_reported_error]
    rfl

end Relaying

/-- If there can be a request for the place at all, then whatever the network is like the same one is sent
first: with the client's method, and with its body exactly if the method allows for one and all of it has
arrived, is not empty and not too long. What the client gets is what comes of that. -/
theorem relayed_faithfully {gateway : Gateway} {arrival : Arrival} {rest : String}
    (h : Relayable gateway arrival rest) :
    (Requestable gateway.config rest arrival.request.target.query →
      ∃ first : Outgoing, first.method = arrival.request.method ∧
        (∀ octets, first.body = some octets ↔
          (arrival.request.method ≠ .get ∧ arrival.request.method ≠ .head) ∧
            arrival.request.body.complete = true ∧ 1 ≤ arrival.request.body.content.size ∧
            arrival.request.body.content.size ≤ 10 * 1024 * 1024 ∧
            octets = arrival.request.body.content) ∧
        ∀ network, Faithful network gateway arrival first) ∧
    (¬ Requestable gateway.config rest arrival.request.target.query →
      ∃ fault, ∀ network, handle network gateway arrival =
        ⟨gateway, delivered arrival (unavailable fault), []⟩) := by
  have hscheme := gateway.scheme_backendUrl
  have hdots := hasDotSegment_eq_false h.plain
  obtain ⟨secret, hsecret⟩ := h.secret
  by_cases hmakes : Requestable gateway.config rest arrival.request.target.query
  · obtain ⟨url, -, hrelay⟩ :=
      hmakes.relay_eq_follow gateway.client arrival.request h.made hscheme hdots hsecret
    refine ⟨fun _ => ⟨Client.firstRequest arrival.request.method url (relayedHeaders gateway.config secret)
      (relayedBody arrival.request.method arrival.request.body), rfl, fun octets => ?_,
      fun network => h.faithful (hrelay network)⟩, fun hnone => absurd hmakes hnone⟩
    exact relayedBody_eq_some_iff
  · obtain ⟨fault, hrelay⟩ :=
      relay_of_not_requestable gateway.client arrival.request h.made hscheme hdots hsecret hmakes
    refine ⟨fun hmakes' => absurd hmakes' hmakes, fun _ => ⟨fault, fun network => ?_⟩⟩
    rw [h.handle_of_relay (hrelay network), outcome_reported_error]

def smallArrival (method : Method) (body : Body) : Arrival :=
  ⟨.zero, .ofText "", ⟨method, ⟨"/proxy/x", none⟩, smallSession, body⟩⟩

theorem admitted_smallArrival {gateway : Gateway} (hmade : gateway.config.Made)
    (hauth : gateway.Authorised .zero smallSession) {method : Method}
    (hmethod : method ∈ [.get, .head, .post, .put, .patch, .delete]) (body : Body) :
    Admitted gateway (smallArrival method body) "/x" where
  made := hmade
  below := ⟨'x', [], (by decide : "/proxy/x".toList = "/proxy/".toList ++ ['x'])⟩
  path := (by decide : "/proxy/x" = "/proxy" ++ "/x")
  method := hmethod
  authorised := hauth
  plain := by
    intro segment hsegment hdot
    exact absurd (hasDotSegment_iff.mpr ⟨segment, hsegment, hdot⟩) (by decide +kernel)

theorem admitted_small {method : Method} (h : method ∈ [.get, .head, .post, .put, .patch, .delete])
    (body : Body) : Admitted small (smallArrival method body) "/x" :=
  admitted_smallArrival mountable_small.made authorised_small h body

theorem relayable_small {method : Method} (h : method ∈ [.get, .head, .post, .put, .patch, .delete])
    (body : Body) : Relayable small (smallArrival method body) "/x" :=
  ⟨admitted_small h body, .ofText "b", by decide +kernel⟩

theorem requestable_small : Requestable small.config "/x" none :=
  (requestable_iff mountable_small.made (.inl rfl)).mpr
    ⟨⟨"http", some ⟨"", none, some (.name "h"), none⟩, .rooted ["api", "fortress", "x"], none, none⟩,
      by decide +kernel, ⟨"/api/fortress/x", none⟩, by decide +kernel⟩

theorem relayed_faithfully_of_post :
    let octets := "\x7b\x7d".toUTF8
    let arrival := smallArrival .post ⟨octets, true⟩
    let headers : Headers := [(.setCookie, .ofText "a=b"), (.contentType, .ofText "text/plain")]
    ∃ first : Outgoing, first.method = .post ∧ first.body = some octets ∧
      ∀ network : Network, network [] first = .answered 201 headers "ok".toUTF8 true →
        handle network small arrival =
          ⟨small, delivered arrival ⟨201, [(.contentType, .ofText "text/plain")], "ok".toUTF8⟩,
            [first]⟩ := by
  intro octets arrival headers
  have hrelayable : Relayable small arrival "/x" := relayable_small (by decide) ⟨octets, true⟩
  obtain ⟨first, hmethod, hbody, hfaithful⟩ := (relayed_faithfully hrelayable).1 requestable_small
  refine ⟨first, hmethod, (hbody octets).mpr ⟨⟨by decide, by decide⟩, rfl, by decide, by decide, rfl⟩, ?_⟩
  intro network hreply
  exact (hfaithful network).whole 201 headers "ok".toUTF8 hreply rfl

/-- A backend whose host can be written in a URL and not in a request target. -/
def braced : Gateway where
  config := { Config.small with
    backendUrl := ⟨"http", some ⟨"", none, some (.name "\x7b"), none⟩, .rooted [""], none, none⟩ }
  valid := by decide +kernel
  ledger := .empty

theorem relayable_braced : Relayable braced (smallArrival .get ⟨.empty, true⟩) "/x" := by
  have hmade : braced.config.Made :=
    ⟨⟨"http://\x7b", by decide +kernel⟩, "/api/fortress", by decide +kernel⟩
  exact ⟨admitted_smallArrival hmade authorised_small (by decide) _, .ofText "b", by decide +kernel⟩

/-- There may be nothing that can be sent though the backend is there; HEAD is told of a failure without
its text; and a response that leads out of the web does not reach the client. -/
theorem relayed_otherwise :
    (¬ ∀ (network : Network) (gateway : Gateway) (arrival : Arrival) (rest : String),
      Relayable gateway arrival rest → (∀ sofar request, network sofar request = .broken) →
        (handle network gateway arrival).received.length = 1) ∧
    (¬ ∀ (network : Network) (gateway : Gateway) (arrival : Arrival) (rest : String),
      Relayable gateway arrival rest → (∀ sofar request, network sofar request = .refused) →
        ∃ fault, (handle network gateway arrival).response.body = (unavailable fault).body) ∧
    ¬ ∀ (network : Network) (gateway : Gateway) (arrival : Arrival) (rest : String) (status : Nat)
      (headers : Headers) (body : ByteArray), Relayable gateway arrival rest →
      (∀ sofar request, network sofar request = .answered status headers body true) →
      (handle network gateway arrival).received.length = 1 →
        (handle network gateway arrival).response.status = status := by
  refine ⟨fun h => ?_, fun h => ?_, fun h => ?_⟩
  · have hget := relayable_braced
    have hone := h (fun _ _ => .broken) braced _ "/x" hget fun _ _ => rfl
    rw [received_handle, inner_relay _ hget.below hget.path hget.method hget.authorised] at hone
    exact absurd hone (by decide +kernel)
  · have hhead : Relayable small (smallArrival .head ⟨.empty, true⟩) "/x" :=
      relayable_small (by decide) ⟨.empty, true⟩
    have hmethod : (smallArrival .head ⟨.empty, true⟩).request.method = .head := rfl
    obtain ⟨fault, hfault⟩ := h (fun _ _ => .refused) small _ "/x" hhead fun _ _ => rfl
    rw [body_handle, if_pos hmethod] at hfault
    exact body_unavailable_ne_empty fault hfault.symm
  · have hget : Relayable small (smallArrival .get ⟨.empty, true⟩) "/x" :=
      relayable_small (by decide) ⟨.empty, true⟩
    let network : Network := fun _ _ => .answered 302 [(.location, .ofText "mailto:a")] .empty true
    have hinner := inner_relay network hget.below hget.path hget.method hget.authorised
    have hstatus := h network small _ "/x" 302 _ _ hget (fun _ _ => rfl) ?_
    · rw [status_handle, hinner] at hstatus
      exact absurd hstatus (by decide +kernel)
    · rw [received_handle, hinner]
      decide +kernel

end LoginGateway.Gateway
