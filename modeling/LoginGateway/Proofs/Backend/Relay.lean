import LoginGateway.Backend.Relay
import LoginGateway.Proofs.Backend.Address
import LoginGateway.Proofs.Backend.Client

namespace LoginGateway.Backend

variable {config : Config} {rest : String}

def reported (exchange : Exchange) : Relayed :=
  ⟨exchange.received, match exchange.result with
    | .ok response => .ok (relayedResponse response)
    | .error fault => .error (.backendUnavailable fault.message)⟩

theorem received_reported (exchange : Exchange) : (reported exchange).received = exchange.received := rfl

theorem reported_error (received : List Outgoing) (fault : ClientFault) :
    reported ⟨received, .error fault⟩ = ⟨received, .error (.backendUnavailable fault.message)⟩ := rfl

section Relaying

variable {client : Client} {network : Network} {request : Http.Request}

theorem relay_of_hasDotSegment (h : hasDotSegment rest = true) :
    relay client network config rest request = ⟨[], .error .badRequest⟩ := by
  rw [relay, if_pos h]

theorem relay_of_no_secret (h : hasDotSegment rest = false)
    (hsecret : Http.HeaderValue.ofString? config.backendSecret = none) :
    relay client network config rest request = reported ⟨[], .error .unbuildable⟩ := by
  rw [relay, h, if_neg Bool.false_ne_true, hsecret, reported_error]

theorem relay_eq_send {secret : Http.HeaderValue} (h : hasDotSegment rest = false)
    (hsecret : Http.HeaderValue.ofString? config.backendSecret = some secret) :
    relay client network config rest request =
      reported (client.send network request.method (address config rest request.target.query)
        (relayedHeaders config secret) (relayedBody request.method request.body)) := by
  rw [relay, h, if_neg Bool.false_ne_true, hsecret]
  dsimp only
  generalize client.send network _ _ _ _ = exchange
  obtain ⟨received, result⟩ := exchange
  cases result with
  | error fault => rfl
  | ok response => rfl

theorem relay_cases (client : Client) (network : Network) (config : Config) (rest : String)
    (request : Http.Request) :
    relay client network config rest request = ⟨[], .error .badRequest⟩ ∨
      relay client network config rest request = reported ⟨[], .error .unbuildable⟩ ∨
      ∃ secret, Http.HeaderValue.ofString? config.backendSecret = some secret ∧
        relay client network config rest request =
          reported (client.send network request.method (address config rest request.target.query)
            (relayedHeaders config secret) (relayedBody request.method request.body)) := by
  cases hdots : hasDotSegment rest with
  | true => exact .inl (relay_of_hasDotSegment hdots)
  | false =>
    cases hsecret : Http.HeaderValue.ofString? config.backendSecret with
    | none => exact .inr (.inl (relay_of_no_secret hdots hsecret))
    | some secret => exact .inr (.inr ⟨secret, rfl, relay_eq_send hdots hsecret⟩)

theorem relay_of_not_received (h : (relay client network config rest request).received = []) :
    (relay client network config rest request).result = .error .badRequest ∨
      ∃ detail, (relay client network config rest request).result =
        .error (.backendUnavailable detail) := by
  obtain hrefused | hunbuilt | ⟨secret, -, hsent⟩ := relay_cases client network config rest request
  · rw [hrefused]
    exact .inl rfl
  · rw [hunbuilt]
    exact .inr ⟨_, rfl⟩
  · rw [hsent] at h ⊢
    rw [received_reported] at h
    obtain ⟨fault, hfault⟩ := Client.result_of_not_received _ _ _ _ h
    rw [reported, hfault]
    exact .inr ⟨_, rfl⟩

end Relaying

theorem result_relay (client : Client) (network : Network) (config : Config) (rest : String)
    (request : Http.Request) :
    (∃ response, (relay client network config rest request).result = .ok (relayedResponse response)) ∨
      ∃ failure, (relay client network config rest request).result = .error failure := by
  obtain hrefused | hunbuilt | ⟨secret, -, hsent⟩ := relay_cases client network config rest request
  · rw [hrefused]
    exact .inr ⟨_, rfl⟩
  · rw [hunbuilt]
    exact .inr ⟨_, rfl⟩
  · rw [hsent, reported]
    dsimp only
    split
    · exact .inl ⟨_, rfl⟩
    · exact .inr ⟨_, rfl⟩

end LoginGateway.Backend
