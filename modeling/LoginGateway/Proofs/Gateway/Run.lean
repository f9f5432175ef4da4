import LoginGateway.Proofs.Gateway.Login

namespace LoginGateway.Gateway

open Http

/-- What happens to a gateway. Each reads the clock anew, and the clock may have gone either way. -/
inductive Action where
  | request (network : Backend.Network) (arrival : Arrival)
  | sweep (now : Duration)

def step (gateway : Gateway) : Action → Gateway
  | .request network arrival => (handle network gateway arrival).gateway
  | .sweep now => gateway.sweep now

def run (gateway : Gateway) (actions : List Action) : Gateway := actions.foldl step gateway

theorem start_eq_ok_iff {config : Config} {client : Backend.Client} {commit? : Option Build.Commit}
    {gateway : Gateway} :
    start config client commit? = .ok gateway ↔ gateway.config = config ∧ gateway.ledger = .empty ∧
      gateway.client = client ∧ gateway.commit? = commit? := by
  unfold start
  split
  · next fault hfault =>
    refine iff_of_false (by rintro ⟨⟩) ?_
    rintro ⟨rfl, -⟩
    rw [gateway.valid] at hfault
    cases hfault
  · obtain ⟨config', valid, ledger, client', commit'⟩ := gateway
    rw [Except.ok.injEq, Gateway.mk.injEq, eq_comm, @eq_comm _ Attempts.Ledger.empty, @eq_comm _ client,
      @eq_comm _ commit?]

section Settings

variable (network : Backend.Network) (gateway : Gateway) (now : Duration)

theorem config_login (headers : Headers) (body : Body) :
    (gateway.login now headers body).2.config = gateway.config := by
  have hcases := gateway.login_cases now headers body
  generalize gateway.login now headers body = ended at hcases ⊢
  cases hcases with
  | limited | malformed | mismatched | matched => rfl

theorem config_handle (arrival : Arrival) :
    (handle network gateway arrival).gateway.config = gateway.config := by
  by_cases hlogin : IsLogin arrival.request
  · rw [gateway_handle_of_isLogin hlogin, config_login]
  · rw [gateway_handle_of_not_isLogin hlogin]

theorem config_step (action : Action) : (gateway.step action).config = gateway.config := by
  cases action with
  | request network arrival => exact config_handle network gateway arrival
  | sweep now => rfl

theorem config_run (actions : List Action) : (gateway.run actions).config = gateway.config := by
  induction actions generalizing gateway with
  | nil => rfl
  | cons action actions ih =>
    rw [run, List.foldl_cons]
    exact (ih (gateway.step action)).trans (gateway.config_step action)

end Settings

theorem codec_eq_of_config {gateway gateway' : Gateway} (h : gateway.config = gateway'.config) :
    gateway.codec = gateway'.codec := by
  simp only [codec, h]

end LoginGateway.Gateway
