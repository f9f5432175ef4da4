import LoginGateway.Proofs.Failure
import LoginGateway.Proofs.Gateway.Run

namespace LoginGateway

open Attempts

namespace Attempts

variable {policy : Policy} {now time : Duration} {source : String} {record : Record} {ledger : Ledger}

namespace Record

theorem Expired.mono (h : record.Expired policy now) (htime : now ≤ time) :
    record.Expired policy time := by
  simp only [Expired, Duration.lt_def, Duration.le_def, Duration.nanos_since] at h htime ⊢
  omega

end Record

namespace Ledger

/-- The source has its record still, or has lost it since the window of the record was over by `time`. -/
def Remains (policy : Policy) (source : String) (record : Record) (time : Duration) (ledger : Ledger) :
    Prop :=
  ledger.find? source = some record ∨ ledger.find? source = none ∧ record.Expired policy time

theorem Remains.sweep (h : ledger.Remains policy source record time) (hnow : now ≤ time) :
    (ledger.sweep policy now).Remains policy source record time := by
  rw [Remains, find?_sweep]
  obtain hfound | ⟨hnone, hexp⟩ := h
  · rw [hfound]
    by_cases hover : record.Expired policy now
    · exact .inr ⟨by simp [Option.filter, hover], hover.mono hnow⟩
    · exact .inl (by simp [Option.filter, hover])
  · rw [hnone]
    exact .inr ⟨rfl, hexp⟩

theorem Remains.limited_iff (h : ledger.Remains policy source record time)
    (hfull : ¬ record.count < policy.maxAttempts) :
    (∃ wait, (ledger.check policy time source).1 = .limited wait) ↔ ¬ record.Expired policy time := by
  rw [fst_check]
  obtain hfound | ⟨hnone, hexp⟩ := h
  · rw [hfound]
    by_cases hexp : record.Expired policy time
    · rw [Record.attempt_of_expired hexp]
      exact iff_of_false (by rintro ⟨wait, ⟨⟩⟩) (not_not_intro hexp)
    · rw [Record.attempt_of_not_expired hexp, if_neg hfull]
      exact iff_of_true ⟨_, rfl⟩ hexp
  · rw [hnone]
    exact iff_of_false (by rintro ⟨wait, ⟨⟩⟩) (not_not_intro hexp)

end Ledger

end Attempts

namespace Gateway

open Http

def Action.time : Action → Duration
  | request _ arrival => arrival.now
  | sweep now => now

/-- The clock never goes back from one action to the next. -/
def Forward (actions : List Action) : Prop := (actions.map Action.time).Pairwise (· ≤ ·)

def Action.IsLoginOf (source : String) : Action → Prop
  | request _ arrival => IsLogin arrival.request ∧ Login.source arrival.request.headers = source
  | sweep _ => False

theorem time_le_of_forward {actions : List Action} {last : Action} (h : Forward (actions ++ [last])) :
    ∀ action ∈ actions, action.time ≤ last.time := by
  rw [Forward, List.map_append, List.pairwise_append] at h
  intro action haction
  exact h.2.2 _ (List.mem_map_of_mem haction) _ (List.mem_map_of_mem List.mem_cons_self)

section Steps

variable {gateway : Gateway} {action : Action} {time : Duration} {source : String} {record : Record}

theorem opened_step {p : Duration → Prop} (h : gateway.ledger.Opened p) (htime : p action.time) :
    (gateway.step action).ledger.Opened p := by
  cases action with
  | request network arrival =>
    rw [step]
    by_cases hlogin : IsLogin arrival.request
    · have hcounted : (gateway.counted arrival.now arrival.request.headers).2.Opened p :=
        h.check htime gateway.config.attempts _
      rw [gateway_handle_of_isLogin hlogin]
      obtain hledger | hledger := (gateway.login_cases arrival.now arrival.request.headers
        arrival.request.body).ledger_eq_or
      · rw [hledger]
        exact hcounted
      · rw [hledger]
        exact hcounted.keep _
    · rw [gateway_handle_of_not_isLogin hlogin]
      exact h
  | sweep now => exact h.keep _

theorem opened_run {p : Duration → Prop} {actions : List Action} (h : gateway.ledger.Opened p)
    (htime : ∀ action ∈ actions, p action.time) : (gateway.run actions).ledger.Opened p := by
  induction actions generalizing gateway with
  | nil => exact h
  | cons action actions ih =>
    rw [List.forall_mem_cons] at htime
    exact ih (opened_step h htime.1) htime.2

theorem remains_step (h : gateway.ledger.Remains gateway.config.attempts source record time)
    (htime : action.time ≤ time) (hother : ¬ action.IsLoginOf source) :
    (gateway.step action).ledger.Remains (gateway.step action).config.attempts source record time := by
  rw [config_step]
  cases action with
  | request network arrival =>
    rw [step]
    by_cases hlogin : IsLogin arrival.request
    · have hne : source ≠ Login.source arrival.request.headers := fun heq => hother ⟨hlogin, heq.symm⟩
      have hsame := (gateway.login_cases arrival.now arrival.request.headers
        arrival.request.body).find?_of_ne hne
      rw [gateway_handle_of_isLogin hlogin, Ledger.Remains, hsame]
      exact h
    · rw [gateway_handle_of_not_isLogin hlogin]
      exact h
  | sweep now => exact h.sweep htime

theorem remains_run {actions : List Action}
    (h : gateway.ledger.Remains gateway.config.attempts source record time)
    (htime : ∀ action ∈ actions, action.time ≤ time)
    (hother : ∀ action ∈ actions, ¬ action.IsLoginOf source) :
    (gateway.run actions).ledger.Remains (gateway.run actions).config.attempts source record time := by
  induction actions generalizing gateway with
  | nil => exact h
  | cons action actions ih =>
    rw [List.forall_mem_cons] at htime hother
    exact ih (remains_step h htime.1 hother.1) htime.2 hother.2

end Steps

section Waiting

variable {policy : Policy} {first later wait : Duration} {record : Record}

theorem not_expired_iff (hstart : record.windowStart ≤ first) (hopen : ¬ record.Expired policy first)
    (hwait : wait = policy.window.since (first.since record.windowStart)) :
    ¬ record.Expired policy later ↔ later.nanos ≤ first.nanos + wait.nanos := by
  subst hwait
  simp only [Record.Expired, Duration.lt_def, Duration.le_def, Duration.nanos_since] at hstart hopen ⊢
  omega

theorem all_retryAfter (wait : Duration) :
    (Failure.rateLimited wait).response.headers.all .retryAfter =
      [.ofNat (Failure.retrySeconds wait).toNat] := rfl

variable {network : Backend.Network} {gateway : Gateway} {login : Arrival} {source : String}

theorem status_handle_eq_limited_iff (hlogin : IsLogin login.request) :
    (handle network gateway login).response.status = 429 ↔
      ∃ wait, (gateway.counted login.now login.request.headers).1 = .limited wait := by
  rw [status_handle, inner_of_isLogin hlogin]
  exact (gateway.login_cases login.now login.request.headers login.request.body).status_eq_limited_iff

theorem refused_of_limited (network : Backend.Network) (hlogin : IsLogin login.request)
    (h : (gateway.counted login.now login.request.headers).1 = .limited wait) :
    let answer := handle network gateway login
    answer.gateway = gateway ∧ answer.response.status = 429 ∧
      answer.response.headers.all .retryAfter = [.ofNat (Failure.retrySeconds wait).toNat] := by
  intro answer
  have hinner : inner network gateway login = _ := inner_of_limited hlogin h
  refine ⟨congrArg Answer.gateway hinner, ?_, ?_⟩
  · rw [status_handle, hinner]
    rfl
  · rw [all_handle (by decide), hinner, all_retryAfter]

theorem refused_again_iff
    (hremains : gateway.ledger.Remains gateway.config.attempts source record login.now)
    (hfull : ¬ record.count < gateway.config.attempts.maxAttempts)
    (hlogin : (Action.request network login).IsLoginOf source) :
    (handle network gateway login).response.status = 429 ↔
      ¬ record.Expired gateway.config.attempts login.now := by
  rw [status_handle_eq_limited_iff hlogin.1, counted, hlogin.2]
  exact hremains.limited_iff hfull

end Waiting

/-- A login that has been refused: its source is refused again exactly as long as the window lasts that was
open. If it waits for the seconds that it was told, it is admitted, except at that very nanosecond if the
window lasts until then. -/
theorem refused_until {config : Config} {client : Backend.Client} {commit? : Option Build.Commit}
    {gateway : Gateway} (hstart : start config client commit? = .ok gateway) (before : List Action)
    (network : Backend.Network) (login : Arrival)
    (hclock : Forward (before ++ [.request network login])) (hlogin : IsLogin login.request)
    (hrefused : (handle network (gateway.run before) login).response.status = 429) :
    let refused := handle network (gateway.run before) login
    let source := Login.source login.request.headers
    ∃ (wait : Duration) (n : Nat), refused.response.headers.all .retryAfter = [.ofNat n] ∧
      ∀ (between : List Action) (network : Backend.Network) (later : Arrival),
        Forward (between ++ [.request network later]) →
        (∀ action ∈ between, ¬ action.IsLoginOf source) →
        (Action.request network later).IsLoginOf source →
        let answer := handle network (refused.gateway.run between) later
        (answer.response.status = 429 ↔ later.now.nanos ≤ login.now.nanos + wait.nanos) ∧
        (config.attempts.window.nanos ≤ 18446744073709551615 * 1000000000 →
          login.now.nanos + n * 1000000000 ≤ later.now.nanos →
          (answer.response.status = 429 ↔
            later.now.nanos = login.now.nanos + n * 1000000000 ∧ wait.nanos = n * 1000000000)) := by
  intro refused source
  obtain ⟨hstarted, hempty, -⟩ := start_eq_ok_iff.mp hstart
  have hpast : ∀ action ∈ before, action.time ≤ login.now := time_le_of_forward hclock
  have hopened : (gateway.run before).ledger.Opened (· ≤ login.now) :=
    opened_run (hempty ▸ Ledger.opened_empty _) hpast
  obtain ⟨wait, hlimited⟩ := (status_handle_eq_limited_iff hlogin).mp hrefused
  obtain ⟨record, hfound, hattempt⟩ := Ledger.exists_of_limited hlimited
  obtain ⟨-, hopen, hfull, hwait⟩ := Record.attempt_eq_limited_iff.mp hattempt
  obtain ⟨hunchanged, -, htold⟩ := refused_of_limited network hlogin hlimited
  refine ⟨wait, (Failure.retrySeconds wait).toNat, htold, ?_⟩
  intro between network later hclock hothers hlater answer
  have hsettings : (refused.gateway.run between).config = (gateway.run before).config := by
    rw [config_run, hunchanged]
  have hremains := remains_run (.inl (hunchanged ▸ hfound)) (time_le_of_forward hclock) hothers
  have hiff : answer.response.status = 429 ↔ later.now.nanos ≤ login.now.nanos + wait.nanos := by
    rw [refused_again_iff hremains (hsettings ▸ hfull) hlater, hsettings]
    exact not_expired_iff (hopened source record hfound) hopen hwait
  refine ⟨hiff, ?_⟩
  intro hwindow hwaited
  have hshort : wait.nanos ≤ (Failure.retrySeconds wait).toNat * 1000000000 := by
    have hwithin := Ledger.wait_le_window hlimited
    rw [config_run, hstarted] at hwithin
    exact Failure.nanos_le_retrySeconds (Nat.le_trans hwithin hwindow)
  rw [hiff]
  omega

def emptyLogin (now : Duration) : Arrival := ⟨now, .ofText "", { smallLogin with body := ⟨.empty, true⟩ }⟩

theorem refused_for_a_window :
    let network : Backend.Network := fun _ _ => .refused
    let failed : Action := .request network (emptyLogin .zero)
    let refused := handle network (small.run (List.replicate 5 failed)) (emptyLogin .zero)
    refused.response.status = 429 ∧
      ∀ (between : List Action) (network : Backend.Network) (later : Arrival),
        Forward (between ++ [.request network later]) →
        (∀ action ∈ between, ¬ action.IsLoginOf "127.0.0.1") →
        (Action.request network later).IsLoginOf "127.0.0.1" →
        ((handle network (refused.gateway.run between) later).response.status = 429 ↔
          later.now.nanos ≤ 900000000000) := by
  intro network failed refused
  have hrefused : refused.response.status = 429 := by
    decide +kernel
  have hstart : start Config.small = .ok small := start_eq_ok_iff.mpr ⟨rfl, rfl, rfl, rfl⟩
  have hclock : Forward (List.replicate 5 failed ++ [.request network (emptyLogin .zero)]) := by
    unfold Forward
    decide
  have hsource : Login.source (emptyLogin .zero).request.headers = "127.0.0.1" := by
    decide
  obtain ⟨wait, n, -, hagain⟩ := refused_until hstart (List.replicate 5 failed) network
    (emptyLogin .zero) hclock ⟨rfl, rfl⟩ hrefused
  rw [hsource] at hagain
  -- the wait is what two logins find, one when the window ends and one a nanosecond later
  have hlast := (hagain [] network (emptyLogin (.ofSeconds 900)) (List.pairwise_singleton _ _)
    (List.forall_mem_nil _) ⟨⟨rfl, rfl⟩, hsource⟩).1.mp (by decide +kernel)
  have hover := (hagain [] network (emptyLogin ⟨900000000001, by decide⟩) (List.pairwise_singleton _ _)
    (List.forall_mem_nil _) ⟨⟨rfl, rfl⟩, hsource⟩).1.not.mp (by decide +kernel)
  have hwait : wait.nanos = 900000000000 := by
    have hzero : (emptyLogin .zero).now.nanos = 0 := rfl
    have hend : (emptyLogin (.ofSeconds 900)).now.nanos = 900000000000 := rfl
    have hnext : (emptyLogin ⟨900000000001, by decide⟩).now.nanos = 900000000001 := rfl
    omega
  refine ⟨hrefused, ?_⟩
  intro between network later hclock hothers hlater
  rw [(hagain between network later hclock hothers hlater).1, hwait]
  exact Iff.of_eq (congrArg _ (Nat.zero_add _))

/-- To wait for as long as one was told is not always enough. -/
theorem refused_after_wait :
    ¬ ∀ (config : Config) (gateway : Gateway), start config = .ok gateway →
      ∀ (before between : List Action) (network network' : Backend.Network) (login later : Arrival)
        (n : Nat), Forward (before ++ .request network login :: (between ++ [.request network' later])) →
      IsLogin login.request →
      let refused := handle network (gateway.run before) login
      let source := Login.source login.request.headers
      refused.response.status = 429 → refused.response.headers.all .retryAfter = [.ofNat n] →
      (∀ action ∈ between, ¬ action.IsLoginOf source) →
      (Action.request network' later).IsLoginOf source →
      login.now.nanos + n * 1000000000 ≤ later.now.nanos →
        (handle network' (refused.gateway.run between) later).response.status ≠ 429 := by
  intro h
  let network : Backend.Network := fun _ _ => .refused
  let failed : Action := .request network (emptyLogin .zero)
  have hclock : Forward (List.replicate 5 failed ++ .request network (emptyLogin .zero) ::
      ([] ++ [.request network (emptyLogin (.ofSeconds 900))])) := by
    unfold Forward
    decide
  refine h Config.small small (start_eq_ok_iff.mpr ⟨rfl, rfl, rfl, rfl⟩)
    (List.replicate 5 failed) [] network network (emptyLogin .zero) (emptyLogin (.ofSeconds 900)) 900
    hclock ⟨rfl, rfl⟩ ?_ ?_ (List.forall_mem_nil _) ⟨⟨rfl, rfl⟩, rfl⟩ ?_ ?_
  · decide +kernel
  · decide +kernel
  · decide +kernel
  · decide +kernel

end Gateway

end LoginGateway
