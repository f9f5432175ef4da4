import LoginGateway.Proofs.Gateway.Retry

namespace LoginGateway.Gateway

open Http Attempts

section Failing

variable {gateway : Gateway} {now : Duration} {headers : Headers} {body : Body}
  {ended : Except Failure Response × Gateway}

theorem LoginCase.ledger_of_not_given (h : LoginCase gateway now headers body ended)
    (hnone : givenPassword? body = none) : ended.2.ledger = (gateway.counted now headers).2 := by
  cases h with
  | limited hlimited => exact (counted_of_limited hlimited).symm
  | malformed => rfl
  | mismatched _ hgiven | matched _ hgiven =>
    rw [hnone] at hgiven
    cases hgiven

theorem isLogin_emptyLogin (now : Duration) : IsLogin (emptyLogin now).request := ⟨rfl, rfl⟩

theorem source_emptyLogin (now : Duration) :
    Login.source (emptyLogin now).request.headers = "127.0.0.1" := by
  rfl

variable (network : Backend.Network) (gateway now)

theorem run_concat (before : List Action) (action : Action) :
    gateway.run (before ++ [action]) = (gateway.run before).step action := List.foldl_concat ..

theorem ledger_step_emptyLogin :
    (gateway.step (.request network (emptyLogin now))).ledger =
      (gateway.ledger.check gateway.config.attempts now "127.0.0.1").2 := by
  have hnone : givenPassword? (emptyLogin now).request.body = none := by rfl
  rw [step, gateway_handle_of_isLogin (isLogin_emptyLogin now)]
  exact (gateway.login_cases _ _ _).ledger_of_not_given hnone

theorem exists_record_of_failures (hnone : gateway.ledger.find? "127.0.0.1" = none) (k : Nat)
    (hk : k < gateway.config.attempts.maxAttempts.toNat) :
    ∃ record, (gateway.run (List.replicate (k + 1) (.request network (emptyLogin now)))).ledger.find?
        "127.0.0.1" = some record ∧ record.windowStart = now ∧ record.count.toNat = k + 1 := by
  induction k with
  | zero =>
    refine ⟨⟨1, now⟩, ?_, rfl, rfl⟩
    rw [List.replicate_one, run, List.foldl_cons, List.foldl_nil, ledger_step_emptyLogin,
      Ledger.find?_check, if_pos rfl, hnone]
    rfl
  | succ k ih =>
    obtain ⟨record, hfound, hstart, hcount⟩ := ih (Nat.lt_of_succ_lt hk)
    have hopen : ¬ record.Expired gateway.config.attempts now := Record.not_expired_at_start hstart
    have hroom : record.count < gateway.config.attempts.maxAttempts := by
      rw [UInt32.lt_iff_toNat_lt, hcount]
      exact hk
    refine ⟨{ record with count := record.count + 1 }, ?_, hstart, ?_⟩
    · rw [List.replicate_succ', run_concat, ledger_step_emptyLogin, Ledger.find?_check, if_pos rfl, hfound,
        config_run, Record.attempt_of_not_expired hopen, if_pos hroom]
    · exact (Record.toNat_count_succ hroom).trans (congrArg (· + 1) hcount)

/-- A source can use up its attempts at one moment; then the whole window is left. -/
theorem exists_limited_window (hempty : gateway.ledger = .empty) :
    ∃ before, ((gateway.run before).counted now (emptyLogin now).request.headers).1 =
      .limited gateway.config.attempts.window := by
  have hmax : gateway.config.attempts.maxAttempts ≠ 0 :=
    (Config.fault?_eq_none_iff.mp gateway.valid).maxAttempts
  obtain ⟨k, hk⟩ : ∃ k, gateway.config.attempts.maxAttempts.toNat = k + 1 :=
    Nat.exists_eq_succ_of_ne_zero fun hzero => hmax (UInt32.toNat_inj.mp hzero)
  have hnone : gateway.ledger.find? "127.0.0.1" = none := by rw [hempty, Ledger.find?_empty]
  obtain ⟨record, hfound, hstart, hcount⟩ :=
    exists_record_of_failures gateway now (fun _ _ => .refused) hnone k (by omega)
  have hopen : ¬ record.Expired gateway.config.attempts now := Record.not_expired_at_start hstart
  have hfull : ¬ record.count < gateway.config.attempts.maxAttempts := by
    rw [UInt32.lt_iff_toNat_lt, hcount, hk]
    exact Nat.lt_irrefl _
  have hwait : gateway.config.attempts.window.since (now.since record.windowStart) =
      gateway.config.attempts.window := by
    apply Duration.ext_nanos
    rw [Duration.nanos_since, Duration.nanos_since, hstart, Nat.sub_self, Nat.sub_zero]
  refine ⟨List.replicate (k + 1) (.request (fun _ _ => .refused) (emptyLogin now)), ?_⟩
  rw [counted, source_emptyLogin, Ledger.fst_check, hfound, config_run,
    Record.attempt_of_not_expired hopen, if_neg hfull, hwait]

end Failing

section Told

variable {network : Backend.Network} {gateway : Gateway} {login : Arrival} {wait : Duration}

/-- If the login is refused, it is told the least number of seconds that covers its wait, and that
number is found within 64 bits. -/
def TellsLeast (network : Backend.Network) (gateway : Gateway) (login : Arrival) : Prop :=
  ∀ wait, (gateway.counted login.now login.request.headers).1 = .limited wait →
    let response := (handle network gateway login).response
    Failure.roundedUp wait < 18446744073709551616 ∧ response.status = 429 ∧
      ∃ n, response.headers.all .retryAfter = [.ofNat n] ∧ Failure.LeastSeconds wait n

theorem tellsLeast_of_window (hlogin : IsLogin login.request)
    (hwindow : gateway.config.attempts.window ≤ Failure.longestWait) :
    TellsLeast network gateway login := by
  intro wait hlimited response
  have hfits : wait ≤ Failure.longestWait := Nat.le_trans (Ledger.wait_le_window hlimited) hwindow
  obtain ⟨-, hstatus, htold⟩ := refused_of_limited network hlogin hlimited
  exact ⟨Failure.roundedUp_lt_iff.mpr hfits, hstatus, _, htold, Failure.leastSeconds_retrySeconds hfits⟩

end Told

/-- Whatever has happened and whatever the clock shows, a refused login is told the least number of
seconds that covers what is left of its window, or zero if that is more than 2^64 - 1 seconds. So all
refused logins of a gateway are told the least number exactly if its window is not longer than that. -/
theorem told_least_iff {config : Config} {client : Backend.Client} {commit? : Option Build.Commit}
    {gateway : Gateway} (hstart : start config client commit? = .ok gateway) :
    (∀ (before : List Action) (network : Backend.Network) (login : Arrival) (wait : Duration),
      IsLogin login.request →
      ((gateway.run before).counted login.now login.request.headers).1 = .limited wait →
      let response := (handle network (gateway.run before) login).response
      wait ≤ config.attempts.window ∧ response.status = 429 ∧
        ∃ n, response.headers.all .retryAfter = [.ofNat n] ∧
          (wait ≤ Failure.longestWait → Failure.LeastSeconds wait n) ∧
          (¬ wait ≤ Failure.longestWait → n = 0)) ∧
    ((∀ (before : List Action) (network : Backend.Network) (login : Arrival), IsLogin login.request →
        TellsLeast network (gateway.run before) login) ↔
      config.attempts.window ≤ Failure.longestWait) := by
  obtain ⟨hconfig, hempty, -⟩ := start_eq_ok_iff.mp hstart
  have hsettings (before : List Action) : (gateway.run before).config = config := by
    rw [config_run, hconfig]
  refine ⟨?_, ?_, ?_⟩
  · intro before network login wait hlogin hlimited response
    obtain ⟨-, hstatus, htold⟩ := refused_of_limited network hlogin hlimited
    exact ⟨hsettings before ▸ Ledger.wait_le_window hlimited, hstatus, _, htold,
      Failure.leastSeconds_retrySeconds, Failure.retrySeconds_of_not_le⟩
  · intro hall
    obtain ⟨before, hlimited⟩ := exists_limited_window gateway .zero hempty
    have htold :=
      hall before (fun _ _ => .refused) (emptyLogin .zero) (isLogin_emptyLogin .zero) _ hlimited
    rw [← hconfig]
    exact Failure.roundedUp_lt_iff.mp htold.1
  · intro hwindow before network login hlogin
    refine tellsLeast_of_window hlogin ?_
    rw [hsettings]
    exact hwindow

theorem told_least_of_six_failures :
    let network : Backend.Network := fun _ _ => .refused
    let failed : Action := .request network (emptyLogin .zero)
    let response := (handle network (small.run (List.replicate 5 failed)) (emptyLogin .zero)).response
    start Config.small = .ok small ∧ response.status = 429 ∧
      response.headers.all .retryAfter = [.ofNat 900] ∧ Failure.LeastSeconds (.ofSeconds 900) 900 := by
  intro network failed response
  have hstart : start Config.small = .ok small := start_eq_ok_iff.mpr ⟨rfl, rfl, rfl, rfl⟩
  have hlimited : ((small.run (List.replicate 5 failed)).counted .zero
      (emptyLogin .zero).request.headers).1 = .limited (.ofSeconds 900) := by
    decide +kernel
  obtain ⟨-, hstatus, n, htold, hleast⟩ := (told_least_iff hstart).2.mpr (by decide)
    (List.replicate 5 failed) network (emptyLogin .zero) (isLogin_emptyLogin .zero) _ hlimited
  obtain rfl : n = 900 := hleast.unique (Failure.leastSeconds_roundedUp (.ofSeconds 900))
  exact ⟨hstart, hstatus, htold, hleast⟩

/-- Settings that allow one attempt in the longest window there is. -/
def patient : Config :=
  { Config.small with
    attempts := { maxAttempts := 1, window := ⟨18446744073709551615999999999, by decide⟩ } }

/-- In that window the second of two logins is not told the least number of seconds. -/
theorem not_told_least_of_patient :
    ¬ ∀ (config : Config) (gateway : Gateway), start config = .ok gateway →
      ∀ (before : List Action) (network : Backend.Network) (login : Arrival), IsLogin login.request →
        TellsLeast network (gateway.run before) login := by
  intro h
  let network : Backend.Network := fun _ _ => .refused
  let gateway : Gateway := { config := patient, valid := by decide +kernel, ledger := .empty }
  have hlimited : ((gateway.run [.request network (emptyLogin .zero)]).counted .zero
      (emptyLogin .zero).request.headers).1 = .limited patient.attempts.window := by
    decide +kernel
  have htold := h patient gateway (start_eq_ok_iff.mpr ⟨rfl, rfl, rfl, rfl⟩)
    [.request network (emptyLogin .zero)] network (emptyLogin .zero) (isLogin_emptyLogin .zero) _ hlimited
  exact absurd htold.1 (by decide)

end LoginGateway.Gateway
