import LoginGateway.Proofs.CommandLine.Settings
import LoginGateway.Proofs.Gateway.Run
import LoginGateway.Proofs.Url.Origin

namespace LoginGateway

theorem Gateway.exists_start {config : Config} (h : config.fault? = none) :
    ∃ gateway, start config = .ok gateway ∧
      Session.Codec.ofSecret config.sessionSecret config.sessionMaxAge = .ok gateway.codec := by
  let gateway : Gateway := { config, valid := h, ledger := .empty }
  refine ⟨gateway, start_eq_ok_iff.mpr ⟨rfl, rfl, rfl, rfl⟩, ?_⟩
  rw [Session.Codec.ofSecret, dif_neg (Config.sessionSecret_ne_of_fault?_eq_none h)]
  rfl

namespace CommandLine.Settings

/-- The numbers that must not be zero, in the order in which they are checked, with what is said of a
zero. -/
def quantities : List (Field × Config.Fault) :=
  [(.loginMaxAttempts, .zeroMaxAttempts), (.loginWindow, .zeroWindow),
    (.loginSweep, .zeroSweepInterval), (.sessionMaxAge, .zeroSessionMaxAge),
    (.backendTimeout, .zeroBackendTimeout)]

def firstZero? (value : Field → Option Value) : Option Config.Fault :=
  (quantities.find? fun quantity => value quantity.1 = some (.number 0)).map Prod.snd

theorem map_find?_cons {α β : Type} (p : α → Prop) [DecidablePred p] (a : α) (b : β)
    (rest : List (α × β)) :
    (((a, b) :: rest).find? fun e => p e.1).map Prod.snd =
      if p a then some b else (rest.find? fun e => p e.1).map Prod.snd := by
  rw [List.find?_cons]
  by_cases ha : p a <;> simp [ha]

section Zero

variable {value : Field → Option Value}

theorem firstZero?_eq_none_iff :
    firstZero? value = none ↔ ∀ quantity ∈ quantities, value quantity.1 ≠ some (.number 0) := by
  rw [firstZero?, Option.map_eq_none_iff, List.find?_eq_none]
  exact forall₂_congr fun quantity _ => not_congr decide_eq_true_iff

theorem Spans.isZero_iff {field : Field} {span : Duration} (h : Spans value field span) :
    span.isZero = true ↔ value field = some (.number 0) := by
  obtain ⟨n, hvalue, hspan⟩ := h
  rw [Duration.isZero, beq_iff_eq, hspan, hvalue, Option.some.injEq, Value.number.injEq]
  omega

/-- The texts and the URL of a configuration that follows the settings are not refused if no check of the
settings has failed. -/
theorem Follows.fault?_eq {port : UInt16} {config : Config} (h : Follows value port config)
    (hpasses : ∀ n fault, ¬ Fails value n fault) : config.fault? = firstZero? value := by
  have hpassword : config.password ≠ "" := fun hempty =>
    hpasses 0 _ (.password (.inr (hempty ▸ h.password)))
  have hsession : config.sessionSecret ≠ "" := fun hempty =>
    hpasses 1 _ (.sessionSecret (.inr (hempty ▸ h.sessionSecret)))
  have hbackend : config.backendSecret ≠ "" := fun hempty =>
    hpasses 5 _ (.backendSecret (.inr (hempty ▸ h.backendSecret)))
  obtain ⟨s, hurl, hparse⟩ := h.backendUrl
  have hscheme : config.backendUrl.scheme = "http" ∨ config.backendUrl.scheme = "https" := by
    by_contra hother
    exact hpasses 4 _ (.scheme hurl hparse (List.mem_pair.not.mpr hother))
  have hweb : ¬ (!Config.isWebScheme config.backendUrl.scheme) = true := by
    rw [Config.isWebScheme_iff.mpr hscheme]
    exact Bool.false_ne_true
  obtain ⟨a, d, hisWeb⟩ := Url.isWeb_of_parse hparse hscheme
  obtain ⟨host, hhost⟩ := Url.exists_host hisWeb
  have hhost' : ¬ config.backendUrl.host?.isNone = true := by
    rw [hhost]
    exact Bool.false_ne_true
  have hmax : config.attempts.maxAttempts = 0 ↔ value .loginMaxAttempts = some (.number 0) := by
    rw [h.maxAttempts, Option.some.injEq, Value.number.injEq, ← UInt32.toNat_inj]
    rfl
  rw [Config.fault?, if_neg hpassword, if_neg hsession, if_neg hbackend, if_neg hweb, if_neg hhost']
  have hzero (field : Field) (fault : Config.Fault) (rest : List (Field × Config.Fault)) :=
    map_find?_cons (fun field => value field = some (.number 0)) field fault rest
  simp only [hmax, h.window.isZero_iff, h.sweepInterval.isZero_iff, h.sessionMaxAge.isZero_iff,
    h.backendTimeout.isZero_iff, firstZero?, quantities, hzero]
  rfl

end Zero

/-- What the server is configured with is refused only for the first number that is zero and must not be:
whoever reads the settings has seen to the rest. If there is no such number, the gateway starts, and signs
with the secret that was given. -/
theorem fault?_of_parse {arguments : List String} {environment : Environment} {given : Given}
    {settings : Settings} (hparse : parse arguments environment = .ok given)
    (hread : ofGiven given = .ok settings) :
    let value := resolved arguments environment
    let config := settings.config
    config.fault? = firstZero? value ∧
    (config.fault? = none ↔ ∀ quantity ∈ quantities, value quantity.1 ≠ some (.number 0)) ∧
    (config.fault? = none → ∃ gateway, Gateway.start config = .ok gateway ∧
      Session.Codec.ofSecret config.sessionSecret config.sessionMaxAge = .ok gateway.codec) := by
  intro value config
  have houtcome := outcome_of_parse hparse
  rw [hread] at houtcome
  obtain ⟨hpast, hfollows⟩ := houtcome
  have hfault : config.fault? = firstZero? value := hfollows.fault?_eq hpast.all
  refine ⟨hfault, ?_, Gateway.exists_start⟩
  rw [hfault, firstZero?_eq_none_iff]

theorem fault?_of_idle_sweeper :
    let arguments := ["--password=p", "--session-secret=s", "--backend-url=http://h",
      "--backend-secret=b", "--backend-timeout-seconds=0", "--login-sweep-seconds=0"]
    let given : Given :=
      [(.loginSweep, .number 0), (.backendTimeout, .number 0), (.backendSecret, .text "b"),
        (.backendUrl, .text "http://h"), (.sessionSecret, .text "s"), (.password, .text "p")]
    parse arguments Environment.empty = .ok given ∧ ∃ settings, ofGiven given = .ok settings ∧
      settings.config.fault? = some .zeroSweepInterval := by
  intro arguments given
  have hparse : parse arguments Environment.empty = .ok given := by
    decide +kernel
  obtain ⟨settings, hread⟩ : ∃ settings, ofGiven given = .ok settings :=
    exists_eq_ok (by decide +kernel)
  have hzero : firstZero? (resolved arguments Environment.empty) = some .zeroSweepInterval := by
    decide +kernel
  exact ⟨hparse, settings, hread, (fault?_of_parse hparse hread).1.trans hzero⟩

end CommandLine.Settings

end LoginGateway
