import LoginGateway.Config

namespace LoginGateway.Config

structure Sound (config : Config) : Prop where
  password : config.password ≠ ""
  sessionSecret : config.sessionSecret ≠ ""
  backendSecret : config.backendSecret ≠ ""
  scheme : isWebScheme config.backendUrl.scheme = true
  host : config.backendUrl.host? ≠ none
  maxAttempts : config.attempts.maxAttempts ≠ 0
  window : config.attempts.window.isZero = false
  sweepInterval : config.attempts.sweepInterval.isZero = false
  sessionMaxAge : config.sessionMaxAge.isZero = false
  backendTimeout : config.backendTimeout.isZero = false

theorem ite_fault_eq_none {p : Prop} [Decidable p] {fault : Fault} {rest : Option Fault} :
    (if p then some fault else rest) = none ↔ ¬ p ∧ rest = none := by
  by_cases hp : p
  · simp only [hp, if_true, not_true, false_and, reduceCtorEq]
  · simp only [hp, if_false, not_false_eq_true, true_and]

theorem fault?_eq_none_iff {config : Config} : config.fault? = none ↔ config.Sound := by
  simp only [fault?, ite_fault_eq_none, Bool.not_eq_true', Bool.not_eq_true, Bool.not_eq_false,
    Option.isNone_eq_false_iff, Option.isSome_iff_ne_none, and_true]
  constructor
  · rintro ⟨hpassword, hsession, hbackend, hscheme, hhost, hmax, hwindow, hsweep, hage, htimeout⟩
    exact ⟨hpassword, hsession, hbackend, hscheme, hhost, hmax, hwindow, hsweep, hage, htimeout⟩
  · intro h
    exact ⟨h.password, h.sessionSecret, h.backendSecret, h.scheme, h.host, h.maxAttempts, h.window,
      h.sweepInterval, h.sessionMaxAge, h.backendTimeout⟩

/-- Settings whose URL was read from a text, and whose prefix was brought into its normal form. -/
structure Made (config : Config) : Prop where
  backendUrl : ∃ text, Url.parse text = .ok config.backendUrl
  pathPrefix : ∃ path, config.pathPrefix = normalPrefix path

theorem head?_normalPrefix {path : String} : ∀ c ∈ (normalPrefix path).toList.head?, c = '/' := by
  intro c hc
  unfold normalPrefix at hc
  split at hc
  · cases hc
  · rw [String.toList_ofList] at hc
    cases hc
    rfl

theorem Made.head?_pathPrefix {config : Config} (h : config.Made) :
    ∀ c ∈ config.pathPrefix.toList.head?, c = '/' := by
  obtain ⟨path, hpath⟩ := h.pathPrefix
  rw [hpath]
  exact head?_normalPrefix

theorem isWebScheme_iff {scheme : String} :
    isWebScheme scheme = true ↔ scheme = "http" ∨ scheme = "https" := by
  rw [isWebScheme, Bool.or_eq_true, beq_iff_eq, beq_iff_eq]

def small : Config where
  password := "p"
  sessionSecret := "s"
  backendSecret := "b"
  backendUrl := ⟨"http", some ⟨"", none, some (.name "h"), none⟩, .rooted [""], none, none⟩

theorem fault?_small : small.fault? = none := by
  decide +kernel

end LoginGateway.Config
