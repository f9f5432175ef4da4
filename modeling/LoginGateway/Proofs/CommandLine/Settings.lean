import LoginGateway.CommandLine.Settings
import LoginGateway.Proofs.CommandLine.Parse
import LoginGateway.Proofs.Config.Prefix
import LoginGateway.Proofs.Http.HeaderName

namespace LoginGateway.CommandLine

namespace Given

variable {given : Given} {field : Field}

namespace Typed

variable (h : given.Typed)
include h

theorem text (hkind : field.kind = .text) : given.value? field = (given.text? field).map .text := by
  rw [text?]
  cases hvalue : given.value? field with
  | none => rfl
  | some value =>
    obtain ⟨s, rfl⟩ := Kind.admits_text_iff.mp (hkind ▸ h.admits hvalue)
    rfl

theorem text_getD {fallback : String} (hkind : field.kind = .text)
    (hfallback : field.fallback? = some (.text fallback)) :
    given.orFallback field = some (.text ((given.text? field).getD fallback)) := by
  rw [orFallback, h.text hkind, hfallback]
  cases given.text? field <;> rfl

theorem text_or_none (hkind : field.kind = .text) (hfallback : field.fallback? = none) :
    given.orFallback field = (given.text? field).map .text := by
  rw [orFallback, h.text hkind, hfallback, Option.or_none]

theorem number_getD (field : Field) (fallback : Nat) {limit : Nat} (hkind : field.kind = .ranged limit)
    (hfallback : field.fallback? = some (.number fallback)) (hle : fallback ≤ limit) :
    given.orFallback field = some (.number ((given.number? field).getD fallback)) ∧
      (given.number? field).getD fallback ≤ limit := by
  rw [orFallback, number?, hfallback]
  cases hvalue : given.value? field with
  | none => exact ⟨rfl, hle⟩
  | some value =>
    obtain ⟨n, hle, rfl⟩ := Kind.admits_ranged_iff.mp (hkind ▸ h.admits hvalue)
    exact ⟨rfl, hle⟩

theorem seconds_eq {fallback : UInt64} (hkind : field.kind = .seconds)
    (hfallback : field.fallback? = some (.number fallback.toNat)) :
    given.orFallback field = some (.number (Settings.seconds given field fallback).toNat) := by
  rw [orFallback, Settings.seconds, number?, hfallback]
  cases hvalue : given.value? field with
  | none => rfl
  | some value =>
    obtain ⟨n, hlt, rfl⟩ := Kind.admits_seconds_iff.mp (hkind ▸ h.admits hvalue)
    show some (Value.number n) = some (.number (UInt64.ofNat n).toNat)
    rw [UInt64.toNat_ofNat_of_lt' hlt]

theorem flag_eq (hkind : field.kind = .flag) (hfallback : field.fallback? = some (.flag false)) :
    given.orFallback field = some (.flag (given.flag field)) := by
  rw [orFallback, flag, hfallback]
  cases hvalue : given.value? field with
  | none => rfl
  | some value =>
    obtain ⟨b, rfl⟩ := Kind.admits_flag_iff.mp (hkind ▸ h.admits hvalue)
    cases b <;> rfl

end Typed

end Given

namespace Settings

def Lacks (value : Field → Option Value) (field : Field) : Prop :=
  value field = none ∨ value field = some (.text "")

/-- What can be wrong with the settings, numbered in the order in which they are checked. -/
inductive Fails (value : Field → Option Value) : Nat → Fault → Prop
  | password : Lacks value .password → Fails value 0 (.missing .password)
  | sessionSecret : Lacks value .sessionSecret → Fails value 1 (.missing .sessionSecret)
  | noUrl : (value .backendUrl = none ∨ ∃ s, value .backendUrl = some (.text s) ∧ Text.trim s = "") →
      Fails value 2 (.missing .backendUrl)
  | badUrl {s : String} {fault : UrlFault} : value .backendUrl = some (.text s) →
      Url.parse (Text.trim s) = .error fault → Fails value 3 (.badUrl (Text.trim s) fault)
  | scheme {s : String} {url : Url} : value .backendUrl = some (.text s) →
      Url.parse (Text.trim s) = .ok url → url.scheme ∉ ["http", "https"] →
      Fails value 4 (.scheme url.scheme)
  | backendSecret : Lacks value .backendSecret → Fails value 5 (.missing .backendSecret)
  | badHeader {s : String} : value .backendSecretHeader = some (.text s) →
      ¬ Http.LegalName (Text.trim s) → Fails value 6 (.badHeader s)

/-- The setting is a number of seconds, and this is the span. -/
def Spans (value : Field → Option Value) (field : Field) (span : Duration) : Prop :=
  ∃ n, value field = some (.number n) ∧ span.nanos = n * 1000000000

theorem Spans.nanos_eq {value : Field → Option Value} {field : Field} {span : Duration} {n : Nat}
    (h : Spans value field span) (hvalue : value field = some (.number n)) :
    span.nanos = n * 1000000000 := by
  obtain ⟨m, hvalue', hspan⟩ := h
  cases hvalue.symm.trans hvalue'
  exact hspan

/-- The port and the configuration are what the settings say, each part what its own setting says. -/
structure Follows (value : Field → Option Value) (port : UInt16) (config : Config) : Prop where
  port : value .port = some (.number port.toNat)
  password : value .password = some (.text config.password)
  sessionSecret : value .sessionSecret = some (.text config.sessionSecret)
  sessionMaxAge : Spans value .sessionMaxAge config.sessionMaxAge
  cookieSecure : value .cookieSecure = some (.flag config.cookieSecure)
  maxAttempts : value .loginMaxAttempts = some (.number config.attempts.maxAttempts.toNat)
  window : Spans value .loginWindow config.attempts.window
  sweepInterval : Spans value .loginSweep config.attempts.sweepInterval
  backendUrl : ∃ s, value .backendUrl = some (.text s) ∧ Url.parse (Text.trim s) = .ok config.backendUrl
  backendSecret : value .backendSecret = some (.text config.backendSecret)
  /-- The text that the blanks and slashes around it enclose, behind one slash; or nothing. -/
  pathPrefix : ∃ s inner, value .backendPathPrefix = some (.text s) ∧ Config.Encloses s.toList inner ∧
    config.pathPrefix.toList = if inner = [] then [] else '/' :: inner
  secretHeader : ∃ s, value .backendSecretHeader = some (.text s) ∧
    config.secretHeader.text = String.ofList ((Text.trim s).toList.map Char.toLower)
  backendTimeout : Spans value .backendTimeout config.backendTimeout

def Fault.field : Fault → Field
  | missing field => field
  | badUrl _ _ | scheme _ => .backendUrl
  | badHeader _ => .backendSecretHeader

theorem Fault.message_eq (fault : Fault) :
    ∃ front back, fault.message = front ++ "--" ++ fault.field.name ++ back := by
  have hinvalid : "invalid " ++ "--" = "invalid --" := by
    decide
  cases fault with
  | missing field =>
    have hmissing : "missing required argument: " ++ "--" = "missing required argument: --" := by
      decide
    have hmessage : (missing field).message = "missing required argument: --" ++ field.name := rfl
    refine ⟨"missing required argument: ", "", ?_⟩
    rw [hmessage, hmissing, String.append_empty, Fault.field]
  | badUrl raw fault =>
    have hmessage : (badUrl raw fault).message =
      "invalid --" ++ Field.backendUrl.name ++ ": " ++ raw ++ ": " ++ fault.message := rfl
    rw [hmessage]
    refine ⟨"invalid ", ": " ++ raw ++ ": " ++ fault.message, ?_⟩
    rw [hinvalid]
    simp only [String.append_assoc, Fault.field]
  | scheme s =>
    have hmessage : (scheme s).message = "invalid --" ++ Field.backendUrl.name ++
      ": scheme must be http or https, got " ++ s := rfl
    rw [hmessage]
    refine ⟨"invalid ", ": scheme must be http or https, got " ++ s, ?_⟩
    rw [hinvalid]
    simp only [String.append_assoc, Fault.field]
  | badHeader raw =>
    have hmessage : (badHeader raw).message = "invalid --" ++ Field.backendSecretHeader.name ++ ": " ++
      raw ++ ": " ++ Http.HeaderName.invalidMessage := rfl
    rw [hmessage]
    refine ⟨"invalid ", ": " ++ raw ++ ": " ++ Http.HeaderName.invalidMessage, ?_⟩
    rw [hinvalid]
    simp only [String.append_assoc, Fault.field]

variable {given : Given}

theorem required_eq_ok {field : Field} {s : String} (h : required given field = .ok s) :
    given.text? field = some s ∧ s ≠ "" := by
  unfold required at h
  split at h
  · next text htext =>
    split at h
    · cases h
    · next hne =>
      cases h
      exact ⟨htext, hne⟩
  · cases h

theorem required_eq_error {field : Field} {fault : Fault} (h : required given field = .error fault) :
    fault = .missing field ∧ (given.text? field = none ∨ given.text? field = some "") := by
  unfold required at h
  split at h
  · next text htext =>
    split at h
    · next hempty =>
      cases h
      exact ⟨rfl, .inr (hempty ▸ htext)⟩
    · cases h
  · next hnone =>
    cases h
    exact ⟨rfl, .inl hnone⟩

theorem readUrl_eq_ok {url : Url} (h : readUrl given = .ok url) :
    ∃ s, given.text? .backendUrl = some s ∧ Text.trim s ≠ "" ∧ Url.parse (Text.trim s) = .ok url ∧
      Config.isWebScheme url.scheme = true := by
  unfold readUrl at h
  dsimp only at h
  split at h
  · cases h
  · next hne =>
    cases htext : given.text? .backendUrl with
    | none =>
      rw [htext] at hne
      exact absurd (by decide) hne
    | some s =>
      rw [htext] at h hne
      split at h
      · cases h
      · next url' hparse =>
        split at h
        · next hweb =>
          cases h
          exact ⟨s, rfl, hne, hparse, hweb⟩
        · cases h

theorem readUrl_eq_error {fault : Fault} (h : readUrl given = .error fault) :
    (fault = .missing .backendUrl ∧
      (given.text? .backendUrl = none ∨ ∃ s, given.text? .backendUrl = some s ∧ Text.trim s = "")) ∨
    ∃ s, given.text? .backendUrl = some s ∧ Text.trim s ≠ "" ∧
      ((∃ cause, Url.parse (Text.trim s) = .error cause ∧ fault = .badUrl (Text.trim s) cause) ∨
        ∃ url, Url.parse (Text.trim s) = .ok url ∧ Config.isWebScheme url.scheme = false ∧
          fault = .scheme url.scheme) := by
  unfold readUrl at h
  dsimp only at h
  cases htext : given.text? .backendUrl with
  | none =>
    rw [htext, if_pos (by decide)] at h
    cases h
    exact .inl ⟨rfl, .inl rfl⟩
  | some s =>
    rw [htext, Option.getD_some] at h
    split at h
    · next hempty =>
      cases h
      exact .inl ⟨rfl, .inr ⟨s, rfl, hempty⟩⟩
    · next hne =>
      refine .inr ⟨s, rfl, hne, ?_⟩
      split at h
      · next cause hparse =>
        cases h
        exact .inl ⟨cause, hparse, rfl⟩
      · next url hparse =>
        split at h
        · cases h
        · next hweb =>
          cases h
          exact .inr ⟨url, hparse, Bool.eq_false_iff.mpr hweb, rfl⟩

theorem readHeader_eq_ok {name : Http.HeaderName} (h : readHeader given = .ok name) :
    Http.HeaderName.parse?
      (Text.trim ((given.text? .backendSecretHeader).getD "x-fortress-secret")) = some name := by
  unfold readHeader at h
  dsimp only at h
  split at h
  · next hparse =>
    cases h
    exact hparse
  · cases h

theorem readHeader_eq_error {fault : Fault} (h : readHeader given = .error fault) :
    ∃ s, (given.text? .backendSecretHeader).getD "x-fortress-secret" = s ∧
      Http.HeaderName.parse? (Text.trim s) = none ∧ fault = .badHeader s := by
  unfold readHeader at h
  dsimp only at h
  split at h
  · cases h
  · next hparse =>
    cases h
    exact ⟨_, rfl, hparse, rfl⟩

theorem pathPrefix_config (settings : Settings) :
    settings.config.pathPrefix = Config.normalPrefix settings.backendPathPrefix := by
  rw [config]

theorem made_config {settings : Settings} (h : ofGiven given = .ok settings) : settings.config.Made := by
  refine ⟨?_, settings.backendPathPrefix, pathPrefix_config settings⟩
  obtain ⟨password, -, h⟩ := bind_eq_ok h
  obtain ⟨sessionSecret, -, h⟩ := bind_eq_ok h
  obtain ⟨backendUrl, hurl, h⟩ := bind_eq_ok h
  obtain ⟨backendSecret, -, h⟩ := bind_eq_ok h
  obtain ⟨backendSecretHeader, -, h⟩ := bind_eq_ok h
  cases h
  obtain ⟨text, -, -, hparse, -⟩ := readUrl_eq_ok hurl
  exact ⟨_, hparse⟩

section Checks

variable {value : Field → Option Value} {n : Nat} {s : String} {url : Url}

/-- The checks before the one with this number find nothing wrong. -/
def Passes (value : Field → Option Value) (n : Nat) : Prop := ∀ m < n, ∀ fault, ¬ Fails value m fault

theorem passes_zero (value : Field → Option Value) : Passes value 0 := fun m hm =>
  absurd hm (Nat.not_lt_zero m)

theorem Passes.succ (h : Passes value n) (hnext : ∀ fault, ¬ Fails value n fault) :
    Passes value (n + 1) :=
  Nat.forall_lt_succ_right.mpr ⟨h, hnext⟩

theorem Fails.unique {fault fault' : Fault} (h : Fails value n fault) (h' : Fails value n fault') :
    fault = fault' := by
  cases h with
  | password | sessionSecret | noUrl | backendSecret =>
    cases h'
    rfl
  | badUrl hvalue hparse =>
    cases h' with
    | badUrl hvalue' hparse' =>
      cases hvalue.symm.trans hvalue'
      cases hparse.symm.trans hparse'
      rfl
  | scheme hvalue hparse =>
    cases h' with
    | scheme hvalue' hparse' =>
      cases hvalue.symm.trans hvalue'
      cases hparse.symm.trans hparse'
      rfl
  | badHeader hvalue =>
    cases h' with
    | badHeader hvalue' =>
      cases hvalue.symm.trans hvalue'
      rfl

theorem Passes.all (h : Passes value 7) (n : Nat) (fault : Fault) : ¬ Fails value n fault := by
  intro hfails
  have hn : n < 7 := by
    cases hfails <;> decide
  exact h n hn fault hfails

section Url

variable (hvalue : value .backendUrl = some (.text s))
include hvalue

theorem not_fails_noUrl (hne : Text.trim s ≠ "") (fault : Fault) : ¬ Fails value 2 fault := by
  intro hfails
  cases hfails with
  | noUrl hlacks =>
    obtain hnone | ⟨s', hvalue', hempty⟩ := hlacks
    · cases hvalue.symm.trans hnone
    · cases hvalue.symm.trans hvalue'
      exact hne hempty

variable (hparse : Url.parse (Text.trim s) = .ok url)
include hparse

theorem not_fails_badUrl (fault : Fault) : ¬ Fails value 3 fault := by
  intro hfails
  cases hfails with
  | badUrl hvalue' hparse' =>
    cases hvalue.symm.trans hvalue'
    cases hparse.symm.trans hparse'

theorem not_fails_scheme (hweb : Config.isWebScheme url.scheme = true) (fault : Fault) :
    ¬ Fails value 4 fault := by
  intro hfails
  cases hfails with
  | scheme hvalue' hparse' hscheme =>
    cases hvalue.symm.trans hvalue'
    cases hparse.symm.trans hparse'
    rw [List.mem_pair, ← Config.isWebScheme_iff] at hscheme
    exact hscheme hweb

end Url

end Checks

def Outcome (value : Field → Option Value) : Except Fault Settings → Prop
  | .error fault => ∃ n, Fails value n fault ∧ Passes value n
  | .ok settings => Passes value 7 ∧ Follows value settings.port settings.config

section Outcome

variable {value : Field → Option Value} {result : Except Fault Settings}

theorem Outcome.ok_iff (h : Outcome value result) :
    (∃ settings, result = .ok settings) ↔ ∀ n fault, ¬ Fails value n fault := by
  cases result with
  | error fault =>
    obtain ⟨n, hfails, -⟩ := h
    refine iff_of_false ?_ fun hall => hall n fault hfails
    rintro ⟨settings, ⟨⟩⟩
  | ok settings =>
    obtain ⟨hpast, -⟩ := h
    exact iff_of_true ⟨settings, rfl⟩ hpast.all

theorem Outcome.error_iff (h : Outcome value result) (fault : Fault) :
    result = .error fault ↔ ∃ n, Fails value n fault ∧ Passes value n := by
  cases result with
  | error first =>
    obtain ⟨n, hfails, hpast⟩ := h
    constructor
    · rintro ⟨⟩
      exact ⟨n, hfails, hpast⟩
    · rintro ⟨n', hfails', hpast'⟩
      -- each of the two checks is not before the other
      obtain hlt | rfl | hgt := Nat.lt_trichotomy n n'
      · exact absurd hfails (hpast' n hlt first)
      · rw [hfails.unique hfails']
      · exact absurd hfails' (hpast n' hgt fault)
  | ok settings =>
    obtain ⟨hpast, -⟩ := h
    refine iff_of_false (by rintro ⟨⟩) ?_
    rintro ⟨n, hfails, -⟩
    exact hpast.all n fault hfails

end Outcome

section Given

variable (htyped : given.Typed)
include htyped

/-- A text that has to be there: if it is, the check of it is passed. -/
theorem required_or {field : Field} {n : Nat} (hkind : field.kind = .text)
    (hfallback : field.fallback? = none)
    (hfails : Lacks given.orFallback field → Fails given.orFallback n (.missing field))
    (honly : ∀ fault, Fails given.orFallback n fault → Lacks given.orFallback field)
    (hpast : Passes given.orFallback n) :
    (∃ fault, required given field = .error fault ∧ Fails given.orFallback n fault) ∨
      ∃ s, required given field = .ok s ∧ given.orFallback field = some (.text s) ∧
        Passes given.orFallback (n + 1) := by
  have hvalue := htyped.text_or_none hkind hfallback
  cases hrequired : required given field with
  | error fault =>
    obtain ⟨rfl, htext⟩ := required_eq_error hrequired
    refine .inl ⟨_, rfl, hfails ?_⟩
    rw [Lacks, hvalue]
    obtain hnone | hempty := htext
    · exact .inl (by rw [hnone]; rfl)
    · exact .inr (by rw [hempty]; rfl)
  | ok s =>
    obtain ⟨htext, hne⟩ := required_eq_ok hrequired
    rw [htext, Option.map_some] at hvalue
    refine .inr ⟨s, rfl, hvalue, hpast.succ fun fault hfault => ?_⟩
    obtain hnone | hempty := honly fault hfault
    · cases hvalue.symm.trans hnone
    · cases hvalue.symm.trans hempty
      exact hne rfl

theorem value_of_readUrl {url : Url} (h : readUrl given = .ok url) :
    ∃ s, given.orFallback .backendUrl = some (.text s) ∧ Url.parse (Text.trim s) = .ok url ∧
      ∀ n ∈ [2, 3, 4], ∀ fault, ¬ Fails given.orFallback n fault := by
  obtain ⟨s, htext, hne, hparse, hweb⟩ := readUrl_eq_ok h
  have hvalue : given.orFallback .backendUrl = some (.text s) := by
    rw [htyped.text_or_none rfl rfl, htext, Option.map_some]
  refine ⟨s, hvalue, hparse, ?_⟩
  simp only [List.forall_mem_cons, List.not_mem_nil, false_implies, implies_true, and_true]
  exact ⟨not_fails_noUrl hvalue hne, not_fails_badUrl hvalue hparse,
    not_fails_scheme hvalue hparse hweb⟩

theorem fails_of_readUrl {fault : Fault} (h : readUrl given = .error fault)
    (hpast : Passes given.orFallback 2) :
    ∃ n, Fails given.orFallback n fault ∧ Passes given.orFallback n := by
  have hvalue : given.orFallback .backendUrl = (given.text? .backendUrl).map .text :=
    htyped.text_or_none rfl rfl
  obtain ⟨rfl, hlacks⟩ | ⟨s, htext, hne, hcause⟩ := readUrl_eq_error h
  · refine ⟨2, .noUrl ?_, hpast⟩
    obtain hnone | ⟨s, htext, hempty⟩ := hlacks
    · exact .inl (by rw [hvalue, hnone]; rfl)
    · exact .inr ⟨s, by rw [hvalue, htext]; rfl, hempty⟩
  · rw [htext, Option.map_some] at hvalue
    have hpast' := hpast.succ (not_fails_noUrl hvalue hne)
    obtain ⟨cause, hparse, rfl⟩ | ⟨url, hparse, hweb, rfl⟩ := hcause
    · exact ⟨3, .badUrl hvalue hparse, hpast'⟩
    · refine ⟨4, .scheme hvalue hparse ?_, hpast'.succ (not_fails_badUrl hvalue hparse)⟩
      rw [List.mem_pair, ← Config.isWebScheme_iff, hweb]
      exact Bool.false_ne_true

theorem fails_of_readHeader {fault : Fault} (h : readHeader given = .error fault) :
    Fails given.orFallback 6 fault := by
  obtain ⟨s, htext, hparse, rfl⟩ := readHeader_eq_error h
  have hvalue : given.orFallback .backendSecretHeader = some (.text s) := by
    rw [htyped.text_getD rfl rfl, htext]
  exact .badHeader hvalue (Http.HeaderName.parse?_eq_none_iff.mp hparse)

theorem value_of_readHeader {name : Http.HeaderName} (h : readHeader given = .ok name) :
    ∃ s, given.orFallback .backendSecretHeader = some (.text s) ∧ Http.LegalName (Text.trim s) ∧
      name.text = String.ofList ((Text.trim s).toList.map Char.toLower) :=
  ⟨_, htyped.text_getD rfl rfl, Http.HeaderName.text_of_parse? (readHeader_eq_ok h)⟩

theorem port_eq : given.orFallback .port =
    some (.number (UInt16.ofNat ((given.number? .port).getD 8080)).toNat) := by
  obtain ⟨hvalue, hle⟩ := htyped.number_getD .port 8080 rfl rfl (by decide)
  rw [hvalue, UInt16.toNat_ofNat_of_lt' (Nat.lt_succ_of_le hle)]

theorem maxAttempts_eq : given.orFallback .loginMaxAttempts =
    some (.number (UInt32.ofNat ((given.number? .loginMaxAttempts).getD 5)).toNat) := by
  obtain ⟨hvalue, hle⟩ := htyped.number_getD .loginMaxAttempts 5 rfl rfl (by decide)
  rw [hvalue, UInt32.toNat_ofNat_of_lt' (Nat.lt_succ_of_le hle)]

theorem spans_seconds {field : Field} {fallback : UInt64} (hkind : field.kind = .seconds)
    (hfallback : field.fallback? = some (.number fallback.toNat)) :
    Spans given.orFallback field (.ofSeconds (seconds given field fallback)) :=
  ⟨_, htyped.seconds_eq hkind hfallback, rfl⟩

theorem outcome : Outcome given.orFallback (ofGiven given) := by
  have h0 := passes_zero given.orFallback
  unfold ofGiven
  obtain ⟨fault, hpassword, hfails⟩ | ⟨password, hpassword, hpassword', h1⟩ :=
    required_or htyped rfl rfl .password (fun _ h => by cases h with | password h => exact h) h0
  · rw [hpassword]
    exact ⟨0, hfails, h0⟩
  obtain ⟨fault, hsecret, hfails⟩ | ⟨sessionSecret, hsecret, hsecret', h2⟩ :=
    required_or htyped rfl rfl .sessionSecret (fun _ h => by cases h with | sessionSecret h => exact h) h1
  · rw [hpassword, hsecret]
    exact ⟨1, hfails, h1⟩
  cases hurl : readUrl given with
  | error fault =>
    rw [hpassword, hsecret]
    exact fails_of_readUrl htyped hurl h2
  | ok url =>
    obtain ⟨s, hs, hparse, hclear⟩ := value_of_readUrl htyped hurl
    have h5 : Passes given.orFallback 5 :=
      ((h2.succ (hclear 2 (by decide))).succ (hclear 3 (by decide))).succ (hclear 4 (by decide))
    obtain ⟨fault, hbackend, hfails⟩ | ⟨backendSecret, hbackend, hbackend', h6⟩ :=
      required_or htyped rfl rfl .backendSecret
        (fun _ h => by cases h with | backendSecret h => exact h) h5
    · rw [hpassword, hsecret, hbackend]
      exact ⟨5, hfails, h5⟩
    cases hheader : readHeader given with
    | error fault =>
      rw [hpassword, hsecret, hbackend]
      exact ⟨6, fails_of_readHeader htyped hheader, h6⟩
    | ok name =>
      obtain ⟨s', hs', hlegal, hname⟩ := value_of_readHeader htyped hheader
      have h7 : Passes given.orFallback 7 := h6.succ fun fault hfails => by
        cases hfails with
        | badHeader hvalue hillegal =>
          cases hs'.symm.trans hvalue
          exact hillegal hlegal
      rw [hpassword, hsecret, hbackend]
      exact ⟨h7, {
        port := port_eq htyped
        password := hpassword'
        sessionSecret := hsecret'
        sessionMaxAge := spans_seconds htyped rfl rfl
        cookieSecure := htyped.flag_eq rfl rfl
        maxAttempts := maxAttempts_eq htyped
        window := spans_seconds htyped rfl rfl
        sweepInterval := spans_seconds htyped rfl rfl
        backendUrl := ⟨s, hs, hparse⟩
        backendSecret := hbackend'
        pathPrefix :=
          ⟨_, _, htyped.text_getD rfl rfl, Config.encloses_iff.mpr rfl, Config.toList_normalPrefix _⟩
        secretHeader := ⟨s', hs', hname⟩
        backendTimeout := spans_seconds htyped rfl rfl }⟩

end Given

section Parsed

variable {arguments : List String} {environment : Environment} {given : Given}

theorem outcome_of_parse (h : parse arguments environment = .ok given) :
    Outcome (resolved arguments environment) (ofGiven given) := by
  obtain ⟨htyped, hvalue⟩ := orFallback_parse h
  rw [← hvalue]
  exact outcome htyped

/-- The settings of an accepted command line are found wrong exactly if a check does not pass, and it is
the first of those that is reported. If all pass, the port and every part of the configuration are what
their own settings say: on the command line, or else in the environment, or else by default. What the
command line says of a setting stands there under the name of that setting; and where every argument is
a setting with its value, each of these settings has its own value, and every other one that of its
variable or the default. -/
theorem ofGiven_follows (h : parse arguments environment = .ok given) :
    let value := resolved arguments environment
    ((∃ settings, ofGiven given = .ok settings) ↔ ∀ n fault, ¬ Fails value n fault) ∧
    (∀ fault, ofGiven given = .error fault ↔
      ∃ n, Fails value n fault ∧ ∀ m < n, ∀ earlier, ¬ Fails value m earlier) ∧
    (∀ settings, ofGiven given = .ok settings → Follows value settings.port settings.config) ∧
    (∀ field v, supplied? arguments field = some v →
      ∃ raw, field.kind.read raw = .ok v ∧ Said arguments field raw) ∧
    ∀ options : List (Field × String × Value), arguments = options.map (fun o => spelled o.1 o.2.1) →
      (options.map Prod.fst).Nodup →
      (∀ o ∈ options, o.1.takesValue = true ∧ o.1.kind.read o.2.1 = .ok o.2.2) →
      (∀ o ∈ options, value o.1 = some o.2.2) ∧ ∀ field ∉ options.map Prod.fst,
        value field = (environment.value? field).or field.fallback? := by
  intro value
  have houtcome := outcome_of_parse h
  refine ⟨houtcome.ok_iff, houtcome.error_iff, fun settings hread => ?_, fun _ _ => said_of_supplied?,
    fun _ => resolved_spelled⟩
  rw [hread] at houtcome
  exact houtcome.2

theorem ofGiven_follows_small :
    let arguments := ["--password=p", "--login-window-seconds", "60", "--backend-url= http://h "]
    let environment : Environment := fun name =>
      [("RAMPART_SESSION_SECRET", "s"), ("RAMPART_LOGIN_WINDOW_SECONDS", "8"),
        ("RAMPART_LOGIN_SWEEP_SECONDS", "7"), ("RAMPART_BACKEND_SECRET", "b")].lookup name
    let given : Given :=
      [(.backendSecret, .text "b"), (.loginSweep, .number 7), (.sessionSecret, .text "s"),
        (.backendUrl, .text " http://h "), (.loginWindow, .number 60), (.password, .text "p")]
    parse arguments environment = .ok given ∧ ∃ settings, ofGiven given = .ok settings ∧
      settings.config.attempts.window.nanos = 60000000000 ∧
      settings.config.attempts.sweepInterval.nanos = 7000000000 ∧
      settings.config.sessionMaxAge.nanos = 604800000000000 := by
  intro arguments environment given
  have hparse : parse arguments environment = .ok given := by
    decide +kernel
  obtain ⟨settings, hread⟩ : ∃ settings, ofGiven given = .ok settings :=
    exists_eq_ok (by decide +kernel)
  have hwindow : resolved arguments environment .loginWindow = some (.number 60) := by
    decide +kernel
  have hsweep : resolved arguments environment .loginSweep = some (.number 7) := by
    decide +kernel
  have hage : resolved arguments environment .sessionMaxAge = some (.number 604800) := by
    decide +kernel
  have h := (ofGiven_follows hparse).2.2.1 settings hread
  exact ⟨hparse, settings, hread, h.window.nanos_eq hwindow, h.sweepInterval.nanos_eq hsweep,
    h.sessionMaxAge.nanos_eq hage⟩

end Parsed

end Settings

end LoginGateway.CommandLine
