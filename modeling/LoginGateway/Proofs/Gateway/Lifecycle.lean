import LoginGateway.Proofs.Backend.Relay
import LoginGateway.Proofs.Gateway.Run

namespace LoginGateway.Gateway

open Http

/-- The guard has turned the request away: nothing is sent, and the client is told to log in. -/
def Refused (answer : Answer) : Prop := answer.received = [] ∧ answer.response.status = 401

section Guard

variable {network : Backend.Network} {gateway : Gateway} {arrival : Arrival}

theorem not_refused_passed (rest : String) (request : Request) :
    ¬ Refused (passed network gateway rest request) := by
  rintro ⟨hreceived, hstatus⟩
  unfold passed at hreceived hstatus
  split at hreceived
  · next hserves =>
    rw [if_pos hserves] at hstatus
    obtain hresult | ⟨detail, hresult⟩ := Backend.relay_of_not_received hreceived
    · dsimp only at hstatus
      rw [hresult] at hstatus
      cases hstatus
    · dsimp only at hstatus
      rw [hresult, outcome, status_response] at hstatus
      cases hstatus
  · next hserves =>
    rw [if_neg hserves] at hstatus
    cases hstatus

theorem refused_iff (hbelow : Below arrival.request.target.path)
    (hmethod : arrival.request.method ≠ .options) :
    Refused (handle network gateway arrival) ↔
      ¬ gateway.Authorised arrival.now arrival.request.headers := by
  rw [Refused, received_handle, status_handle]
  constructor
  · intro hrefused hauth
    obtain ⟨rest, hroute⟩ := below_iff.mp hbelow
    rw [inner_of_authorised hroute hmethod hauth] at hrefused
    exact not_refused_passed rest arrival.request hrefused
  · intro hauth
    rw [inner_of_not_authorised hbelow hmethod hauth]
    exact ⟨rfl, rfl⟩

end Guard

section Login

variable {network : Backend.Network} {gateway : Gateway} {arrival : Arrival}

theorem setCookie_handle (hpath : arrival.request.target.path = "/auth")
    (hmethod : arrival.request.method = .post)
    (hstatus : (handle network gateway arrival).response.status = 200) :
    ∃ cookie, (handle network gateway arrival).response.headers.all .setCookie = [cookie] ∧
      Session.Cookie.returned cookie =
        (Session.Cookie.pair (gateway.codec.issue arrival.now)).flatMap String.utf8EncodeChar := by
  have hinner : inner network gateway arrival = _ := inner_of_isLogin ⟨hpath, hmethod⟩
  have hcases := gateway.login_cases arrival.now arrival.request.headers arrival.request.body
  rw [status_handle, hinner] at hstatus
  rw [all_handle (by decide), hinner]
  generalize gateway.login arrival.now arrival.request.headers arrival.request.body = ended
    at hcases hstatus ⊢
  cases hcases with
  | limited | malformed | mismatched => cases hstatus
  | matched _ _ hreturned => exact ⟨_, rfl, hreturned⟩

end Login

section Session

variable {gateway gateway' : Gateway} {issued now : Duration} {cookie : HeaderValue} {headers : Headers}

theorem authorised_returned_iff (now : Duration) (hconfig : gateway'.config = gateway.config)
    (hcookie : Session.Cookie.returned cookie =
      (Session.Cookie.pair (gateway.codec.issue issued)).flatMap String.utf8EncodeChar)
    (hheaders : (headers.all .cookie).map (·.octets) = [Session.Cookie.returned cookie]) :
    gateway'.Authorised now headers ↔
      now.seconds ≤ issued.seconds + gateway.config.sessionMaxAge.seconds := by
  obtain ⟨value, hvalue, hoctets⟩ := List.map_eq_singleton_iff.mp hheaders
  have hcarries : Session.Cookie.Carries headers (gateway.codec.issue issued) :=
    (Session.Cookie.plain_issue gateway.codec issued).carries hvalue (hoctets.trans hcookie)
  rw [authorised_of_carries hcarries, codec_eq_of_config hconfig, gateway.codec.verify_issue]
  rfl

theorem lasts_of_whole_seconds {age : Duration} (h : age.subsecNanos = 0) :
    (now.nanos ≤ issued.nanos + age.nanos → now.seconds ≤ issued.seconds + age.seconds) ∧
    (issued.nanos + age.nanos + 1000000000 ≤ now.nanos →
      ¬ now.seconds ≤ issued.seconds + age.seconds) := by
  simp only [Duration.seconds, Duration.subsecNanos] at h ⊢
  omega

end Session

/-- The cookie that a login sets, sent back by itself, belongs to a session until the greatest age has
passed, in whole seconds: `/auth` says so, and the guard lets it through. What happened before the login,
and what happens after it, makes no difference. -/
theorem session_lasts {config : Config} {client : Backend.Client} {commit? : Option Build.Commit}
    {gateway : Gateway} (hstart : start config client commit? = .ok gateway) (before : List Action)
    (network : Backend.Network) (login : Arrival)
    (hpath : login.request.target.path = "/auth") (hmethod : login.request.method = .post)
    (hstatus : (handle network (gateway.run before) login).response.status = 200) :
    let granted := handle network (gateway.run before) login
    ∃ cookie, granted.response.headers.all .setCookie = [cookie] ∧
      ∀ (between : List Action) (network : Backend.Network) (later : Arrival),
        (later.request.headers.all .cookie).map (·.octets) = [Session.Cookie.returned cookie] →
        let answer := handle network (granted.gateway.run between) later
        let age := config.sessionMaxAge
        let lasts := later.now.seconds ≤ login.now.seconds + age.seconds
        (later.request.target.path = "/auth" → later.request.method = .get →
          (answer.response.status = 200 ↔ lasts)) ∧
        (Below later.request.target.path → later.request.method ≠ .options →
          (Refused answer ↔ ¬ lasts) ∧
          (lasts → ∃ rest, later.request.target.path = "/proxy" ++ rest ∧
            let answered := passed network (granted.gateway.run between) rest later.request
            answer.received = answered.received ∧
              answer.response.status = answered.response.status)) ∧
        (age.subsecNanos = 0 →
          (later.now.nanos ≤ login.now.nanos + age.nanos → lasts) ∧
          (login.now.nanos + age.nanos + 1000000000 ≤ later.now.nanos → ¬ lasts)) := by
  intro granted
  obtain ⟨hconfig, -⟩ := start_eq_ok_iff.mp hstart
  obtain ⟨cookie, hset, hcookie⟩ := setCookie_handle hpath hmethod hstatus
  refine ⟨cookie, hset, ?_⟩
  intro between network later hheaders answer age lasts
  -- neither the login nor what happens around it changes the settings, and with them the secret
  have hbefore : (gateway.run before).config = config := (gateway.config_run before).trans hconfig
  have hlater : (granted.gateway.run between).config = (gateway.run before).config :=
    (config_run _ between).trans (config_handle _ _ login)
  have hauth : (granted.gateway.run between).Authorised later.now later.request.headers ↔ lasts := by
    have hiff := authorised_returned_iff later.now hlater hcookie hheaders
    rwa [hbefore] at hiff
  refine ⟨?_, ?_, lasts_of_whole_seconds⟩
  · intro hpath hmethod
    rw [status_handle, inner_session hpath hmethod, status_sessionStatus, hauth]
  · intro hbelow hmethod
    refine ⟨(refused_iff hbelow hmethod).trans (not_congr hauth), ?_⟩
    intro hlasts
    obtain ⟨rest, hroute⟩ := below_iff.mp hbelow
    have hinner : inner network (granted.gateway.run between) later = _ :=
      inner_of_authorised hroute hmethod (hauth.mpr hlasts)
    refine ⟨rest, Route.eq_append_of_ofPath? hroute, ?_, ?_⟩
    · rw [received_handle, hinner]
    · rw [status_handle, hinner]

/-- A week after the login the session is good to the last nanosecond of that second, though a login of
the same source has failed and a sweep has come in between; from the next second on it is not. -/
theorem session_lasts_a_week :
    let network : Backend.Network := fun _ _ => .refused
    let empty : Request := { smallLogin with body := ⟨.empty, true⟩ }
    let failed : Action := .request network ⟨.zero, .ofText "", empty⟩
    let granted := handle network (small.run [failed]) ⟨.zero, .ofText "", smallLogin⟩
    granted.response.status = 200 ∧
    ∃ cookie, granted.response.headers.all .setCookie = [cookie] ∧
      ∀ later : Arrival,
        (later.request.headers.all .cookie).map (·.octets) = [Session.Cookie.returned cookie] →
        later.request.target.path = "/auth" → later.request.method = .get →
        let answer := handle network (granted.gateway.run [failed, .sweep later.now]) later
        (later.now.nanos = 604800999999999 → answer.response.status = 200) ∧
        (later.now.nanos = 604801000000000 → answer.response.status ≠ 200) := by
  intro network empty failed granted
  have hstatus : granted.response.status = 200 := by
    decide +kernel
  have hstart : start Config.small = .ok small := start_eq_ok_iff.mpr ⟨rfl, rfl, rfl, rfl⟩
  obtain ⟨cookie, hset, hlasts⟩ := session_lasts hstart [failed] network
    ⟨.zero, .ofText "", smallLogin⟩ rfl rfl hstatus
  refine ⟨hstatus, cookie, hset, ?_⟩
  intro later hheaders hpath hmethod answer
  have hasked := (hlasts [failed, .sweep later.now] network later hheaders).1 hpath hmethod
  have hage : Config.small.sessionMaxAge.seconds = 604800 := by
    decide
  have hseconds : later.now.seconds = later.now.nanos / 1000000000 := rfl
  have hzero : (Duration.zero).seconds = 0 := rfl
  rw [hage, hseconds, hzero] at hasked
  constructor
  · intro hnow
    exact hasked.mpr (by omega)
  · intro hnow hgood
    have := hasked.mp hgood
    omega

end LoginGateway.Gateway
