import LoginGateway.Proofs.Attempts.Run
import LoginGateway.Proofs.Backend.Relay
import LoginGateway.Proofs.Gateway.Guard

namespace LoginGateway

open Http Attempts

def Arrival.withBody (arrival : Arrival) (body : Body) : Arrival :=
  { arrival with request := { arrival.request with body } }

namespace Gateway

section Cases

variable (gateway : Gateway) (now : Duration) (headers : Headers) (body : Body)

def counted : Decision × Ledger :=
  gateway.ledger.check gateway.config.attempts now (Login.source headers)

/-- What a login may come to, and the gateway it leaves behind. -/
inductive LoginCase : Except Failure Response × Gateway → Prop
  | limited {wait : Duration} : (gateway.counted now headers).1 = .limited wait →
      LoginCase (.error (.rateLimited wait), gateway)
  | malformed : (gateway.counted now headers).1 = .allowed → givenPassword? body = none →
      LoginCase (.error .badRequest, gateway.withLedger (gateway.counted now headers).2)
  | mismatched {password : String} : (gateway.counted now headers).1 = .allowed →
      givenPassword? body = some password → password ≠ gateway.config.password →
      LoginCase (.error .invalidPassword, gateway.withLedger (gateway.counted now headers).2)
  | matched {cookie : HeaderValue} : (gateway.counted now headers).1 = .allowed →
      givenPassword? body = some gateway.config.password →
      Session.Cookie.returned cookie =
        (Session.Cookie.pair (gateway.codec.issue now)).flatMap String.utf8EncodeChar →
      LoginCase (.ok (success.withHeader .setCookie cookie),
        gateway.withLedger ((gateway.counted now headers).2.reset (Login.source headers)))

/-- The token of a login can always be set in a cookie. -/
theorem accepted_eq_ok :
    ∃ cookie, gateway.accepted now = .ok (success.withHeader .setCookie cookie) ∧
      Session.Cookie.returned cookie =
        (Session.Cookie.pair (gateway.codec.issue now)).flatMap String.utf8EncodeChar := by
  have hplain := Session.Cookie.plain_issue gateway.codec now
  obtain ⟨cookie, hcookie, hreturned⟩ := Session.Cookie.exists_setting? hplain.printable hplain.semicolon
    gateway.config.sessionMaxAge gateway.config.cookieSecure
  refine ⟨cookie, ?_, hreturned⟩
  unfold accepted
  rw [hcookie]

theorem accepted_congr {gateway gateway' : Gateway} (h : gateway.config = gateway'.config)
    (now : Duration) : gateway.accepted now = gateway'.accepted now := by
  simp only [accepted, codec, h]

theorem check_eq_counted :
    gateway.check now (Login.source headers) =
      ((gateway.counted now headers).1, gateway.withLedger (gateway.counted now headers).2) := rfl

variable {gateway now headers body}

theorem counted_of_limited {wait : Duration} (h : (gateway.counted now headers).1 = .limited wait) :
    (gateway.counted now headers).2 = gateway.ledger := by
  rw [counted, Ledger.check_eq_limited h]

theorem login_of_limited {wait : Duration} (h : (gateway.counted now headers).1 = .limited wait)
    (body : Body) : gateway.login now headers body = (.error (.rateLimited wait), gateway) := by
  rw [login, check_eq_counted, h, counted_of_limited h]
  rfl

variable (gateway now headers body)

theorem login_cases : LoginCase gateway now headers body (gateway.login now headers body) := by
  cases hdecision : (gateway.counted now headers).1 with
  | limited wait =>
    rw [login_of_limited hdecision]
    exact .limited hdecision
  | allowed =>
    rw [login, check_eq_counted, hdecision]
    dsimp only
    cases hgiven : givenPassword? body with
    | none => exact .malformed hdecision hgiven
    | some password =>
      dsimp only
      have hconfig : (gateway.withLedger (gateway.counted now headers).2).config = gateway.config := rfl
      rw [hconfig]
      by_cases hmatch : password = gateway.config.password
      · subst hmatch
        obtain ⟨cookie, haccepted, hreturned⟩ := gateway.accepted_eq_ok now
        rw [if_pos rfl, accepted_congr hconfig, haccepted]
        exact .matched hdecision hgiven hreturned
      · rw [if_neg hmatch]
        exact .mismatched hdecision hgiven hmatch

end Cases

/-- The body arrived as a whole, is not too long, and gives the password octet for octet. -/
def GivesPassword (config : Config) (body : Body) : Prop :=
  body.complete = true ∧ body.content.size ≤ 16384 ∧
    ∃ password, Login.Body.password? body.content.data.toList = some password ∧
      password.toUTF8 = config.password.toUTF8

theorem givesPassword_iff {config : Config} {body : Body} :
    GivesPassword config body ↔ givenPassword? body = some config.password := by
  have hsame (password : String) :
      password.toUTF8 = config.password.toUTF8 ↔ password = config.password := String.toByteArray_inj
  simp only [GivesPassword, hsame, exists_eq_right]
  rw [givenPassword?, maxLoginSize]
  cases body.complete with
  | false => exact iff_of_false (fun h => Bool.false_ne_true h.1) (by simp)
  | true =>
    simp only [Bool.not_true, Bool.false_or, decide_eq_true_eq]
    split
    · next hlong => exact iff_of_false (fun h => Nat.not_le.mpr hlong h.2.1) (by simp)
    · next hfits => exact ⟨fun h => h.2.2, fun h => ⟨trivial, Nat.not_lt.mp hfits, h⟩⟩

/-- The response sets the session cookie to a value that is not empty. -/
def GrantsSession (response : Response) : Prop :=
  ∃ cookie ∈ response.headers.all .setCookie, ∃ value ≠ [],
    Session.Cookie.returned cookie = Text.Utf8.encode "rampart_session=" ++ value

section Grants

variable {response : Response}

theorem flatMap_pair (token : String) :
    (Session.Cookie.pair token).flatMap String.utf8EncodeChar =
      Text.Utf8.encode "rampart_session=" ++ Text.Utf8.encode token := by
  rw [Session.Cookie.pair_eq_append, List.flatMap_append, Text.Utf8.encode, Text.Utf8.encode]

theorem grantsSession_of_returned {token : String} {cookie : HeaderValue}
    (hcookie : cookie ∈ response.headers.all .setCookie) (htoken : Session.Cookie.Plain token)
    (hreturned : Session.Cookie.returned cookie =
      (Session.Cookie.pair token).flatMap String.utf8EncodeChar) : GrantsSession response := by
  refine ⟨cookie, hcookie, Text.Utf8.encode token, ?_, hreturned.trans (flatMap_pair token)⟩
  rw [Text.Utf8.encode, Text.Utf8.octets_of_ascii htoken.printable.ascii]
  intro hempty
  exact htoken.ne (String.toList_inj.mp (List.map_eq_nil_iff.mp hempty))

theorem not_grantsSession (h : response.headers.all .setCookie = []) : ¬ GrantsSession response := by
  rintro ⟨cookie, hcookie, -⟩
  rw [h] at hcookie
  exact List.not_mem_nil hcookie

theorem not_grantsSession_failure (failure : Failure) : ¬ GrantsSession failure.response := by
  refine not_grantsSession ?_
  cases failure <;> rfl

theorem not_grantsSession_logout (gateway : Gateway) : ¬ GrantsSession gateway.logout := by
  obtain ⟨cookie, hcookie, hreturned⟩ : ∃ cookie,
      Session.Cookie.clearing? gateway.config.cookieSecure = some cookie ∧
        Session.Cookie.returned cookie = (Session.Cookie.pair "").flatMap String.utf8EncodeChar :=
    Session.Cookie.exists_setting? (by decide) (by decide) .zero gateway.config.cookieSecure
  rintro ⟨cookie', hmem, value, hvalue, hreturned'⟩
  unfold logout at hmem
  rw [hcookie] at hmem
  obtain rfl := List.mem_singleton.mp hmem
  rw [hreturned, flatMap_pair] at hreturned'
  exact hvalue (List.append_cancel_left hreturned').symm

theorem not_grantsSession_health (method : Method) (commit? : Option Build.Commit) :
    ¬ GrantsSession (health method commit?) := by
  refine not_grantsSession ?_
  rw [health]
  split
  · rw [all_withHeader _ (by decide)]
    split <;> rfl
  · split <;> rfl

theorem not_grantsSession_relay (client : Backend.Client) (network : Backend.Network) (config : Config)
    (rest : String) (request : Request) :
    ¬ GrantsSession (outcome (Backend.relay client network config rest request).result) := by
  obtain ⟨response, hresult⟩ | ⟨failure, hresult⟩ :=
    Backend.result_relay client network config rest request
  · rw [hresult]
    exact not_grantsSession rfl
  · rw [hresult]
    exact not_grantsSession_failure failure

end Grants

namespace LoginCase

variable {gateway : Gateway} {now : Duration} {headers : Headers} {body : Body}
  {ended : Except Failure Response × Gateway} (h : LoginCase gateway now headers body ended)
include h

/-- Whatever the login comes to, its attempt has been counted; a success forgets the source after that. -/
theorem ledger_eq_or : ended.2.ledger = (gateway.counted now headers).2 ∨
    ended.2.ledger = (gateway.counted now headers).2.reset (Login.source headers) := by
  cases h with
  | limited hlimited => exact .inl (counted_of_limited hlimited).symm
  | malformed | mismatched => exact .inl rfl
  | matched => exact .inr rfl

theorem find?_of_ne {other : String} (hother : other ≠ Login.source headers) :
    ended.2.ledger.find? other = gateway.ledger.find? other := by
  have hcounted : (gateway.counted now headers).2.find? other = gateway.ledger.find? other := by
    rw [counted, Ledger.find?_check, if_neg hother]
  obtain hledger | hledger := h.ledger_eq_or
  · rw [hledger, hcounted]
  · rw [hledger, Ledger.find?_reset, if_neg hother, hcounted]

theorem status_eq_limited_iff : (outcome ended.1).status = 429 ↔
    ∃ wait, (gateway.counted now headers).1 = .limited wait := by
  cases h with
  | limited hlimited => exact iff_of_true rfl ⟨_, hlimited⟩
  | malformed hallowed | mismatched hallowed | matched hallowed =>
    refine iff_of_false (by rintro ⟨⟩) ?_
    rw [hallowed]
    rintro ⟨wait, ⟨⟩⟩

theorem ledger_eq_counted (hstatus : (outcome ended.1).status = 400 ∨ (outcome ended.1).status = 401) :
    ended.2.ledger = (gateway.counted now headers).2 := by
  cases h with
  | malformed | mismatched => rfl
  | limited | matched => obtain hstatus | hstatus := hstatus <;> cases hstatus

theorem find?_source (hstatus : (outcome ended.1).status = 200) :
    ended.2.ledger.find? (Login.source headers) = none := by
  cases h with
  | limited | malformed | mismatched => cases hstatus
  | matched => exact (Ledger.find?_reset ..).trans (if_pos rfl)

theorem status_mem : (outcome ended.1).status ∈ [200, 400, 401, 429] := by
  cases h with
  | limited | malformed | mismatched | matched => simp [outcome, status_response, Failure.status, success,
      Response.json]

theorem status_eq_ok_iff : (outcome ended.1).status = 200 ↔
    (gateway.counted now headers).1 = .allowed ∧ GivesPassword gateway.config body := by
  rw [givesPassword_iff]
  cases h with
  | limited hlimited =>
    refine iff_of_false (by rintro ⟨⟩) ?_
    rw [hlimited]
    rintro ⟨⟨⟩, -⟩
  | malformed _ hgiven =>
    refine iff_of_false (by rintro ⟨⟩) ?_
    rw [hgiven]
    rintro ⟨-, ⟨⟩⟩
  | mismatched _ hgiven hmatch =>
    refine iff_of_false (by rintro ⟨⟩) ?_
    rw [hgiven]
    exact fun hboth => hmatch (Option.some.inj hboth.2)
  | matched hallowed hgiven => exact iff_of_true rfl ⟨hallowed, hgiven⟩

theorem grantsSession_iff : GrantsSession (outcome ended.1) ↔ (outcome ended.1).status = 200 := by
  cases h with
  | limited | malformed | mismatched =>
    exact iff_of_false (not_grantsSession_failure _) (by rintro ⟨⟩)
  | matched _ _ hreturned =>
    exact iff_of_true (grantsSession_of_returned List.mem_cons_self
      (Session.Cookie.plain_issue gateway.codec now) hreturned) rfl

end LoginCase

def IsLogin (request : Request) : Prop := request.target.path = "/auth" ∧ request.method = .post

section Requests

variable {network : Backend.Network} {gateway : Gateway} {arrival : Arrival}

theorem inner_of_isLogin (h : IsLogin arrival.request) :
    inner network gateway arrival =
      ⟨(gateway.login arrival.now arrival.request.headers arrival.request.body).2,
        outcome (gateway.login arrival.now arrival.request.headers arrival.request.body).1, []⟩ := by
  obtain ⟨hpath, hmethod⟩ := h
  have hroute : Route.ofPath? "/auth" = some .auth := if_pos rfl
  rw [inner, if_neg (by simp [hmethod]), hpath, hroute, serveRoute, serveAuth, hmethod]

theorem inner_of_not_isLogin (h : ¬ IsLogin arrival.request) :
    (inner network gateway arrival).gateway = gateway ∧
      ¬ GrantsSession (inner network gateway arrival).response := by
  rw [inner]
  split
  · exact ⟨rfl, not_grantsSession rfl⟩
  · cases hroute : Route.ofPath? arrival.request.target.path with
    | none => exact ⟨rfl, not_grantsSession rfl⟩
    | some route =>
      cases route with
      | auth =>
        have hpost : arrival.request.method ≠ .post := fun hmethod =>
          h ⟨Route.ofPath?_auth_iff.mp hroute, hmethod⟩
        rw [serveRoute, serveAuth]
        split
        · exact ⟨rfl, not_grantsSession rfl⟩
        · exact ⟨rfl, not_grantsSession rfl⟩
        · next hmethod => exact absurd hmethod hpost
        · exact ⟨rfl, not_grantsSession_logout gateway⟩
        · exact ⟨rfl, not_grantsSession rfl⟩
      | health =>
        rw [serveRoute, serveHealth]
        split
        · exact ⟨rfl, not_grantsSession_health arrival.request.method gateway.commit?⟩
        · exact ⟨rfl, not_grantsSession rfl⟩
      | proxy rest =>
        rw [serveRoute, serveProxy]
        split
        · exact ⟨rfl, not_grantsSession_failure _⟩
        · split
          · exact ⟨rfl, not_grantsSession_relay gateway.client network gateway.config rest arrival.request⟩
          · exact ⟨rfl, not_grantsSession rfl⟩

theorem gateway_handle_of_isLogin (h : IsLogin arrival.request) :
    (handle network gateway arrival).gateway =
      (gateway.login arrival.now arrival.request.headers arrival.request.body).2 :=
  congrArg Answer.gateway (inner_of_isLogin h)

theorem gateway_handle_of_not_isLogin (h : ¬ IsLogin arrival.request) :
    (handle network gateway arrival).gateway = gateway := (inner_of_not_isLogin h).1

theorem handle_withBody {body : Body}
    (h : inner network gateway (arrival.withBody body) = inner network gateway arrival) :
    handle network gateway (arrival.withBody body) = handle network gateway arrival := by
  have hlayers (a : Arrival) : handle network gateway a =
      { inner network gateway a with
        response := (withOrigins (withLength a.request.method (withAllow
          (Route.ofPath? a.request.target.path) a.request.method
          (inner network gateway a).response))).withHeader .requestId (requestId a) } := rfl
  rw [hlayers, hlayers, h]
  rfl

theorem inner_of_limited (h : IsLogin arrival.request) {wait : Duration}
    (hlimited : (gateway.counted arrival.now arrival.request.headers).1 = .limited wait) :
    inner network gateway arrival = ⟨gateway, (Failure.rateLimited wait).response, []⟩ := by
  rw [inner_of_isLogin h, login_of_limited hlimited]
  rfl

theorem handle_of_limited (h : IsLogin arrival.request) {wait : Duration}
    (hlimited : (gateway.counted arrival.now arrival.request.headers).1 = .limited wait) (body : Body) :
    handle network gateway (arrival.withBody body) = handle network gateway arrival := by
  have hlogin : IsLogin (arrival.withBody body).request := h
  apply handle_withBody
  rw [inner_of_limited hlogin hlimited, inner_of_limited h hlimited]

end Requests

/-- What a request does to the ledger. Only a login changes it, and of its records only that of its source:
a refused login not at all, and whatever its body; a failed one counts once; one that succeeds forgets the
source. A session is given exactly if the login succeeds, which takes an admitted attempt and the password.
A login never ends in an error of the gateway itself. -/
theorem login_effect (network : Backend.Network) (gateway : Gateway) (arrival : Arrival) :
    let request := arrival.request
    let source := Login.source request.headers
    let counted := gateway.ledger.check gateway.config.attempts arrival.now source
    let answer := handle network gateway arrival
    let status := answer.response.status
    (¬ IsLogin request → answer.gateway = gateway) ∧
    (IsLogin request →
      (∀ other, other ≠ source →
        answer.gateway.ledger.find? other = gateway.ledger.find? other) ∧
      (status = 429 → answer.gateway = gateway ∧
        ∀ body, handle network gateway (arrival.withBody body) = answer) ∧
      (status = 400 ∨ status = 401 → answer.gateway.ledger = counted.2) ∧
      (status = 200 → answer.gateway.ledger.find? source = none) ∧
      (status = 200 ↔ counted.1 = .allowed ∧ GivesPassword gateway.config request.body) ∧
      status ∈ [200, 400, 401, 429]) ∧
    (GrantsSession answer.response ↔ IsLogin request ∧ status = 200) := by
  intro request source counted answer status
  have hgrants : GrantsSession answer.response ↔
      GrantsSession (inner network gateway arrival).response := by
    rw [GrantsSession, GrantsSession, all_handle (by decide)]
  have hstatus : status = (inner network gateway arrival).response.status := status_handle
  by_cases hlogin : IsLogin request
  · have hinner : inner network gateway arrival = _ := inner_of_isLogin hlogin
    have hcases := gateway.login_cases arrival.now request.headers request.body
    have hgateway : answer.gateway = (gateway.login arrival.now request.headers request.body).2 :=
      gateway_handle_of_isLogin hlogin
    rw [hinner] at hgrants hstatus
    refine ⟨fun hnot => absurd hlogin hnot, fun _ => ⟨?_, ?_, ?_, ?_, ?_, ?_⟩, ?_⟩
    · intro other hother
      rw [hgateway]
      exact hcases.find?_of_ne hother
    · intro hlimited
      obtain ⟨wait, hwait⟩ := hcases.status_eq_limited_iff.mp (hstatus.symm.trans hlimited)
      exact ⟨congrArg Answer.gateway (inner_of_limited hlogin hwait), handle_of_limited hlogin hwait⟩
    · intro hfailed
      rw [hgateway]
      exact hcases.ledger_eq_counted (hstatus ▸ hfailed)
    · intro hok
      rw [hgateway]
      exact hcases.find?_source (hstatus.symm.trans hok)
    · rw [hstatus]
      exact hcases.status_eq_ok_iff
    · rw [hstatus]
      exact hcases.status_mem
    · rw [hgrants, hstatus]
      exact hcases.grantsSession_iff.trans (iff_and_self.mpr fun _ => hlogin)
  · obtain ⟨hgateway, hnone⟩ : (inner network gateway arrival).gateway = gateway ∧
        ¬ GrantsSession (inner network gateway arrival).response := inner_of_not_isLogin hlogin
    exact ⟨fun _ => hgateway, fun h => absurd h hlogin,
      iff_of_false (hgrants.not.mpr hnone) fun h => hlogin h.1⟩

def smallLogin : Request :=
  ⟨.post, ⟨"/auth", none⟩, [], ⟨"\x7b\"password\":\"p\"\x7d".toUTF8, true⟩⟩

/-- An empty body is a login that fails, and it counts; the password is given a session, and then
nothing is left of what was counted. -/
theorem empty_login_counted :
    let failed := handle (fun _ _ => .refused) small
      ⟨.zero, .ofText "", { smallLogin with body := ⟨.empty, true⟩ }⟩
    let passed := handle (fun _ _ => .refused) failed.gateway ⟨.zero, .ofText "", smallLogin⟩
    (failed.response.status = 400 ∧ failed.gateway.ledger.entries = [("127.0.0.1", ⟨1, .zero⟩)]) ∧
      passed.response.status = 200 ∧ passed.gateway.ledger.find? "127.0.0.1" = none ∧
        GrantsSession passed.response := by
  intro failed passed
  have hfailed : failed.response.status = 400 := by
    decide +kernel
  have hpassed : passed.response.status = 200 := by
    decide +kernel
  have hcount := (login_effect (fun _ _ => .refused) small
    ⟨.zero, .ofText "", { smallLogin with body := ⟨.empty, true⟩ }⟩).2.1 ⟨rfl, rfl⟩
  have hforget := login_effect (fun _ _ => .refused) failed.gateway ⟨.zero, .ofText "", smallLogin⟩
  refine ⟨⟨hfailed, ?_⟩, hpassed, (hforget.2.1 ⟨rfl, rfl⟩).2.2.2.1 hpassed,
    hforget.2.2.mpr ⟨⟨rfl, rfl⟩, hpassed⟩⟩
  rw [hcount.2.2.1 (.inl hfailed)]
  decide +kernel

end Gateway

end LoginGateway
