import LoginGateway.Backend.Client
import LoginGateway.Proofs.Url.Origin

namespace LoginGateway

namespace Http.Headers

variable {name : HeaderName} {value : HeaderValue} {headers : Headers}

theorem mem_without {other : HeaderName} (h : name ≠ other) :
    (name, value) ∈ headers.without other ↔ (name, value) ∈ headers := by
  rw [without, List.mem_filter, decide_eq_true_eq]
  exact and_iff_left h

theorem mem_dropping {names : List HeaderName} (h : name ∉ names) :
    (name, value) ∈ headers.dropping names ↔ (name, value) ∈ headers := by
  rw [dropping, List.mem_filter, Bool.not_eq_true', ← Bool.not_eq_true, List.contains_iff_mem]
  exact and_iff_left h

theorem all_append (headers more : Headers) (name : HeaderName) :
    all (headers ++ more) name = headers.all name ++ more.all name :=
  List.filterMap_append

theorem all_cons_self (name : HeaderName) (value : HeaderValue) (headers : Headers) :
    all ((name, value) :: headers) name = value :: headers.all name :=
  List.filterMap_cons_some (if_pos rfl)

theorem all_singleton (name other : HeaderName) (value : HeaderValue) :
    all [(other, value)] name = if other = name then [value] else [] := by
  by_cases h : other = name <;> simp [all, h]

theorem all_dropping {names : List HeaderName} (h : name ∈ names) (headers : Headers) :
    (headers.dropping names).all name = [] := by
  rw [all, List.filterMap_eq_nil_iff]
  intro field hfield
  rw [dropping, List.mem_filter, Bool.not_eq_true', ← Bool.not_eq_true, List.contains_iff_mem] at hfield
  refine if_neg ?_
  rintro rfl
  exact hfield.2 h

end Http.Headers

namespace Backend.Client

variable {client : Client}

/-- A request is received, whatever comes after it, unless there is no connection. -/
theorem received_follow (client : Client) (network : Network) (first : Url) (budget : Nat)
    (received : List Outgoing) (request : Outgoing) :
    (∃ later,
      (client.follow network first budget received request).received = received ++ request :: later) ∨
      network received request = .refused ∧
        client.follow network first budget received request = ⟨received, .error (.unsent first)⟩ := by
  fun_induction client.follow network first budget received request with
  | case1 budget received request hreply => exact .inr ⟨hreply, rfl⟩
  | case2 => exact .inl ⟨[], rfl⟩
  | case3 => exact .inl ⟨[], rfl⟩
  | case4 => exact .inl ⟨[], rfl⟩
  -- a redirected request is received after this one, if it is received at all
  | case5 received request status headers body complete hreply sofar next budget hnext hweb ih =>
    refine .inl ?_
    obtain ⟨later, hlater⟩ | ⟨-, hnone⟩ := ih
    · refine ⟨client.redirected request status next :: later, ?_⟩
      rw [hlater, List.append_assoc]
      rfl
    · refine ⟨[], ?_⟩
      rw [hnone]
  | case6 => exact .inl ⟨[], rfl⟩

section Following

variable {network : Network} {first : Url} {budget : Nat} {received : List Outgoing} {request : Outgoing}

theorem follow_of_refused (h : network received request = .refused) :
    client.follow network first budget received request = ⟨received, .error (.unsent first)⟩ := by
  rw [follow, h]

theorem exists_received_follow_iff :
    (∃ later,
      (client.follow network first budget received request).received = received ++ request :: later) ↔
      network received request ≠ .refused := by
  obtain ⟨later, hlater⟩ | ⟨hrefused, hnone⟩ :=
    client.received_follow network first budget received request
  · refine iff_of_true ⟨later, hlater⟩ fun hrefused => ?_
    rw [follow_of_refused hrefused] at hlater
    exact List.cons_ne_nil request later (List.self_eq_append_right.mp hlater)
  · rw [hnone]
    refine iff_of_false ?_ fun hne => hne hrefused
    rintro ⟨later, hlater⟩
    exact List.cons_ne_nil request later (List.self_eq_append_right.mp hlater)

theorem received_follow_eq_nil_iff :
    (client.follow network first budget [] request).received = [] ↔ network [] request = .refused := by
  by_cases hrefused : network [] request = .refused
  · rw [follow_of_refused hrefused]
    exact iff_of_true rfl hrefused
  · obtain ⟨later, hlater⟩ :
        ∃ later, (client.follow network first budget [] request).received = [] ++ request :: later :=
      exists_received_follow_iff.mpr hrefused
    rw [hlater]
    exact iff_of_false (List.cons_ne_nil request later) hrefused

theorem follow_of_broken (h : network received request = .broken) :
    client.follow network first budget received request =
      ⟨received ++ [request], .error (.unsent first)⟩ := by
  rw [follow, h]

variable {status : Nat} {headers : Http.Headers} {body : ByteArray} {complete : Bool}

theorem follow_of_not_redirected (h : network received request = .answered status headers body complete)
    (hstay : client.redirection? request.url status headers = none) :
    client.follow network first budget received request =
      ⟨received ++ [request], if complete then .ok ⟨status, headers, body⟩ else .error .brokenBody⟩ := by
  rw [follow, h]
  dsimp only
  rw [hstay]

theorem follow_of_led_off_web (h : network received request = .answered status headers body complete)
    {next : Url} (hnext : client.redirection? request.url status headers = some next)
    (hscheme : Config.isWebScheme next.scheme = false) :
    client.follow network first (budget + 1) received request =
      ⟨received ++ [request], .error (.unsuitable next)⟩ := by
  rw [follow, h]
  dsimp only
  rw [hnext]
  dsimp only
  rw [hscheme, if_neg Bool.false_ne_true]

theorem follow_of_too_many (h : network received request = .answered status headers body complete)
    {next : Url} (hnext : client.redirection? request.url status headers = some next) :
    client.follow network first 0 received request =
      ⟨received ++ [request], .error (.tooManyRedirects request.url)⟩ := by
  rw [follow, h]
  dsimp only
  rw [hnext]

theorem follow_of_led_on (h : network received request = .answered status headers body complete)
    {next : Url} (hnext : client.redirection? request.url status headers = some next)
    (hscheme : Config.isWebScheme next.scheme = true) :
    client.follow network first (budget + 1) received request =
      client.follow network first budget (received ++ [request])
        (client.redirected request status next) := by
  rw [follow, h]
  dsimp only
  rw [hnext]
  dsimp only
  rw [hscheme, if_pos rfl]

end Following

/-- The URL of the request that is sent first: if there are credentials in it, they are left out. -/
def requested (url : Url) : Url :=
  match url.credentials? with
  | none => url
  | some _ => url.withoutCredentials

def basic (url : Url) : Http.Headers :=
  (url.credentials?.map fun c => (.authorization, basicAuthorization c.1 c.2)).toList

def firstRequest (method : Http.Method) (url : Url) (headers : Http.Headers) (body : Option ByteArray) :
    Outgoing :=
  ⟨method, requested url, withOwn (basic url ++ headers), body⟩

theorem all_withOwn {headers : Http.Headers} {name : Http.HeaderName} {value : Http.HeaderValue}
    (h : (name, value) ∈ headers) : (withOwn headers).all name = headers.all name := by
  rw [withOwn, Http.Headers.all_append, Http.Headers.all_dropping (List.mem_map_of_mem h), List.append_nil]

section Sending

variable {address : String} (network : Network) (method : Http.Method) (url : Url)
  (headers : Http.Headers) (body : Option ByteArray)

theorem requested_withoutCredentials : (requested url).withoutCredentials = url.withoutCredentials := by
  unfold requested
  split
  · rfl
  · exact url.withoutCredentials_withoutCredentials

theorem send_of_error {fault : UrlFault} (h : Url.parse address = .error fault) :
    client.send network method address headers body = ⟨[], .error .unbuildable⟩ := by
  rw [send, h]

variable {url}

theorem send_of_parse (h : Url.parse address = .ok url) :
    client.send network method address headers body =
      match Http.Target.parse (requested url).render with
      | .error _ => ⟨[], .error (.unsuitable (requested url))⟩
      | .ok _ => client.follow network (requested url) maxRedirects []
          (firstRequest method url headers body) := by
  rw [send, h, firstRequest, requested, basic]
  dsimp only
  cases url.credentials? with
  | none => rfl
  | some credentials => rfl

theorem result_of_not_received (h : (client.send network method address headers body).received = []) :
    ∃ fault, (client.send network method address headers body).result = .error fault := by
  cases hparse : Url.parse address with
  | error fault =>
    rw [send_of_error network method headers body hparse]
    exact ⟨_, rfl⟩
  | ok url =>
    rw [send_of_parse network method headers body hparse] at h ⊢
    cases htarget : Http.Target.parse (requested url).render with
    | error fault => exact ⟨_, rfl⟩
    | ok target =>
      rw [htarget] at h
      dsimp only at h ⊢
      rw [follow_of_refused (received_follow_eq_nil_iff.mp h)]
      exact ⟨_, rfl⟩

end Sending

end Backend.Client

end LoginGateway
