import LoginGateway.Gateway.Serve

namespace LoginGateway.Gateway

open Http

namespace Route

theorem ofPath?_auth_iff {path : String} : ofPath? path = some auth ↔ path = "/auth" := by
  rw [ofPath?]
  split
  · next hauth => exact iff_of_true rfl hauth
  · next hauth =>
    refine iff_of_false ?_ hauth
    split
    · rintro ⟨⟩
    · split <;> rintro ⟨⟩

theorem ofPath?_proxy_iff {path rest : String} :
    ofPath? path = some (.proxy rest) ↔
      path.toList = "/proxy".toList ++ rest.toList ∧ ∃ c cs, rest.toList = '/' :: c :: cs := by
  rw [ofPath?]
  split
  · next hauth =>
    subst hauth
    simp
  split
  · next hhealth =>
    subst hhealth
    simp
  split
  · next c cs hdrop =>
    rw [Text.dropFront?_eq_some] at hdrop
    rw [hdrop, Option.some.injEq, Route.proxy.injEq]
    constructor
    · rintro rfl
      exact ⟨congrArg ("/proxy".toList ++ ·) String.toList_ofList.symm, c, cs, String.toList_ofList⟩
    · rintro ⟨hpath, -⟩
      rw [List.append_cancel_left hpath, String.ofList_toList]
  · next hdrop =>
    refine iff_of_false (by simp) ?_
    rintro ⟨hpath, c, cs, hrest⟩
    exact hdrop c cs (Text.dropFront?_eq_some.mpr (hrest ▸ hpath))

theorem eq_append_of_ofPath? {path rest : String} (h : ofPath? path = some (.proxy rest)) :
    path = "/proxy" ++ rest := by
  rw [← String.toList_inj, String.toList_append]
  exact (ofPath?_proxy_iff.mp h).1

theorem serves_proxy_iff {rest : String} {method : Method} :
    (proxy rest).serves method = true ↔ method ∈ [.get, .head, .post, .put, .patch, .delete] := by
  rw [serves, methods, List.contains_iff_mem]

end Route

theorem status_response (failure : Failure) : failure.response.status = failure.status := by
  cases failure <;> rfl

/-- The path goes on after `/proxy/`. -/
def Below (path : String) : Prop := ∃ c cs, path.toList = "/proxy/".toList ++ c :: cs

theorem below_iff {path : String} : Below path ↔ ∃ rest, Route.ofPath? path = some (.proxy rest) := by
  simp only [Route.ofPath?_proxy_iff, Below]
  constructor
  · rintro ⟨c, cs, h⟩
    exact ⟨String.ofList ('/' :: c :: cs), by simpa using h, c, cs, String.toList_ofList⟩
  · rintro ⟨rest, hpath, c, cs, hrest⟩
    exact ⟨c, cs, by simpa [hrest] using hpath⟩

section Layers

variable (response : Response)

@[simp] theorem status_withHeader (name : HeaderName) (value : HeaderValue) :
    (response.withHeader name value).status = response.status := rfl

@[simp] theorem body_withHeader (name : HeaderName) (value : HeaderValue) :
    (response.withHeader name value).body = response.body := rfl

@[simp] theorem status_withAllow (route : Option Route) (method : Method) :
    (withAllow route method response).status = response.status := by
  unfold withAllow
  split
  · rfl
  · split <;> rfl

@[simp] theorem body_withAllow (route : Option Route) (method : Method) :
    (withAllow route method response).body = response.body := by
  unfold withAllow
  split
  · rfl
  · split <;> rfl

@[simp] theorem status_withLength (method : Method) :
    (withLength method response).status = response.status := by
  unfold withLength
  split <;> rfl

@[simp] theorem body_withLength (method : Method) :
    (withLength method response).body = if method = .head then .empty else response.body := by
  unfold withLength
  split <;> rfl

@[simp] theorem status_withOrigins : (withOrigins response).status = response.status := rfl

@[simp] theorem body_withOrigins : (withOrigins response).body = response.body := rfl

theorem all_withHeader {name other : HeaderName} (h : other ≠ name) (value : HeaderValue) :
    (response.withHeader name value).headers.all other = response.headers.all other := by
  rw [Response.withHeader, Headers.all, List.filterMap_append]
  simp only [List.filterMap_cons, if_neg h.symm, List.filterMap_nil, List.append_nil, Headers.all]

theorem all_withAllow {other : HeaderName} (h : other ≠ .allow) (route : Option Route) (method : Method) :
    (withAllow route method response).headers.all other = response.headers.all other := by
  unfold withAllow
  split
  · rfl
  · split
    · rfl
    · exact all_withHeader response h _

theorem all_withLength {other : HeaderName} (h : other ≠ .contentLength) (method : Method) :
    (withLength method response).headers.all other = response.headers.all other := by
  unfold withLength
  split
  · exact all_withHeader response h _
  · exact all_withHeader response h _

theorem all_withOrigins {other : HeaderName} (h : other ≠ .accessControlAllowOrigin)
    (h' : other ≠ .vary) :
    (withOrigins response).headers.all other = response.headers.all other := by
  rw [withOrigins, all_withHeader _ h', all_withHeader _ h]

end Layers

def layerNames : List HeaderName :=
  [.allow, .contentLength, .accessControlAllowOrigin, .vary, .requestId]

variable {network : Backend.Network} {gateway : Gateway} {arrival : Arrival}

/-- The answer before the layers around all resources. -/
def inner (network : Backend.Network) (gateway : Gateway) (arrival : Arrival) : Answer :=
  if arrival.request.method = .options then ⟨gateway, preflight, []⟩
  else serveRoute network gateway arrival.now arrival.request
    (Route.ofPath? arrival.request.target.path)

@[simp] theorem received_handle :
    (handle network gateway arrival).received = (inner network gateway arrival).received := rfl

@[simp] theorem status_handle :
    (handle network gateway arrival).response.status =
      (inner network gateway arrival).response.status := by
  simp only [handle, status_withHeader, status_withOrigins, status_withLength, status_withAllow, inner]

@[simp] theorem body_handle :
    (handle network gateway arrival).response.body =
      if arrival.request.method = .head then .empty
      else (inner network gateway arrival).response.body := by
  simp only [handle, body_withHeader, body_withOrigins, body_withLength, body_withAllow, inner]

theorem all_handle {name : HeaderName} (h : name ∉ layerNames) :
    (handle network gateway arrival).response.headers.all name =
      (inner network gateway arrival).response.headers.all name := by
  simp only [layerNames, List.mem_cons, List.not_mem_nil, not_or, or_false] at h
  obtain ⟨hallow, hlength, horigin, hvary, hid⟩ := h
  rw [handle, all_withHeader _ hid, all_withOrigins _ horigin hvary, all_withLength _ hlength,
    all_withAllow _ hallow, inner]

/-- The response of a resource as the client gets it: with its length and the fields that every response
has, and to HEAD without a body. -/
def delivered (arrival : Arrival) (response : Response) : Response where
  status := response.status
  headers := response.headers ++
    [(.contentLength, .ofNat response.body.size), (.accessControlAllowOrigin, .ofText "*"),
      (.vary, .ofText "origin, access-control-request-method, access-control-request-headers"),
      (.requestId, requestId arrival)]
  body := if arrival.request.method = .head then .empty else response.body

theorem response_handle {route : Route} (hroute : Route.ofPath? arrival.request.target.path = some route)
    (hserves : route.serves arrival.request.method = true) :
    (handle network gateway arrival).response =
      delivered arrival (inner network gateway arrival).response := by
  have hallow (response : Response) :
      withAllow (some route) arrival.request.method response = response := by
    rw [withAllow, hserves, if_pos rfl]
  rw [handle, hroute, hallow, inner, hroute, withLength, delivered]
  simp only [withOrigins, Response.withHeader]
  split <;> simp

theorem inner_proxy {rest : String} (hmethod : arrival.request.method ≠ .options)
    (hroute : Route.ofPath? arrival.request.target.path = some (.proxy rest)) :
    inner network gateway arrival =
      serveProxy network gateway arrival.now rest arrival.request := by
  rw [inner, if_neg hmethod, hroute, serveRoute]

theorem received_inner (h : (inner network gateway arrival).received ≠ []) :
    ∃ rest, Route.ofPath? arrival.request.target.path = some (.proxy rest) ∧
      (inner network gateway arrival).received =
        (serveProxy network gateway arrival.now rest arrival.request).received := by
  unfold inner at h ⊢
  split at h
  · exact absurd rfl h
  · next hmethod =>
    rw [if_neg hmethod]
    cases hroute : Route.ofPath? arrival.request.target.path with
    | none =>
      rw [hroute] at h
      exact absurd rfl h
    | some route =>
      rw [hroute] at h
      cases route with
      | proxy rest => exact ⟨rest, rfl, rfl⟩
      | auth =>
        refine absurd ?_ h
        simp only [serveRoute, serveAuth]
        split <;> rfl
      | health =>
        refine absurd ?_ h
        simp only [serveRoute, serveHealth]
        split <;> rfl

end LoginGateway.Gateway
