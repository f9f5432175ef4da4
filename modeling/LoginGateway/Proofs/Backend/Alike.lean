import LoginGateway.Proofs.Backend.Relay
import Mathlib.Data.List.Forall2

namespace LoginGateway.Backend

open Client

def AlikeFields (name : Http.HeaderName) (secret secret' : Http.HeaderValue)
    (field field' : Http.HeaderName × Http.HeaderValue) : Prop :=
  field' = field ∨ field = (name, secret) ∧ field' = (name, secret')

/-- The two requests are the same but for one secret in place of the other. -/
structure Alike (name : Http.HeaderName) (secret secret' : Http.HeaderValue)
    (request request' : Outgoing) : Prop where
  method : request'.method = request.method
  url : request'.url = request.url
  headers : List.Forall₂ (AlikeFields name secret secret') request.headers request'.headers
  body : request'.body = request.body

/-- A backend that does not tell the two secrets apart. -/
def Impartial (name : Http.HeaderName) (secret secret' : Http.HeaderValue) (network : Network) : Prop :=
  ∀ sofar sofar' request request', List.Forall₂ (Alike name secret secret') sofar sofar' →
    Alike name secret secret' request request' → network sofar' request' = network sofar request

/-- A backend that gives its replies in turn, whatever it is asked; after the last there is none. -/
def inTurn (replies : List Reply) : Network := fun sofar _ => replies.getD sofar.length .broken

section Alike

variable {name : Http.HeaderName} {secret secret' : Http.HeaderValue}

theorem impartial_inTurn (replies : List Reply) : Impartial name secret secret' (inTurn replies) := by
  intro sofar sofar' request request' hsofar _
  rw [inTurn, inTurn, hsofar.length_eq]

theorem AlikeFields.name_eq {field field' : Http.HeaderName × Http.HeaderValue}
    (h : AlikeFields name secret secret' field field') : field'.1 = field.1 := by
  obtain rfl | ⟨rfl, rfl⟩ := h
  · rfl
  · rfl

theorem alikeFields_same (headers : Http.Headers) :
    List.Forall₂ (AlikeFields name secret secret') headers headers :=
  List.forall₂_same.mpr fun _ _ => .inl rfl

section Redirects

variable {headers headers' : Http.Headers}

theorem alikeFields_filter (h : List.Forall₂ (AlikeFields name secret secret') headers headers')
    (p : Http.HeaderName → Bool) :
    List.Forall₂ (AlikeFields name secret secret') (headers.filter fun f => p f.1)
      (headers'.filter fun f => p f.1) := by
  refine List.rel_filter ?_ h
  intro field field' hfield
  dsimp only
  rw [hfield.name_eq]

theorem alikeFields_dropping (h : List.Forall₂ (AlikeFields name secret secret') headers headers')
    (names : List Http.HeaderName) :
    List.Forall₂ (AlikeFields name secret secret') (headers.dropping names) (headers'.dropping names) :=
  alikeFields_filter h fun n => !names.contains n

theorem alikeFields_replace (h : List.Forall₂ (AlikeFields name secret secret') headers headers')
    (other : Http.HeaderName) (value : Http.HeaderValue) :
    List.Forall₂ (AlikeFields name secret secret') (headers.replace other value)
      (headers'.replace other value) :=
  List.rel_append (alikeFields_filter h fun n => decide (n ≠ other)) (alikeFields_same _)

theorem alikeFields_withOwn (h : List.Forall₂ (AlikeFields name secret secret') headers headers') :
    List.Forall₂ (AlikeFields name secret secret') (withOwn headers) (withOwn headers') := by
  have hnames : headers.map Prod.fst = headers'.map Prod.fst := by
    rw [← List.forall₂_eq_eq_eq, List.forall₂_map_left_iff, List.forall₂_map_right_iff]
    exact h.imp fun _ _ hfield => hfield.name_eq.symm
  rw [withOwn, withOwn, hnames]
  exact List.rel_append h (alikeFields_same _)

variable {client : Client} {request request' : Outgoing}

theorem Alike.redirected (h : Alike name secret secret' request request') (status : Nat) (next : Url) :
    Alike name secret secret' (client.redirected request status next)
      (client.redirected request' status next) := by
  rw [Client.redirected, Client.redirected, h.method, h.url, h.body]
  generalize client.redirectedMethod status request.method = kept
  obtain ⟨method, keepsBody⟩ := kept
  refine ⟨rfl, rfl, ?_, rfl⟩
  have hpayload : List.Forall₂ (AlikeFields name secret secret')
      (if keepsBody then request.headers else request.headers.dropping payload)
      (if keepsBody then request'.headers else request'.headers.dropping payload) := by
    split
    · exact h.headers
    · exact alikeFields_dropping h.headers payload
  dsimp only
  generalize (if keepsBody = true then request.headers else _) = headers at hpayload ⊢
  generalize (if keepsBody = true then request'.headers else _) = headers' at hpayload ⊢
  have hserver : List.Forall₂ (AlikeFields name secret secret')
      (if sameServer request.url next then headers else headers.dropping sensitive)
      (if sameServer request.url next then headers' else headers'.dropping sensitive) := by
    split
    · exact hpayload
    · exact alikeFields_dropping hpayload sensitive
  cases referer? request.url next with
  | none => exact hserver
  | some link => exact alikeFields_replace hserver .referer link

end Redirects

structure AlikeExchanges (name : Http.HeaderName) (secret secret' : Http.HeaderValue)
    (exchange exchange' : Exchange) : Prop where
  received : List.Forall₂ (Alike name secret secret') exchange.received exchange'.received
  result : exchange'.result = exchange.result

variable {client : Client} {network : Network} {request request' : Outgoing}

theorem follow_alike (hnetwork : Impartial name secret secret' network) (first : Url) (budget : Nat)
    {sofar sofar' : List Outgoing} (hsofar : List.Forall₂ (Alike name secret secret') sofar sofar')
    (hrequest : Alike name secret secret' request request') :
    AlikeExchanges name secret secret' (client.follow network first budget sofar request)
      (client.follow network first budget sofar' request') := by
  have hreceived {sofar sofar' : List Outgoing} {request request' : Outgoing}
      (hsofar : List.Forall₂ (Alike name secret secret') sofar sofar')
      (hrequest : Alike name secret secret' request request') :
      List.Forall₂ (Alike name secret secret') (sofar ++ [request]) (sofar' ++ [request']) :=
    List.rel_append hsofar (.cons hrequest .nil)
  fun_induction client.follow network first budget sofar request generalizing sofar' request' with
  | @case1 budget sofar request hreply =>
    rw [← hnetwork sofar sofar' request request' hsofar hrequest] at hreply
    rw [follow_of_refused hreply]
    exact ⟨hsofar, rfl⟩
  | @case2 budget sofar request hreply =>
    rw [← hnetwork sofar sofar' request request' hsofar hrequest] at hreply
    rw [follow_of_broken hreply]
    exact ⟨hreceived hsofar hrequest, rfl⟩
  | @case3 budget sofar request status headers body complete hreply received hstay =>
    rw [← hnetwork sofar sofar' request request' hsofar hrequest] at hreply
    rw [← hrequest.url] at hstay
    rw [follow_of_not_redirected hreply hstay]
    exact ⟨hreceived hsofar hrequest, rfl⟩
  | @case4 sofar request status headers body complete hreply received next hnext =>
    rw [← hnetwork sofar sofar' request request' hsofar hrequest] at hreply
    rw [← hrequest.url] at hnext
    rw [follow_of_too_many hreply hnext, hrequest.url]
    exact ⟨hreceived hsofar hrequest, rfl⟩
  | @case5 sofar request status headers body complete hreply received next budget hnext hweb ih =>
    rw [← hnetwork sofar sofar' request request' hsofar hrequest] at hreply
    rw [← hrequest.url] at hnext
    rw [follow_of_led_on hreply hnext hweb]
    exact ih (hreceived hsofar hrequest) (hrequest.redirected status next)
  | @case6 sofar request status headers body complete hreply received next budget hnext hweb =>
    rw [← hnetwork sofar sofar' request request' hsofar hrequest] at hreply
    rw [← hrequest.url] at hnext
    rw [follow_of_led_off_web hreply hnext (Bool.not_eq_true _ ▸ hweb)]
    exact ⟨hreceived hsofar hrequest, rfl⟩

section Sending

variable {headers headers' : Http.Headers}
  (hheaders : List.Forall₂ (AlikeFields name secret secret') headers headers')
include hheaders

theorem alike_firstRequest (method : Http.Method) (url : Url) (body : Option ByteArray) :
    Alike name secret secret' (firstRequest method url headers body)
      (firstRequest method url headers' body) :=
  ⟨rfl, rfl, alikeFields_withOwn (List.rel_append (alikeFields_same _) hheaders), rfl⟩

theorem send_alike (hnetwork : Impartial name secret secret' network) (method : Http.Method)
    (address : String) (body : Option ByteArray) :
    AlikeExchanges name secret secret' (client.send network method address headers body)
      (client.send network method address headers' body) := by
  cases hurl : Url.parse address with
  | error fault =>
    rw [send_of_error _ _ _ _ hurl, send_of_error _ _ _ _ hurl]
    exact ⟨.nil, rfl⟩
  | ok url =>
    rw [send_of_parse _ _ _ _ hurl, send_of_parse _ _ _ _ hurl]
    cases Http.Target.parse (requested url).render with
    | error fault => exact ⟨.nil, rfl⟩
    | ok target =>
      exact follow_alike hnetwork _ maxRedirects .nil (alike_firstRequest hheaders method url body)

end Sending

theorem AlikeExchanges.reported {exchange exchange' : Exchange}
    (h : AlikeExchanges name secret secret' exchange exchange') :
    List.Forall₂ (Alike name secret secret') (reported exchange).received (reported exchange').received ∧
      (Backend.reported exchange').result = (Backend.reported exchange).result := by
  refine ⟨h.received, ?_⟩
  rw [Backend.reported, Backend.reported, h.result]

/-- Settings with another secret that can be sent lead to the same requests, but for the secret. -/
theorem relay_alike {config : Config} (client : Client)
    (hnetwork : Impartial config.secretHeader secret secret' network)
    (hsecret : Http.HeaderValue.ofString? config.backendSecret = some secret) {other : String}
    (hother : Http.HeaderValue.ofString? other = some secret') (rest : String)
    (request : Http.Request) :
    List.Forall₂ (Alike config.secretHeader secret secret')
      (relay client network config rest request).received
        (relay client network { config with backendSecret := other } rest request).received ∧
      (relay client network { config with backendSecret := other } rest request).result =
        (relay client network config rest request).result := by
  cases hdots : hasDotSegment rest with
  | true =>
    rw [relay_of_hasDotSegment hdots, relay_of_hasDotSegment hdots]
    exact ⟨.nil, rfl⟩
  | false =>
    have hheaders : List.Forall₂ (AlikeFields config.secretHeader secret secret')
        (relayedHeaders config secret)
        (relayedHeaders { config with backendSecret := other } secret') :=
      .cons (.inr ⟨rfl, rfl⟩) (alikeFields_same _)
    have hsent : relay client network { config with backendSecret := other } rest request =
        reported (client.send network request.method (address config rest request.target.query)
          (relayedHeaders { config with backendSecret := other } secret')
          (relayedBody request.method request.body)) := relay_eq_send hdots hother
    rw [relay_eq_send hdots hsecret, hsent]
    exact (send_alike hheaders hnetwork _ _ _).reported

end Alike

end LoginGateway.Backend
