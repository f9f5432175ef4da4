import LoginGateway.Proofs.Gateway.Reach
import LoginGateway.Proofs.Http.Target

namespace LoginGateway

namespace Backend

open Url Url.Path

/-- The URL leads to the server of the backend and there, segment for segment, to the path `rest` below
the path that the backend's URL and the prefix give. -/
structure Confined (config : Config) (rest : String) (url : Url) : Prop where
  scheme : url.scheme = config.backendUrl.scheme
  host : url.host? = config.backendUrl.host?
  port : url.effectivePort? = config.backendUrl.effectivePort?
  path : ∃ base above, Url.parse (mount config) = .ok base ∧ base.path = .rooted (above ++ [""]) ∧
    url.path = .rooted (above ++ (segmentsOf true (rest.toList.dropWhile isSlash)).map encodeSegment)

variable {config : Config} {rest : String}

theorem confined_congr {url url' : Url} (h : url.withoutCredentials = url'.withoutCredentials)
    (hconfined : Confined config rest url') : Confined config rest url := by
  have hsame := Url.sameOrigin_of_withoutCredentials h
  refine ⟨hsame.scheme.trans hconfined.scheme, hsame.host.trans hconfined.host,
    hsame.port.trans hconfined.port, ?_⟩
  rw [← Url.withoutCredentials_path, h]
  exact hconfined.path

theorem continues_mount : Continues ("".toList.dropWhile isSlash) (querySuffix none) :=
  continues_address (fun c hc => by cases hc) (fun text hnone => by cases hnone) (by decide)

theorem parse_address_confined (h : Mountable config)
    (hscheme : config.backendUrl.scheme = "http" ∨ config.backendUrl.scheme = "https")
    {query : Option String}
    (hcontinues : Continues (rest.toList.dropWhile isSlash) (querySuffix query)) :
    (∃ url, Url.parse (address config rest query) = .ok url ∧ Confined config rest url) ∨
      (∃ fault, Url.parse (address config rest query) = .error fault) ∧
        ∃ fault, Url.parse (mount config) = .error fault := by
  obtain ⟨above, hread⟩ | hnone := parse_address h hscheme
  · refine .inl ⟨_, hread rest query hcontinues, ?_⟩
    have hmount := hread "" none continues_mount
    rw [address_empty] at hmount
    exact ⟨rfl, rfl, rfl, _, above, hmount, rfl, rfl⟩
  · have hmount := hnone "" none continues_mount
    rw [address_empty] at hmount
    exact .inr ⟨⟨_, hnone rest query hcontinues⟩, _, hmount⟩

end Backend

namespace Gateway

open Backend Http

section Relaying

variable {gateway : Gateway} {arrival : Arrival} {uri rest : String}

theorem continues_of_parse {target : Target} {uri : String} (huri : Target.parse uri = .ok target)
    (hpath : target.path = "/proxy" ++ rest) (hdots : hasDotSegment rest = false) :
    Url.Continues (rest.toList.dropWhile Backend.isSlash) (querySuffix target.query) := by
  have hclean := Target.clean_of_parse huri
  refine continues_address ?_ (fun text htext c hc => (hclean.query text htext c hc).1) hdots
  intro c hc
  apply hclean.path
  rw [hpath, String.toList_append]
  exact List.mem_append_right _ hc

theorem Admitted.confined_of_sendable (h : Admitted gateway arrival rest)
    (hmount : Mountable gateway.config)
    (huri : Target.parse uri = .ok arrival.request.target)
    (hsendable : Sendable gateway.config rest arrival.request.target.query) :
    ∃ first : Outgoing, Confined gateway.config rest first.url ∧ ∀ network,
      (network [] first ≠ .refused → ∃ later, (handle network gateway arrival).received = first :: later) ∧
      (network [] first = .refused → (handle network gateway arrival).received = [] ∧
        (handle network gateway arrival).response.status = 502) := by
  obtain ⟨url, first, hurl, hfirst, -, -, hrelay⟩ := h.exists_first hsendable
  have hcontinues := continues_of_parse huri h.path (hasDotSegment_eq_false h.plain)
  have hconfined : Confined gateway.config rest url := by
    obtain ⟨url', hurl', hconfined⟩ | ⟨⟨fault, hfault⟩, -⟩ :=
      parse_address_confined hmount gateway.scheme_backendUrl hcontinues
    · obtain rfl : url' = url := Except.ok.inj (hurl'.symm.trans hurl)
      exact hconfined
    · rw [hurl] at hfault
      cases hfault
  refine ⟨first, ?_, fun network => ?_⟩
  · rw [hfirst]
    exact confined_congr (Client.requested_withoutCredentials url) hconfined
  · rw [h.handle_of_relay (hrelay network)]
    refine ⟨Client.exists_received_follow_iff.mpr, fun hrefused => ?_⟩
    rw [Client.follow_of_refused hrefused]
    exact ⟨rfl, rfl⟩

theorem Admitted.unsent_of_not_sendable (h : Admitted gateway arrival rest)
    (hnot : ¬ Sendable gateway.config rest arrival.request.target.query) (network : Network) :
    (handle network gateway arrival).received = [] ∧
      (handle network gateway arrival).response.status = 502 := by
  obtain ⟨fault, hfault⟩ := h.handle_of_not_sendable hnot
  rw [hfault]
  exact ⟨rfl, rfl⟩

theorem Admitted.not_refused (h : Admitted gateway arrival rest) (hmount : Mountable gateway.config)
    (huri : Target.parse uri = .ok arrival.request.target) (network : Network) :
    ¬ ((handle network gateway arrival).response.status = 400 ∧
      (handle network gateway arrival).received = []) := by
  rintro ⟨hbad, hnil⟩
  have hunavailable : (handle network gateway arrival).response.status = 502 := by
    by_cases hsendable : Sendable gateway.config rest arrival.request.target.query
    · obtain ⟨first, -, hfirst⟩ := h.confined_of_sendable hmount huri hsendable
      by_cases hrefused : network [] first = .refused
      · exact ((hfirst network).2 hrefused).2
      · obtain ⟨later, hlater⟩ := (hfirst network).1 hrefused
        rw [hnil] at hlater
        cases hlater
    · exact (h.unsent_of_not_sendable hsendable network).2
  rw [hbad] at hunavailable
  cases hunavailable

end Relaying

/-- A session's request is refused, and nothing sent, exactly if its path has a dot segment. Otherwise,
if there can be a request for the place at all, the same one is sent first whatever the network is like,
below the prefix of the backend; it is not received only if there is no connection. -/
theorem confined (gateway : Gateway) (arrival : Arrival) {uri rest : String}
    (hmount : Mountable gateway.config) (huri : Target.parse uri = .ok arrival.request.target)
    (hbelow : Below arrival.request.target.path)
    (hpath : arrival.request.target.path = "/proxy" ++ rest)
    (hmethod : arrival.request.method ∈ [.get, .head, .post, .put, .patch, .delete])
    (hauth : gateway.Authorised arrival.now arrival.request.headers) :
    (∀ network, (handle network gateway arrival).response.status = 400 ∧
        (handle network gateway arrival).received = [] ↔
      ∃ segment ∈ Url.Path.segmentsOf true rest.toList, Url.Path.IsDotSegment segment) ∧
    ((∀ segment ∈ Url.Path.segmentsOf true rest.toList, ¬ Url.Path.IsDotSegment segment) →
      (Sendable gateway.config rest arrival.request.target.query →
        ∃ first : Outgoing, Confined gateway.config rest first.url ∧ ∀ network,
          (network [] first ≠ .refused →
            ∃ later, (handle network gateway arrival).received = first :: later) ∧
          (network [] first = .refused → (handle network gateway arrival).received = [] ∧
            (handle network gateway arrival).response.status = 502)) ∧
      (¬ Sendable gateway.config rest arrival.request.target.query → ∀ network,
        (handle network gateway arrival).received = [] ∧
          (handle network gateway arrival).response.status = 502)) := by
  have hadmitted (hplain : ∀ segment ∈ Url.Path.segmentsOf true rest.toList,
      ¬ Url.Path.IsDotSegment segment) : Admitted gateway arrival rest :=
    ⟨hmount.made, hbelow, hpath, hmethod, hauth, hplain⟩
  refine ⟨fun network => ?_, fun hplain => ⟨(hadmitted hplain).confined_of_sendable hmount huri,
    (hadmitted hplain).unsent_of_not_sendable⟩⟩
  by_cases hdots : ∃ segment ∈ Url.Path.segmentsOf true rest.toList, Url.Path.IsDotSegment segment
  · refine iff_of_true ?_ hdots
    rw [received_handle, status_handle, inner_relay network hbelow hpath hmethod hauth,
      relay_of_hasDotSegment (hasDotSegment_iff.mpr hdots)]
    exact ⟨rfl, rfl⟩
  · have hplain := fun segment hsegment hdot => hdots ⟨segment, hsegment, hdot⟩
    exact iff_of_false ((hadmitted hplain).not_refused hmount huri network) hdots

/-- Empty segments, points within a segment and backslashes are no hindrance. -/
theorem confined_of_plain_path :
    let request : Request :=
      ⟨.get, ⟨"/proxy/a//%2e.b\\c", some "x=1"⟩, smallSession, ⟨.empty, true⟩⟩
    ∃ first : Outgoing, Confined Config.small "/a//%2e.b\\c" first.url ∧ ∀ network : Network,
      network [] first ≠ .refused →
        ∃ later, (handle network small ⟨.zero, .ofText "", request⟩).received = first :: later := by
  intro request
  have hplain : ∀ segment ∈ Url.Path.segmentsOf true "/a//%2e.b\\c".toList,
      ¬ Url.Path.IsDotSegment segment := by
    intro segment hsegment hdot
    exact absurd (hasDotSegment_iff.mpr ⟨segment, hsegment, hdot⟩) (by decide +kernel)
  have huri : Target.parse "/proxy/a//%2e.b\\c?x=1" = .ok request.target := by
    decide +kernel
  have hsendable : Sendable small.config "/a//%2e.b\\c" (some "x=1") := by
    refine ⟨sendable_small.secret, (requestable_iff mountable_small.made (.inl rfl)).mpr
      ⟨⟨"http", some ⟨"", none, some (.name "h"), none⟩,
        .rooted ["api", "fortress", "a", "", "%2e.b", "c"], some "x=1", none⟩, by decide +kernel,
        ⟨"/api/fortress/a//%2e.b/c", some "x=1"⟩, by decide +kernel⟩⟩
  obtain ⟨first, hconfined, hreceived⟩ :=
    ((confined small ⟨.zero, .ofText "", request⟩ mountable_small huri
      ⟨'a', "//%2e.b\\c".toList, by decide⟩ (by decide) (by decide) authorised_small).2 hplain).1 hsendable
  exact ⟨first, hconfined, fun network => (hreceived network).1⟩

end Gateway

end LoginGateway
