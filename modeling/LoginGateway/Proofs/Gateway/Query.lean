import LoginGateway.Proofs.Gateway.Confinement

namespace LoginGateway.Gateway

open Backend Http Url

section Legal

def queryMarks : List Char :=
  ['-', '.', '_', '~', '!', '$', '&', '\x27', '(', ')', '*', '+', ',', ';', '=', ':', '@', '/', '?']

def isQueryLetter (c : Char) : Bool := c.isAlphanum || queryMarks.contains c

/-- A query by its grammar: characters that stand for themselves, and octets as `%` with two digits. -/
def isLegalQuery : List Char → Bool
  | '%' :: a :: b :: cs => (Text.Hex.value? a).isSome && (Text.Hex.value? b).isSome && isLegalQuery cs
  | c :: cs => isQueryLetter c && isLegalQuery cs
  | [] => true

/-- The text with its apostrophes percent-encoded. -/
def withoutApostrophes (cs : List Char) : List Char :=
  cs.flatMap fun c => if c = '\x27' then "%27".toList else [c]

variable {cs : List Char}

theorem isQueryLetter_of_value? {c : Char} (h : (Text.Hex.value? c).isSome = true) :
    isQueryLetter c = true := by
  obtain ⟨n, hn⟩ := Option.isSome_iff_exists.mp h
  rw [isQueryLetter, Text.Hex.isAlphanum_of_value? hn, Bool.true_or]

theorem mem_of_isLegalQuery (h : isLegalQuery cs = true) :
    ∀ c ∈ cs, c = '%' ∨ isQueryLetter c = true := by
  fun_induction isLegalQuery cs with
  | case1 a b cs ih =>
    rw [Bool.and_eq_true, Bool.and_eq_true] at h
    obtain ⟨⟨ha, hb⟩, hcs⟩ := h
    rw [List.forall_mem_cons, List.forall_mem_cons, List.forall_mem_cons]
    exact ⟨.inl rfl, .inr (isQueryLetter_of_value? ha), .inr (isQueryLetter_of_value? hb), ih hcs⟩
  | case2 c cs _ ih =>
    rw [Bool.and_eq_true] at h
    exact List.forall_mem_cons.mpr ⟨.inr h.1, ih h.2⟩
  | case3 => exact List.forall_mem_nil _

theorem encodeChar_of_mem {c : Char} (h : c = '%' ∨ isQueryLetter c = true) :
    c ≠ '#' ∧ Percent.encodeChar .specialQuery c = if c = '\x27' then "%27".toList else [c] := by
  have key : ∀ n < 128, Char.ofNat n = '%' ∨ isQueryLetter (Char.ofNat n) = true →
      Char.ofNat n ≠ '#' ∧ Percent.encodeChar .specialQuery (Char.ofNat n) =
        if Char.ofNat n = '\x27' then "%27".toList else [Char.ofNat n] := by
    decide +kernel
  have hascii : c.toNat < 128 := by
    rw [isQueryLetter, Bool.or_eq_true, List.contains_iff_mem] at h
    obtain rfl | halnum | hmem := h
    · decide
    · exact Text.ascii_of_isAlphanum halnum
    · have key : ∀ c ∈ queryMarks, c.toNat < 128 := List.all_iff_forall_prop.mp (by decide)
      exact key c hmem
  obtain ⟨n, hn, rfl⟩ := Text.exists_ofNat_of_ascii hascii
  exact key n hn h

theorem encode_of_isLegalQuery (h : isLegalQuery cs = true) :
    '#' ∉ cs ∧ Percent.encode .specialQuery cs = withoutApostrophes cs := by
  have hchars (c : Char) (hc : c ∈ cs) := encodeChar_of_mem (mem_of_isLegalQuery h c hc)
  exact ⟨fun hmem => (hchars '#' hmem).1 rfl, List.flatMap_congr fun c hc => (hchars c hc).2⟩

theorem withoutApostrophes_eq_self_iff : withoutApostrophes cs = cs ↔ '\x27' ∉ cs := by
  induction cs with
  | nil => exact iff_of_true rfl List.not_mem_nil
  | cons c cs ih =>
    rw [withoutApostrophes, List.flatMap_cons, List.mem_cons, not_or]
    split
    · next hc =>
      subst hc
      exact iff_of_false (fun heq => absurd (List.cons_eq_cons.mp heq).1 (by decide)) fun hnot =>
        hnot.1 rfl
    · next hc =>
      rw [List.singleton_append, List.cons_inj_right]
      exact ih.trans (and_iff_right (Ne.symm hc)).symm

end Legal

/-- What stands behind the first question mark of the target that is sent. -/
def sentQuery? (request : Outgoing) : Option (List Char) :=
  (Text.cutAt? '?' request.url.target.toList).map Prod.snd

theorem cutAt?_target {url : Url} {query : String} (h : url.Encoded) (hquery : url.query = some query) :
    Text.cutAt? '?' url.target.toList = some (url.path.text.toList, query.toList) := by
  have hmark : '?' ∉ url.path.text.toList := by
    intro hmem
    obtain hslash | hkept := h.path '?' hmem
    · exact absurd hslash (by decide)
    · exact absurd hkept (by decide)
  have htarget : url.target.toList = url.path.text.toList ++ '?' :: query.toList := by
    rw [target, hquery, String.toList_append, Option.map_some, Option.getD_some, String.toList_append]
    rfl
  rw [htarget, Text.cutAt?_append hmark]

theorem target_requested (url : Url) : (Client.requested url).target = url.target := by
  unfold Client.requested
  split
  · rfl
  · rfl

section Queries

variable {gateway : Gateway} {arrival : Arrival} {uri rest query : String}

theorem query_of_parse (hmount : Mountable gateway.config)
    (hcontinues : Continues (rest.toList.dropWhile Backend.isSlash) (querySuffix (some query)))
    (hne : query ≠ "") (hlegal : isLegalQuery query.toList = true) {url : Url}
    (hurl : Url.parse (address gateway.config rest (some query)) = .ok url) :
    url.query = some (String.ofList (withoutApostrophes query.toList)) := by
  obtain ⟨text, htext⟩ := hmount.made.backendUrl
  obtain ⟨a, d, hweb⟩ := Url.isWeb_of_parse htext gateway.scheme_backendUrl
  have hkind : gateway.config.backendUrl.kind.isSpecial = true := by
    rw [Url.kind, hweb.kind]
    rfl
  obtain ⟨hhash, hencode⟩ := encode_of_isLegalQuery hlegal
  obtain ⟨above, hread⟩ | hnone := parse_address hmount gateway.scheme_backendUrl
  · obtain rfl := Except.ok.inj (hurl.symm.trans (hread rest (some query) hcontinues))
    dsimp only
    rw [suffix_querySuffix_some hne hhash hkind, hencode]
  · rw [hnone rest (some query) hcontinues] at hurl
    cases hurl

theorem Admitted.url_of_received (h : Admitted gateway arrival rest) {network : Network} {first : Outgoing}
    {later : List Outgoing} (hreceived : (handle network gateway arrival).received = first :: later) :
    ∃ url, Url.parse (address gateway.config rest arrival.request.target.query) = .ok url ∧
      first.url = Client.requested url := by
  by_cases hsendable : Sendable gateway.config rest arrival.request.target.query
  · obtain ⟨url, sent, hurl, hsent, -, -, hrelay⟩ := h.exists_first hsendable
    refine ⟨url, hurl, ?_⟩
    rw [h.handle_of_relay (hrelay network)] at hreceived
    obtain ⟨later', hlater⟩ | ⟨-, hnone⟩ :=
      gateway.client.received_follow network sent.url Client.maxRedirects [] sent
    · rw [hlater] at hreceived
      rw [← (List.cons_eq_cons.mp hreceived).1, hsent]
    · rw [hnone] at hreceived
      cases hreceived
  · obtain ⟨fault, hunsent⟩ := h.handle_of_not_sendable hsendable
    rw [hunsent network] at hreceived
    cases hreceived

theorem Admitted.received_ne_nil (h : Admitted gateway arrival rest)
    (hsendable : Sendable gateway.config rest arrival.request.target.query) {network : Network}
    (hconnects : ∀ request, network [] request ≠ .refused) :
    (handle network gateway arrival).received ≠ [] := by
  obtain ⟨-, first, -, -, -, -, hrelay⟩ := h.exists_first hsendable
  rw [h.handle_of_relay (hrelay network)]
  exact fun hnil => hconnects first (Client.received_follow_eq_nil_iff.mp hnil)

theorem sentQuery?_of_received (hmount : Mountable gateway.config) (h : Admitted gateway arrival rest)
    (huri : Target.parse uri = .ok arrival.request.target)
    (hquery : arrival.request.target.query = some query) (hne : query ≠ "")
    (hlegal : isLegalQuery query.toList = true) {network : Network} {first : Outgoing}
    {later : List Outgoing} (hreceived : (handle network gateway arrival).received = first :: later) :
    sentQuery? first = some (withoutApostrophes query.toList) := by
  obtain ⟨url, hurl, hfirst⟩ := h.url_of_received hreceived
  have hcontinues := continues_of_parse huri h.path (hasDotSegment_eq_false h.plain)
  rw [hquery] at hurl hcontinues
  have hscheme : url.scheme = "http" ∨ url.scheme = "https" :=
    (sameOrigin_of_parse_address h.made gateway.scheme_backendUrl hurl).scheme ▸ gateway.scheme_backendUrl
  rw [sentQuery?, hfirst, target_requested, cutAt?_target (Url.encoded_of_parse hurl hscheme)
    (query_of_parse hmount hcontinues hne hlegal hurl), Option.map_some, String.toList_ofList]

end Queries

/-- Below settings that a path can be put behind, a legal query that is not empty gets to the backend
with its apostrophes percent-encoded and no other character changed; so it gets there as it is exactly
if there is no apostrophe in it. -/
theorem legal_query_received {gateway : Gateway} {arrival : Arrival} {uri rest query : String}
    (hmount : Mountable gateway.config) (h : Admitted gateway arrival rest)
    (huri : Target.parse uri = .ok arrival.request.target)
    (hquery : arrival.request.target.query = some query) (hne : query ≠ "")
    (hlegal : isLegalQuery query.toList = true) :
    (∀ network first later, (handle network gateway arrival).received = first :: later →
      sentQuery? first = some (withoutApostrophes query.toList) ∧
        (sentQuery? first = some query.toList ↔ '\x27' ∉ query.toList)) ∧
    (Sendable gateway.config rest (some query) → ∀ network : Network,
      (∀ request, network [] request ≠ .refused) → (handle network gateway arrival).received ≠ []) := by
  refine ⟨fun network first later hreceived => ?_, fun hsendable network hconnects => ?_⟩
  · have hsent := sentQuery?_of_received hmount h huri hquery hne hlegal hreceived
    refine ⟨hsent, ?_⟩
    rw [hsent, Option.some.injEq]
    exact withoutApostrophes_eq_self_iff
  · exact h.received_ne_nil (hquery ▸ hsendable) hconnects

def querying (query : String) : Arrival :=
  ⟨.zero, .ofText "", ⟨.get, ⟨"/proxy/x", some query⟩, smallSession, ⟨.empty, true⟩⟩⟩

theorem admitted_querying (query : String) : Admitted small (querying query) "/x" :=
  let h := admitted_small (List.mem_cons_self : Method.get ∈ _) ⟨.empty, true⟩
  ⟨h.made, h.below, h.path, h.method, h.authorised, h.plain⟩

def relayedQuery (query : String) : Url :=
  ⟨"http", some ⟨"", none, some (.name "h"), none⟩, .rooted ["api", "fortress", "x"], some query, none⟩

theorem sendable_querying {query : String} (sent : String)
    (hurl : Url.parse (address Config.small "/x" (some query)) = .ok (relayedQuery sent))
    (htarget : Target.parse (Client.requested (relayedQuery sent)).render =
      .ok ⟨"/api/fortress/x", some sent⟩) :
    Sendable small.config "/x" (some query) :=
  ⟨sendable_small.secret, (requestable_iff mountable_small.made (.inl rfl)).mpr ⟨_, hurl, _, htarget⟩⟩

theorem legal_query_received_of_small :
    let answer := handle (fun _ _ => .broken) small (querying "a=b%2F%c3&d:@/?;~")
    ∃ first later, answer.received = first :: later ∧
      sentQuery? first = some "a=b%2F%c3&d:@/?;~".toList := by
  intro answer
  have huri : Target.parse "/proxy/x?a=b%2F%c3&d:@/?;~" =
      .ok (querying "a=b%2F%c3&d:@/?;~").request.target := by
    decide +kernel
  have hlegal : isLegalQuery "a=b%2F%c3&d:@/?;~".toList = true := by
    decide
  obtain ⟨hverbatim, hreaches⟩ := legal_query_received mountable_small (admitted_querying _) huri rfl
    (by decide) hlegal
  have hsendable : Sendable small.config "/x" (some "a=b%2F%c3&d:@/?;~") :=
    sendable_querying "a=b%2F%c3&d:@/?;~" (by decide +kernel) (by decide +kernel)
  obtain ⟨first, later, hreceived⟩ := List.exists_cons_of_ne_nil
    (hreaches hsendable (fun _ _ => .broken) fun _ => by rintro ⟨⟩)
  exact ⟨first, later, hreceived, (hverbatim _ first later hreceived).2.mpr (by decide)⟩

/-- An apostrophe is legal, and does not get there. -/
theorem apostrophe_not_received :
    ¬ ∀ (network : Network) (gateway : Gateway) (arrival : Arrival) (uri rest query : String),
      Mountable gateway.config → Admitted gateway arrival rest →
      Target.parse uri = .ok arrival.request.target → arrival.request.target.query = some query →
      query ≠ "" → isLegalQuery query.toList = true →
      ∀ first later, (handle network gateway arrival).received = first :: later →
        sentQuery? first = some query.toList := by
  intro h
  have huri : Target.parse "/proxy/x?q='b'" = .ok (querying "q='b'").request.target := by
    decide +kernel
  have hsendable : Sendable small.config "/x" (some "q='b'") :=
    sendable_querying "q=%27b%27" (by decide +kernel) (by decide +kernel)
  have hadmitted := admitted_querying "q='b'"
  let network : Network := fun _ _ => .broken
  have hconnects : ∀ request, network [] request ≠ .refused := fun _ => by rintro ⟨⟩
  obtain ⟨first, later, hreceived⟩ :=
    List.exists_cons_of_ne_nil (hadmitted.received_ne_nil hsendable hconnects)
  have hverbatim := h _ small (querying "q='b'") _ "/x" "q='b'" mountable_small hadmitted huri rfl
    (by decide) (by decide) first later hreceived
  rw [sentQuery?_of_received mountable_small hadmitted huri rfl (by decide) (by decide)
    hreceived] at hverbatim
  exact absurd hverbatim (by decide)

end LoginGateway.Gateway
