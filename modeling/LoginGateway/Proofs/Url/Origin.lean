import LoginGateway.Proofs.Url.Web

namespace LoginGateway.Url

open Text

section Credentials

variable (url : Url)

@[simp] theorem withoutCredentials_scheme : url.withoutCredentials.scheme = url.scheme := rfl

@[simp] theorem withoutCredentials_path : url.withoutCredentials.path = url.path := rfl

@[simp] theorem withoutCredentials_host? : url.withoutCredentials.host? = url.host? := by
  obtain ⟨scheme, authority, path, query, fragment⟩ := url
  cases authority <;> rfl

@[simp] theorem withoutCredentials_effectivePort? :
    url.withoutCredentials.effectivePort? = url.effectivePort? := by
  obtain ⟨scheme, authority, path, query, fragment⟩ := url
  cases authority <;> rfl

theorem withoutCredentials_withoutCredentials :
    url.withoutCredentials.withoutCredentials = url.withoutCredentials := by
  obtain ⟨scheme, authority, path, query, fragment⟩ := url
  cases authority <;> rfl

end Credentials

/-- The two URLs have the same scheme, host and port. -/
structure SameOrigin (url url' : Url) : Prop where
  scheme : url.scheme = url'.scheme
  host : url.host? = url'.host?
  port : url.effectivePort? = url'.effectivePort?

def delimiters : List Char := ['/', '\\', '?', '#']

variable {url url' : Url} {a : Authority} {d : UInt16} {scheme : String} {more middle : List Char}

theorem sameOrigin_of_authority (hscheme : url.scheme = url'.scheme)
    (hauthority : url.authority = url'.authority) : url.SameOrigin url' where
  scheme := hscheme
  host := by rw [host?, host?, hauthority]
  port := by rw [effectivePort?, effectivePort?, kind, kind, hscheme, hauthority]

theorem sameOrigin_of_withoutCredentials (h : url.withoutCredentials = url'.withoutCredentials) :
    url.SameOrigin url' where
  scheme := by rw [← withoutCredentials_scheme, h, withoutCredentials_scheme]
  host := by rw [← withoutCredentials_host?, h, withoutCredentials_host?]
  port := by rw [← withoutCredentials_effectivePort?, h, withoutCredentials_effectivePort?]

theorem SameOrigin.trans {url'' : Url} (h : url.SameOrigin url') (h' : url'.SameOrigin url'') :
    url.SameOrigin url'' :=
  ⟨h.scheme.trans h'.scheme, h.host.trans h'.host, h.port.trans h'.port⟩

theorem takeWhile_authority (ha : a.WellFormed d) (hmore : ∀ c ∈ more.head?, c ∈ delimiters) :
    ((a.text.toList ++ more).takeWhile (!endsMain ·)).takeWhile (!isSlash true ·) = a.text.toList := by
  rw [List.takeWhile_takeWhile]
  refine (Lists.span_append ?_ ?_).1
  · intro c hc
    have hplain := isAuthorityChar_of_mem ha c hc
    rw [isSlash_of_isAuthorityChar hplain, endsMain_of_isAuthorityChar hplain]
    rfl
  · have hends : ∀ c ∈ delimiters, ¬ ((!isSlash true c) = true ∧ (!endsMain c) = true) :=
      List.all_iff_forall_prop.mp (by decide)
    exact fun c hc => decide_eq_false (hends c (hmore c hc))

/-- An authority is read again as it is, whatever follows it, exactly if its host is. -/
theorem afterSlashes_authority (hkind : SchemeKind.ofScheme scheme = .special d) (ha : a.WellFormed d)
    {host : Host} (hhost : a.host = some host) (hmore : ∀ c ∈ more.head?, c ∈ delimiters) :
    (∃ url, afterSlashes scheme (a.text.toList ++ more) = .ok url ∧ url.scheme = scheme ∧
        url.authority = some a ∧ Host.parse host.text.toList = .ok host) ∨
      afterSlashes scheme (a.text.toList ++ more) = .error .invalidName ∧
        Host.parse host.text.toList = .error .invalidName := by
  obtain ⟨host', hhost', cs, hcs⟩ := ha.host
  obtain rfl : host' = host := Option.some.inj (hhost'.symm.trans hhost)
  have hhostText : a.hostText = host'.text := by
    rw [Authority.hostText, hhost]
    rfl
  rw [afterSlashes_special hkind, takeWhile_authority ha hmore, Authority.readAuthority_text ha,
    hhostText]
  obtain hagain | hnone := Host.parse_text_or hcs
  · rw [hagain]
    refine .inl ⟨_, rfl, rfl, ?_, rfl⟩
    dsimp only
    rw [← hhost]
  · rw [hnone]
    exact .inr ⟨rfl, rfl⟩

theorem head?_marked {q : Char → Prop} {mark : String} {c : Char} (hmark : mark.toList = [c]) (hc : q c)
    (part : Option String) : ∀ b ∈ ((part.map (mark ++ ·)).getD "").toList.head?, q b := by
  cases part with
  | none =>
    rintro b ⟨⟩
  | some text =>
    intro b hb
    rw [Option.map_some, Option.getD_some, String.toList_append, hmark] at hb
    cases hb
    exact hc

theorem head?_beyond (h : url.IsWeb a d) {q : Char → Prop} (hpath : q '/') (hquery : q '?')
    (hfragment : q '#') : ∀ c ∈ url.beyond.head?, q c := by
  have hslash : ∀ c ∈ url.path.text.toList.head?, q c := by
    obtain ⟨segments, hsegments⟩ := h.path
    rw [hsegments]
    intro c hc
    rw [Path.head?_text c hc]
    exact hpath
  rw [beyond, target, String.toList_append, String.toList_append, List.append_assoc]
  exact Lists.forall_head?_append hslash
    (Lists.forall_head?_append (head?_marked rfl hquery url.query)
      (head?_marked rfl hfragment url.fragment))

theorem head?_trimmed_append (h : url.IsWeb a d) (hmiddle : ∀ c ∈ middle.head?, c = '/')
    (rest : List Char) :
    ∀ c ∈ (trimEndBy (· == '/') url.beyond ++ (middle ++ '/' :: rest)).head?, c ∈ delimiters := by
  have hslash : '/' ∈ delimiters := by decide
  have hbeyond : ∀ c ∈ url.beyond.head?, c ∈ delimiters :=
    head?_beyond h (by decide) (by decide) (by decide)
  refine Lists.forall_head?_append (fun c hc => hbeyond c (head?_trimEndBy hc))
    (Lists.forall_head?_append (fun c hc => hmiddle c hc ▸ hslash) ?_)
  rintro c ⟨⟩
  exact hslash

/-- What is put behind the text of a URL does not lead to another server, and can be read exactly if the
host can be read again. -/
theorem parse_mounted_or {text : String} (hparse : parse text = .ok url)
    (hscheme : url.scheme = "http" ∨ url.scheme = "https") (hstart : ∀ c ∈ middle.head?, c = '/')
    (rest tail : List Char) {host : Host} (hhost : url.host? = some host) :
    (∃ url', parse (url.mounted middle rest tail) = .ok url' ∧ url'.scheme = url.scheme ∧
        url'.authority = url.authority ∧ Host.parse host.text.toList = .ok host) ∨
      parse (url.mounted middle rest tail) = .error .invalidName ∧
        Host.parse host.text.toList = .error .invalidName := by
  obtain ⟨a, d, hweb⟩ := isWeb_of_parse hparse hscheme
  have hbreak : ∀ c ∈ delimiters, isBreak c = false :=
    List.all_iff_forall_prop.mp (by decide)
  have hmore := head?_significant hbreak fun c hc =>
    head?_trimmed_append hweb hstart (rest ++ tail) c (head?_trimEndBy (p := (·.toNat ≤ 32)) hc)
  rw [host?, hweb.authority, Option.bind_some] at hhost
  rw [mounted_eq hweb, parse_web hweb.scheme (isAuthorityChar_of_mem hweb.wellFormed)
    (text_ne_nil hweb.wellFormed), hweb.authority]
  exact afterSlashes_authority hweb.kind hweb.wellFormed hhost hmore

theorem exists_host (h : url.IsWeb a d) : ∃ host, url.host? = some host := by
  obtain ⟨host, hhost, -⟩ := h.wellFormed.host
  refine ⟨host, ?_⟩
  rw [host?, h.authority, Option.bind_some, hhost]

theorem server_of_parse_mounted {text : String} (hparse : parse text = .ok url)
    (hscheme : url.scheme = "http" ∨ url.scheme = "https") (hstart : ∀ c ∈ middle.head?, c = '/')
    {rest tail : List Char} (h : parse (url.mounted middle rest tail) = .ok url') :
    url'.scheme = url.scheme ∧ url'.authority = url.authority := by
  obtain ⟨a, d, hweb⟩ := isWeb_of_parse hparse hscheme
  obtain ⟨host, hhost⟩ := exists_host hweb
  obtain ⟨url'', hread, hsame, hauthority, -⟩ | ⟨hnone, -⟩ :=
      parse_mounted_or hparse hscheme hstart rest tail hhost
  · obtain rfl : url' = url'' := Except.ok.inj (h.symm.trans hread)
    exact ⟨hsame, hauthority⟩
  · rw [hnone] at h
    cases h

end LoginGateway.Url
