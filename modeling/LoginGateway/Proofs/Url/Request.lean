import LoginGateway.Proofs.Http.Authority
import LoginGateway.Proofs.Http.Target
import LoginGateway.Proofs.Url.Origin

namespace LoginGateway.Url

open Http Http.Target

/-- The characters that may stand in a host and not in the authority of a request target. -/
def unspeakable : List Char := ['"', '\x60', '\x7b', '\x7d']

section Chars

variable {c : Char}

theorem plain_or_unspeakable (h : Domain.IsAsciiNameChar c) :
    isPlainAuthorityChar c = true ∨ c ∈ unspeakable := by
  have key : ∀ n < 128, Domain.IsAsciiNameChar (Char.ofNat n) →
      isPlainAuthorityChar (Char.ofNat n) = true ∨ Char.ofNat n ∈ unspeakable := by
    decide +kernel
  obtain ⟨n, hn, rfl⟩ := Text.exists_ofNat_of_ascii h.1
  exact key n hn h

theorem plain_of_kept (h : Percent.Kept .userinfo c) : isPlainAuthorityChar c = true ∨ c = '%' := by
  have key : ∀ n < 128, EncodeSet.userinfo (Char.ofNat n) = false →
      isPlainAuthorityChar (Char.ofNat n) = true ∨ Char.ofNat n = '%' := by
    decide +kernel
  obtain ⟨n, hn, rfl⟩ := Text.exists_ofNat_of_ascii h.1
  exact key n hn h.2

theorem isPathChar_of_kept (h : Percent.Kept .path c) : isPathChar c = true := by
  have key : ∀ n < 128, EncodeSet.path (Char.ofNat n) = false → isPathChar (Char.ofNat n) = true := by
    decide +kernel
  obtain ⟨n, hn, rfl⟩ := Text.exists_ofNat_of_ascii h.1
  exact key n hn h.2

theorem isQueryChar_of_kept (h : Percent.Kept .specialQuery c) : isQueryChar c = true := by
  have key : ∀ n < 128, EncodeSet.specialQuery (Char.ofNat n) = false →
      isQueryChar (Char.ofNat n) = true := by
    decide +kernel
  obtain ⟨n, hn, rfl⟩ := Text.exists_ofNat_of_ascii h.1
  exact key n hn h.2

theorem step_of_unspeakable (h : c ∈ unspeakable) (scan : AuthorityScan) :
    scan.step c = .error .invalidChar := by
  simp only [unspeakable, List.mem_cons, List.not_mem_nil, or_false] at h
  obtain rfl | rfl | rfl | rfl := h
  · rfl
  · rfl
  · rfl
  · rfl

end Chars

namespace Ipv6

theorem count_joined_le (gs : List UInt16) : (joined gs).count ':' ≤ gs.length := by
  induction gs with
  | nil => exact Nat.le_refl 0
  | cons g gs ih =>
    have hzero : (hex g).count ':' = 0 := List.count_eq_zero.mpr (colon_not_mem_hex g)
    cases gs with
    | nil =>
      have hsingle : joined [g] = hex g := by
        simp [joined]
      rw [hsingle, hzero]
      exact Nat.zero_le _
    | cons h gs =>
      rw [joined_cons_cons, List.count_append, hzero, Nat.zero_add, List.count_cons_self]
      exact Nat.succ_le_succ ih

theorem count_text_le (a : Ipv6) : (text a).count ':' ≤ 8 := by
  rw [text]
  cases hgap : gap? a.toList with
  | none => exact (count_joined_le a.toList).trans_eq (Vector.length_toList)
  | some gap =>
    obtain ⟨i, n⟩ := gap
    have htwo := (gap?_eq_some hgap).1
    have hlength := add_le_length_of_gap hgap
    have hfront := count_joined_le (a.toList.take i)
    have hback := count_joined_le (a.toList.drop (i + n))
    have hmiddle : "::".toList.count ':' = 2 := by
      decide
    rw [Vector.length_toList] at hlength
    rw [List.length_take, Vector.length_toList] at hfront
    rw [List.length_drop, Vector.length_toList] at hback
    dsimp only
    rw [List.count_append, List.count_append, hmiddle]
    omega

end Ipv6

section Scanning

variable {d : UInt16} {a : Authority} {host : Host} {cs : List Char}

theorem foldlM_host (h : Host.parse cs = .ok host) (hchars : ∀ c ∈ host.text.toList, c ∉ unspeakable)
    (atEnd : Bool) :
    ∃ brackets, host.text.toList.foldlM AuthorityScan.step { atEnd := atEnd } =
      .ok { opened := brackets, closed := brackets } := by
  have hne := Host.text_ne_nil h
  have hname (hascii : ∀ c ∈ host.text.toList, Domain.IsAsciiNameChar c) :
      host.text.toList.foldlM AuthorityScan.step { atEnd := atEnd } = .ok {} := by
    have hplain : ∀ c ∈ host.text.toList, isPlainAuthorityChar c = true ∨ c = ':' := fun c hc =>
      .inl ((plain_or_unspeakable (hascii c hc)).resolve_right (hchars c hc))
    have hcolons : host.text.toList.count ':' = 0 :=
      List.count_eq_zero.mpr fun hc => (ne_of_isAsciiNameChar (hascii ':' hc)).1 rfl
    have hread := foldlM_colons hplain { atEnd := atEnd } (by rw [hcolons]; exact Nat.zero_le 8)
    rw [hread, hcolons, List.isEmpty_eq_false_iff.mpr hne, Bool.and_false]
  cases host with
  | name text =>
    obtain ⟨name, hname', -, -⟩ := Host.exists_of_parse_name h
    exact ⟨false, hname (Domain.isAsciiNameChar_of_mem hname')⟩
  | ipv4 address =>
    refine ⟨false, hname ?_⟩
    rw [Host.text, String.toList_ofList]
    exact Ipv4.isAsciiNameChar_of_mem address
  | ipv6 address =>
    have hplain : ∀ c ∈ Ipv6.text address, isPlainAuthorityChar c = true ∨ c = ':' :=
      Ipv6.forall_mem_text (by decide) (by decide) address
    have hread := foldlM_colons hplain { opened := true } (by simpa using Ipv6.count_text_le address)
    refine ⟨true, ?_⟩
    rw [Host.text, String.toList_ofList, List.cons_append, foldlM_cons_of_step (step_open rfl rfl),
      foldlM_append_of_eq hread, foldlM_cons_of_step (step_close rfl rfl)]
    rfl

theorem foldlM_port (a : Authority) (brackets : Bool) :
    ∃ colons ≤ 1, a.portText.toList.foldlM AuthorityScan.step { opened := brackets, closed := brackets } =
      .ok { colons := colons, opened := brackets, closed := brackets } := by
  obtain ⟨-, hnil⟩ | hcons := Authority.portText_eq a
  · rw [hnil]
    exact ⟨0, Nat.zero_le 1, rfl⟩
  · have hplain : ∀ c ∈ a.portText.toList, isPlainAuthorityChar c = true ∨ c = ':' := by
      intro c hc
      rw [hcons] at hc
      obtain rfl | hc := List.mem_cons.mp hc
      · exact .inr rfl
      · left
        simp [isPlainAuthorityChar, Char.isAlphanum, isDigit_of_mem_portDigits hc]
    have hcolons : a.portText.toList.count ':' = 1 := by
      have hdigits : ':' ∉ portDigits a.port := fun hc =>
        absurd (isDigit_of_mem_portDigits hc) (by decide)
      rw [hcons, List.count_cons_self, List.count_eq_zero.mpr hdigits]
    have hread := foldlM_colons hplain { opened := brackets, closed := brackets }
      (by rw [hcolons]; exact Nat.succ_le_succ (Nat.zero_le 7))
    refine ⟨1, Nat.le_refl 1, ?_⟩
    rw [hread, hcolons, Bool.false_and]

/-- The sign behind a user makes all of it forgotten. -/
theorem foldlM_userinfo (h : a.WellFormed d) :
    ∃ atEnd, a.userinfo.toList.foldlM AuthorityScan.step {} = .ok { atEnd := atEnd } := by
  rw [Authority.toList_userinfo]
  split
  · exact ⟨false, rfl⟩
  · refine ⟨true, ?_⟩
    obtain ⟨percent, ended, hname⟩ := foldlM_escaped (fun c hc => plain_of_kept (h.username c hc)) {}
    rw [List.append_assoc, foldlM_append_of_eq hname]
    cases hpassword : a.password with
    | none => rfl
    | some p =>
      obtain ⟨percent', ended', hread⟩ := foldlM_escaped
        (fun c hc => plain_of_kept ((h.password p hpassword).2 c hc)) { colons := 1, percent := percent }
      rw [Option.elim_some, List.cons_append, foldlM_cons_of_step (step_colon (Nat.zero_lt_succ 7)),
        foldlM_append_of_eq hread]
      rfl

theorem checkAuthority_text (h : a.WellFormed d) (hhost : a.host = some host)
    (hchars : ∀ c ∈ host.text.toList, c ∉ unspeakable) : checkAuthority a.text.toList = .ok () := by
  obtain ⟨host', hhost', cs, hcs⟩ := h.host
  obtain rfl : host' = host := Option.some.inj (hhost'.symm.trans hhost)
  obtain ⟨atEnd, huser⟩ := foldlM_userinfo h
  obtain ⟨brackets, hplace⟩ := foldlM_host hcs hchars atEnd
  obtain ⟨colons, hcolons, hport⟩ := foldlM_port a brackets
  have hread : a.text.toList.foldlM AuthorityScan.step {} =
      .ok { colons := colons, opened := brackets, closed := brackets } := by
    rw [Authority.toList_text hhost, foldlM_append_of_eq huser, foldlM_append_of_eq hplace, hport]
  exact checkAuthority_of_foldlM hread rfl hcolons rfl rfl

theorem checkAuthority_of_mem (h : a.host = some host) {c : Char} (hc : c ∈ host.text.toList)
    (hchar : c ∈ unspeakable) : ∃ fault, checkAuthority a.text.toList = .error fault := by
  have hmem : c ∈ a.text.toList := by
    rw [Authority.toList_text h]
    exact List.mem_append_right _ (List.mem_append_left _ hc)
  obtain ⟨fault, hfault⟩ := foldlM_of_mem hmem (step_of_unspeakable hchar) {}
  refine ⟨fault, ?_⟩
  rw [checkAuthority, hfault]
  rfl

end Scanning

structure Encoded (url : Url) : Prop where
  path : ∀ c ∈ url.path.text.toList, c = '/' ∨ Percent.Kept .path c
  query : ∀ query, url.query = some query → ∀ c ∈ query.toList, Percent.Kept .specialQuery c

theorem Encoded.withoutCredentials {url : Url} (h : url.Encoded) : url.withoutCredentials.Encoded :=
  ⟨h.path, h.query⟩

theorem IsWeb.withoutCredentials {url : Url} {a : Authority} {d : UInt16} (h : url.IsWeb a d) :
    url.withoutCredentials.IsWeb { a with username := "", password := none } d where
  scheme := h.scheme
  kind := h.kind
  authority := by rw [Url.withoutCredentials, h.authority, Option.map_some]
  wellFormed := {
    username := fun c hc => by cases hc
    password := fun p hp => by cases hp
    host := h.wellFormed.host
    port := h.wellFormed.port }
  path := h.path
  pathPlain := h.pathPlain

section Reading

variable {url : Url} {a : Authority} {d : UInt16} {host : Host} {text : String}

theorem kept_of_suffix {tail : List Char} {query : String}
    (h : (suffix (.special d) tail).1 = some query) :
    ∀ c ∈ query.toList, Percent.Kept .specialQuery c := by
  have hmarks : ∀ c ∈ Percent.marks, Percent.Kept .specialQuery c :=
    List.all_iff_forall_prop.mp (by decide)
  have hspecial : (SchemeKind.special d).isSpecial = true := rfl
  unfold suffix at h
  rw [if_pos hspecial] at h
  dsimp only at h
  split at h
  · cases h
    rw [String.toList_ofList]
    exact fun c hc => Percent.kept_of_mem_encode hmarks hc
  · cases h
  · cases h

theorem encoded_of_parse (h : parse text = .ok url)
    (hscheme : url.scheme = "http" ∨ url.scheme = "https") :
    url.Encoded := by
  obtain ⟨d, cs, hkind, hslashes⟩ := afterSlashes_of_parse h hscheme
  rw [afterSlashes_special hkind] at hslashes
  generalize readAuthority _ _ _ = parts at hslashes
  cases parts with
  | error fault => cases hslashes
  | ok parts =>
    obtain ⟨authority, extra⟩ := parts
    have hurl := Except.ok.inj hslashes
    rw [← hurl]
    exact ⟨(pathAfterAuthority_kept d _).2, fun query hquery => kept_of_suffix hquery⟩

theorem exists_pathAndQuery (h : url.Encoded) : ∃ target, pathAndQuery url.beyond = .ok target := by
  have hbeyond : url.beyond = url.path.text.toList ++
      ((url.query.map String.toList).elim [] ('?' :: ·) ++
        ((url.fragment.map ("#" ++ ·)).getD "").toList) := by
    rw [beyond, target, String.toList_append, String.toList_append, List.append_assoc]
    cases url.query with
    | none => rfl
    | some query => simp
  have hfragment : ∀ c ∈ ((url.fragment.map ("#" ++ ·)).getD "").toList.head?, c = '#' :=
    head?_marked (q := (· = '#')) rfl rfl url.fragment
  rw [hbeyond]
  refine pathAndQuery_append ?_ ?_ hfragment
  · intro c hc
    obtain rfl | hkept := h.path c hc
    · rfl
    · exact isPathChar_of_kept hkept
  · intro text htext c hc
    obtain ⟨query, hquery, rfl⟩ := Option.map_eq_some_iff.mp htext
    exact isQueryChar_of_kept (h.query query hquery c hc)

/-- The text of a URL is a request target exactly if its authority passes. -/
theorem exists_target_iff (h : url.IsWeb a d) (hencoded : url.Encoded) (hhost : a.host = some host) :
    (∃ target, Target.parse url.render = .ok target) ↔
      url.render.utf8ByteSize ≤ 65534 ∧ ∀ c ∈ host.text.toList, c ∉ unspeakable := by
  by_cases hsize : url.render.utf8ByteSize ≤ 65534
  · have hplain : ∀ c ∈ a.text.toList, endsAuthority c = false := by
      intro c hc
      have hauthority := isAuthorityChar_of_mem h.wellFormed c hc
      rw [endsAuthority, Bool.or_eq_false_iff, Bool.or_eq_false_iff, beq_eq_false_iff_ne,
        beq_eq_false_iff_ne, beq_eq_false_iff_ne]
      refine ⟨⟨?_, ?_⟩, ?_⟩ <;> rintro rfl <;> exact absurd hauthority (by decide)
    have hbeyond : ∀ c ∈ url.beyond.head?, endsAuthority c = true := head?_beyond h rfl rfl rfl
    rw [Target.parse_web h.scheme hsize (toList_render h) hplain (text_ne_nil h.wellFormed) hbeyond]
    by_cases hchars : ∀ c ∈ host.text.toList, c ∉ unspeakable
    · obtain ⟨target, htarget⟩ := exists_pathAndQuery hencoded
      rw [checkAuthority_text h.wellFormed hhost hchars]
      exact iff_of_true ⟨target, htarget⟩ ⟨hsize, hchars⟩
    · refine iff_of_false ?_ fun hboth => hchars hboth.2
      push Not at hchars
      obtain ⟨c, hc, hchar⟩ := hchars
      obtain ⟨fault, hfault⟩ := checkAuthority_of_mem hhost hc hchar
      rw [hfault]
      rintro ⟨target, ⟨⟩⟩
  · refine iff_of_false ?_ fun hboth => hsize hboth.1
    rw [Target.parse_of_too_long (Nat.lt_of_not_le hsize)]
    rintro ⟨target, ⟨⟩⟩

end Reading

end LoginGateway.Url
