import LoginGateway.Proofs.Text.Blank
import LoginGateway.Proofs.Url.Authority
import LoginGateway.Proofs.Url.Path
import LoginGateway.Proofs.Url.Scheme

namespace LoginGateway.Url

open Text

def IsAuthorityChar (c : Char) : Prop := 32 < c.toNat ∧ c ∉ ['/', '\\', '?', '#']

instance (c : Char) : Decidable (IsAuthorityChar c) := inferInstanceAs (Decidable (_ ∧ _))

theorem isAuthorityChar_of_isPlaceChar {c : Char} (h : IsPlaceChar c) : IsAuthorityChar c := by
  have hsubset : ['/', '\\', '?', '#'] ⊆ ['/', '\\', '?', '#', '@'] := by
    decide
  exact ⟨h.1, fun hmem => h.2 (hsubset hmem)⟩

theorem endsMain_eq_false_iff {c : Char} : endsMain c = false ↔ c ≠ '?' ∧ c ≠ '#' := by
  rw [endsMain, Bool.or_eq_false_iff, beq_eq_false_iff_ne, beq_eq_false_iff_ne]

theorem endsMain_of_isAuthorityChar {c : Char} (h : IsAuthorityChar c) : endsMain c = false := by
  rw [endsMain_eq_false_iff]
  refine ⟨?_, ?_⟩ <;> rintro rfl <;> exact absurd h (by decide)

theorem isSlash_of_isAuthorityChar {c : Char} (h : IsAuthorityChar c) : isSlash true c = false := by
  rw [isSlash, Bool.true_and, Bool.or_eq_false_iff, beq_eq_false_iff_ne, beq_eq_false_iff_ne]
  refine ⟨?_, ?_⟩ <;> rintro rfl <;> exact absurd h (by decide)

theorem isAuthorityChar_of_kept {c : Char} (h : Percent.Kept .userinfo c) : IsAuthorityChar c := by
  have key : ∀ n < 128, EncodeSet.userinfo (Char.ofNat n) = false → IsAuthorityChar (Char.ofNat n) := by
    decide +kernel
  obtain ⟨n, hn, rfl⟩ := exists_ofNat_of_ascii h.1
  exact key n hn h.2

theorem endsMain_of_kept {c : Char} (h : Percent.Kept .path c) : endsMain c = false := by
  have hpath := h.2
  rw [EncodeSet.path, Bool.or_eq_false_iff] at hpath
  rw [endsMain_eq_false_iff]
  refine ⟨?_, ?_⟩ <;> rintro rfl <;> exact absurd hpath.2 (by decide)

theorem isAuthorityChar_of_mem {a : Authority} {d : UInt16} (h : a.WellFormed d) :
    ∀ c ∈ a.text.toList, IsAuthorityChar c := by
  intro c hc
  obtain ⟨host, hhost, cs, hcs⟩ := h.host
  rw [Authority.toList_text hhost, Authority.toList_userinfo] at hc
  obtain hc | hc := List.mem_append.mp hc
  · split at hc
    · cases hc
    obtain hc | hc := List.mem_append.mp hc
    · obtain hc | hc := List.mem_append.mp hc
      · exact isAuthorityChar_of_kept (h.username c hc)
      · cases hpassword : a.password with
        | none =>
          rw [hpassword] at hc
          cases hc
        | some p =>
          rw [hpassword, Option.elim_some] at hc
          obtain rfl | hc := List.mem_cons.mp hc
          · decide
          · exact isAuthorityChar_of_kept ((h.password p hpassword).2 c hc)
    · rw [List.mem_singleton.mp hc]
      decide
  · exact isAuthorityChar_of_isPlaceChar (Authority.isPlaceChar_of_mem hcs c hc)

theorem text_ne_nil {a : Authority} {d : UInt16} (h : a.WellFormed d) : a.text.toList ≠ [] := by
  obtain ⟨host, hhost, cs, hcs⟩ := h.host
  rw [Authority.toList_text hhost]
  apply List.append_ne_nil_of_right_ne_nil
  exact List.append_ne_nil_of_left_ne_nil (Host.text_ne_nil hcs) _

section Reading

variable {scheme : String} {d : UInt16} {authority : List Char}

theorem afterSlashes_special (hkind : SchemeKind.ofScheme scheme = .special d) (cs : List Char) :
    afterSlashes scheme cs =
      (readAuthority (.special d) ((cs.takeWhile (!endsMain ·)).takeWhile (!isSlash true ·))
        (((cs.takeWhile (!endsMain ·)).dropWhile (!isSlash true ·)).isEmpty &&
          (cs.dropWhile (!endsMain ·)).isEmpty)).map fun (a, extra) =>
        ⟨scheme, some a, pathAfterAuthority (.special d)
          (extra ++ (cs.takeWhile (!endsMain ·)).dropWhile (!isSlash true ·)),
          (suffix (.special d) (cs.dropWhile (!endsMain ·))).1,
          (suffix (.special d) (cs.dropWhile (!endsMain ·))).2⟩ := by
  have hspecial : (SchemeKind.special d).isSpecial = true := rfl
  rw [afterSlashes, hkind, hspecial]
  dsimp only
  generalize readAuthority _ _ _ = parts
  cases parts with
  | error fault => rfl
  | ok parts => rfl

theorem afterSlashes_web (hkind : SchemeKind.ofScheme scheme = .special d)
    (hauthority : ∀ c ∈ authority, IsAuthorityChar c) {main tail : List Char}
    (hmain : ∀ c ∈ main, endsMain c = false) (htail : ∀ c ∈ tail.head?, endsMain c = true) :
    afterSlashes scheme (authority ++ '/' :: main ++ tail) =
      (readAuthority (.special d) authority false).map fun (a, extra) =>
        ⟨scheme, some a, pathAfterAuthority (.special d) (extra ++ '/' :: main),
          (suffix (.special d) tail).1, (suffix (.special d) tail).2⟩ := by
  have hplain : ∀ c ∈ authority ++ '/' :: main, (!endsMain c) = true := by
    intro c hc
    rw [Bool.not_eq_true']
    obtain hc | hc := List.mem_append.mp hc
    · exact endsMain_of_isAuthorityChar (hauthority c hc)
    obtain rfl | hc := List.mem_cons.mp hc
    · rfl
    · exact hmain c hc
  have hstop : ∀ c ∈ tail.head?, (!endsMain c) = false := by
    intro c hc
    rw [htail c hc, Bool.not_true]
  have hslash : ∀ c ∈ authority, (!isSlash true c) = true := by
    intro c hc
    rw [isSlash_of_isAuthorityChar (hauthority c hc), Bool.not_false]
  have hpathStart : ∀ c ∈ ('/' :: main).head?, (!isSlash true c) = false := by
    rintro c ⟨⟩
    rfl
  obtain ⟨hfront, hback⟩ := Lists.span_append hplain hstop
  obtain ⟨hplace, hpath⟩ := Lists.span_append hslash hpathStart
  rw [afterSlashes_special hkind, hfront, hback, hplace, hpath, List.isEmpty_cons, Bool.false_and]

theorem isScheme_web (h : scheme = "http" ∨ scheme = "https") :
    IsScheme scheme.toList ∧ lowerScheme scheme.toList = scheme := by
  obtain rfl | rfl := h <;> decide

theorem kind_web (h : scheme = "http" ∨ scheme = "https") :
    ∃ d, SchemeKind.ofScheme scheme = .special d := by
  obtain rfl | rfl := h
  · exact ⟨80, rfl⟩
  · exact ⟨443, rfl⟩

theorem parse_web (hscheme : scheme = "http" ∨ scheme = "https")
    (hauthority : ∀ c ∈ authority, IsAuthorityChar c) (hne : authority ≠ []) (more : List Char) :
    parse (String.ofList (scheme.toList ++ ':' :: '/' :: '/' :: (authority ++ more))) =
      afterSlashes scheme (authority ++ significant (trimEndBy (·.toNat ≤ 32) more)) := by
  obtain ⟨d, hkind⟩ := kind_web hscheme
  obtain ⟨hlegal, hlower⟩ := isScheme_web hscheme
  have hlast : ∀ c ∈ (['/', '/'] ++ authority).getLast?, decide (c.toNat ≤ 32) = false := by
    intro c hc
    rw [List.getLast?_append_of_ne_nil _ hne] at hc
    exact decide_eq_false (Nat.not_le.mpr (hauthority c (List.mem_of_getLast? hc)).1)
  have htrim : trimEndBy (·.toNat ≤ 32) ('/' :: '/' :: (authority ++ more)) =
      '/' :: '/' :: (authority ++ trimEndBy (·.toNat ≤ 32) more) := trimEndBy_append hlast more
  generalize trimEndBy (·.toNat ≤ 32) more = more at htrim ⊢
  have hslashes : significant ('/' :: '/' :: (authority ++ more)) =
      ['/', '/'] ++ (authority ++ significant more) := by
    have hplain : significant authority = authority := significant_eq_self fun c hc => (hauthority c hc).1
    rw [significant, List.filter_cons_of_pos (by decide), List.filter_cons_of_pos (by decide),
      List.filter_append]
    exact congrArg (fun cs => '/' :: '/' :: (cs ++ significant more)) hplain
  have hdrop : (['/', '/'] ++ (authority ++ significant more)).dropWhile (isSlash true) =
      authority ++ significant more := by
    refine (Lists.span_append (List.all_iff_forall_prop.mp (by decide)) ?_).2
    obtain ⟨c, cs, rfl⟩ := List.exists_cons_of_ne_nil hne
    rintro c ⟨⟩
    exact isSlash_of_isAuthorityChar (hauthority c List.mem_cons_self)
  rw [parse_append hlegal, hlower, htrim, withScheme, hkind]
  dsimp only
  rw [hslashes, hdrop]

end Reading

/-- What the parts of a URL are like that was read and has a scheme of the web. -/
structure IsWeb (url : Url) (a : Authority) (d : UInt16) : Prop where
  scheme : url.scheme = "http" ∨ url.scheme = "https"
  kind : SchemeKind.ofScheme url.scheme = .special d
  authority : url.authority = some a
  wellFormed : a.WellFormed d
  path : ∃ segments, url.path = .rooted segments
  pathPlain : ∀ c ∈ url.path.text.toList, endsMain c = false

theorem pathAfterAuthority_kept (d : UInt16) (cs : List Char) :
    (∃ segments, pathAfterAuthority (.special d) cs = .rooted segments) ∧
      ∀ c ∈ (pathAfterAuthority (.special d) cs).text.toList, c = '/' ∨ Percent.Kept .path c := by
  cases cs with
  | nil =>
    have hroot : pathAfterAuthority (.special d) [] = .rooted [""] := rfl
    rw [hroot]
    exact ⟨⟨[""], rfl⟩, List.all_iff_forall_prop.mp (by decide)⟩
  | cons c cs => exact ⟨⟨_, rfl⟩, fun _ => Path.kept_of_mem_text⟩

theorem isWeb_of_afterSlashes {scheme : String} {d : UInt16} {cs : List Char} {url : Url}
    (hscheme : scheme = "http" ∨ scheme = "https") (hkind : SchemeKind.ofScheme scheme = .special d)
    (h : afterSlashes scheme cs = .ok url) : ∃ a, url.IsWeb a d := by
  rw [afterSlashes_special hkind] at h
  generalize hauthority : readAuthority _ _ _ = parts at h
  cases parts with
  | error fault => cases h
  | ok parts =>
    cases h
    obtain ⟨hrooted, hkept⟩ := pathAfterAuthority_kept d
      (parts.2 ++ (cs.takeWhile (!endsMain ·)).dropWhile (!isSlash true ·))
    refine ⟨parts.1, hscheme, hkind, rfl, wellFormed_of_readAuthority hauthority, hrooted, ?_⟩
    intro c hc
    obtain rfl | hpath := hkept c hc
    · rfl
    · exact endsMain_of_kept hpath

theorem afterSlashes_of_parse {text : String} {url : Url} (h : parse text = .ok url)
    (hscheme : url.scheme = "http" ∨ url.scheme = "https") :
    ∃ d cs, SchemeKind.ofScheme url.scheme = .special d ∧ afterSlashes url.scheme cs = .ok url := by
  unfold parse at h
  split at h
  · next scheme rest _ =>
    obtain rfl := withScheme_scheme h
    obtain ⟨d, hkind⟩ := kind_web hscheme
    rw [withScheme, hkind] at h
    exact ⟨d, _, hkind, h⟩
  · cases h

theorem isWeb_of_parse {text : String} {url : Url} (h : parse text = .ok url)
    (hscheme : url.scheme = "http" ∨ url.scheme = "https") : ∃ a d, url.IsWeb a d := by
  obtain ⟨d, cs, hkind, hslashes⟩ := afterSlashes_of_parse h hscheme
  obtain ⟨a, hweb⟩ := isWeb_of_afterSlashes hscheme hkind hslashes
  exact ⟨a, d, hweb⟩

section Mounting

variable {url : Url} {a : Authority} {d : UInt16} {middle : List Char}

/-- The text of a URL from the end of its authority on. -/
def beyond (url : Url) : List Char :=
  (url.target ++ (url.fragment.map ("#" ++ ·)).getD "").toList

theorem beyond_eq (hquery : url.query = none) (hfragment : url.fragment = none) :
    url.beyond = url.path.text.toList := by
  rw [beyond, target, hquery, hfragment]
  simp

theorem toList_render (h : url.IsWeb a d) :
    url.render.toList = url.scheme.toList ++ ':' :: '/' :: '/' :: (a.text.toList ++ url.beyond) := by
  have hguard : url.pathGuard = "" := by
    rw [pathGuard, h.authority]
  rw [render, hguard, h.authority, beyond]
  simp

theorem trimEndBy_render (h : url.IsWeb a d) :
    trimEndBy (· == '/') url.render.toList =
      url.scheme.toList ++ ':' :: '/' :: '/' :: (a.text.toList ++ trimEndBy (· == '/') url.beyond) := by
  have hsplit (cs : List Char) : url.scheme.toList ++ ':' :: '/' :: '/' :: (a.text.toList ++ cs) =
      (url.scheme.toList ++ "://".toList ++ a.text.toList) ++ cs := by
    simp only [List.append_assoc]
    rfl
  rw [toList_render h, hsplit, hsplit]
  apply trimEndBy_append
  intro c hc
  rw [List.getLast?_append_of_ne_nil _ (text_ne_nil h.wellFormed)] at hc
  have hauthority := isAuthorityChar_of_mem h.wellFormed c (List.mem_of_getLast? hc)
  have hslash := isSlash_of_isAuthorityChar hauthority
  rw [isSlash, Bool.or_eq_false_iff] at hslash
  exact hslash.1

theorem pathAfterAuthority_below (d : UInt16) (hmiddle : ∀ c ∈ middle.head?, c = '/') :
    ∃ above, ∀ rest, (∀ segment ∈ Path.segmentsOf true rest, ¬ Path.IsDotSegment segment) →
      pathAfterAuthority (.special d) (middle ++ '/' :: rest) =
        .rooted (above ++ (Path.segmentsOf true rest).map Path.encodeSegment) := by
  cases middle with
  | nil => exact ⟨[], fun rest hrest => Path.below_of_isPlain [] hrest⟩
  | cons c front =>
    obtain rfl := hmiddle c rfl
    exact Path.below_append (.inl rfl) [] front

theorem head?_significant {q : Char → Prop} (hkeep : ∀ c, q c → isBreak c = false) {cs : List Char}
    (h : ∀ c ∈ cs.head?, q c) : ∀ c ∈ (significant cs).head?, q c := by
  cases cs with
  | nil => exact h
  | cons c cs =>
    have hc : (!isBreak c) = true := by
      rw [hkeep c (h c rfl), Bool.not_false]
    rw [significant, List.filter_cons, if_pos hc]
    exact h

/-- A path without dot segments and what follows it, as they may go on in the text of a URL. -/
structure Continues (rest tail : List Char) : Prop where
  main : ∀ c ∈ rest, 32 < c.toNat ∧ endsMain c = false
  visible : ∀ c ∈ tail, 32 < c.toNat
  ends : ∀ c ∈ tail.head?, endsMain c = true
  plain : ∀ segment ∈ Path.segmentsOf true rest, ¬ Path.IsDotSegment segment

theorem Continues.significant_append {rest tail : List Char} (h : Continues rest tail)
    (front : List Char) :
    significant (front ++ ('/' :: rest ++ tail)) = significant front ++ '/' :: rest ++ tail ∧
      ∀ c ∈ (front ++ ('/' :: rest ++ tail)).getLast?, 32 < c.toNat := by
  have hlow : ∀ c ∈ '/' :: rest ++ tail, 32 < c.toNat := by
    intro c hc
    obtain hc | hc := List.mem_append.mp hc
    · obtain rfl | hc := List.mem_cons.mp hc
      · decide
      · exact (h.main c hc).1
    · exact h.visible c hc
  refine ⟨?_, ?_⟩
  · rw [significant, List.filter_append, List.append_assoc]
    exact congrArg (significant front ++ ·) (significant_eq_self hlow)
  · intro c hc
    have hne : '/' :: rest ++ tail ≠ [] := List.cons_ne_nil '/' (rest ++ tail)
    rw [List.getLast?_append_of_ne_nil _ hne] at hc
    exact hlow c (List.mem_of_getLast? hc)

theorem parse_below {scheme : String} (hscheme : scheme = "http" ∨ scheme = "https")
    (hkind : SchemeKind.ofScheme scheme = .special d) (ha : a.WellFormed d)
    (hstart : ∀ c ∈ middle.head?, c = '/') (hplain : ∀ c ∈ middle, endsMain c = false) :
    ∃ above, ∀ rest tail, Continues rest tail →
      parse (String.ofList (scheme.toList ++ ':' :: '/' :: '/' :: (a.text.toList ++
          (middle ++ ('/' :: rest ++ tail))))) =
        (Host.parse a.hostText.toList).map fun host =>
          ⟨scheme, some { a with host := some host },
            .rooted (above ++ (Path.segmentsOf true rest).map Path.encodeSegment),
            (suffix (.special d) tail).1, (suffix (.special d) tail).2⟩ := by
  have hslash : ∀ c, c = '/' → isBreak c = false := by
    rintro c rfl
    rfl
  have hfirst := head?_significant hslash hstart
  obtain ⟨above, habove⟩ := pathAfterAuthority_below d hfirst
  refine ⟨above, fun rest tail h => ?_⟩
  obtain ⟨hsignificant, hlast⟩ := h.significant_append middle
  -- the path begins with the slash of `middle`, or with the one before `rest`
  obtain ⟨main, hmain⟩ : ∃ main, significant middle ++ '/' :: rest = '/' :: main := by
    cases hcs : significant middle with
    | nil => exact ⟨rest, rfl⟩
    | cons c cs =>
      rw [hcs] at hfirst
      obtain rfl := hfirst c rfl
      exact ⟨cs ++ '/' :: rest, rfl⟩
  have hmainPlain : ∀ c ∈ main, endsMain c = false := by
    intro c hc
    have hmem : c ∈ significant middle ++ '/' :: rest := by
      rw [hmain]
      exact List.mem_cons_of_mem '/' hc
    obtain hmem | hmem := List.mem_append.mp hmem
    · exact hplain c (List.mem_filter.mp hmem).1
    · obtain rfl | hmem := List.mem_cons.mp hmem
      · rfl
      · exact (h.main c hmem).2
  have hend : ∀ c ∈ (middle ++ ('/' :: rest ++ tail)).getLast?, decide (c.toNat ≤ 32) = false :=
    fun c hc => decide_eq_false (Nat.not_le.mpr (hlast c hc))
  rw [parse_web hscheme (isAuthorityChar_of_mem ha) (text_ne_nil ha), trimEndBy_eq_self hend,
    hsignificant, hmain, ← List.append_assoc,
    afterSlashes_web hkind (isAuthorityChar_of_mem ha) hmainPlain h.ends, Authority.readAuthority_text ha]
  cases Host.parse a.hostText.toList with
  | error fault => rfl
  | ok host =>
    have hpath := habove rest h.plain
    rw [hmain] at hpath
    rw [Except.map, Except.map, Except.map]
    dsimp only
    rw [List.nil_append, hpath]

theorem IsWeb.head?_append (h : url.IsWeb a d) (hstart : ∀ c ∈ middle.head?, c = '/') :
    ∀ c ∈ (trimEndBy (· == '/') url.path.text.toList ++ middle).head?, c = '/' := by
  refine Lists.forall_head?_append ?_ hstart
  intro c hc
  obtain ⟨segments, hsegments⟩ := h.path
  rw [hsegments] at hc
  exact Path.head?_text c (head?_trimEndBy hc)

theorem IsWeb.plain_append (h : url.IsWeb a d) (hplain : ∀ c ∈ middle, endsMain c = false) :
    ∀ c ∈ trimEndBy (· == '/') url.path.text.toList ++ middle, endsMain c = false := by
  intro c hc
  obtain hpath | hmiddle := List.mem_append.mp hc
  · exact h.pathPlain c (mem_of_mem_trimEndBy hpath)
  · exact hplain c hmiddle

def mounted (url : Url) (middle rest tail : List Char) : String :=
  String.ofList (trimEndBy (· == '/') url.render.toList ++ (middle ++ ('/' :: rest ++ tail)))

theorem mounted_eq (h : url.IsWeb a d) (middle rest tail : List Char) :
    url.mounted middle rest tail =
      String.ofList (url.scheme.toList ++ ':' :: '/' :: '/' ::
        (a.text.toList ++ (trimEndBy (· == '/') url.beyond ++ (middle ++ '/' :: (rest ++ tail))))) := by
  rw [mounted, trimEndBy_render h]
  simp only [List.append_assoc, List.cons_append]

theorem IsWeb.parse_mounted (h : url.IsWeb a d) (hquery : url.query = none)
    (hfragment : url.fragment = none) (hstart : ∀ c ∈ middle.head?, c = '/')
    (hplain : ∀ c ∈ middle, endsMain c = false) :
    ∃ above, ∀ rest tail, Continues rest tail →
      parse (url.mounted middle rest tail) =
        (Host.parse a.hostText.toList).map fun host =>
          ⟨url.scheme, some { a with host := some host },
            .rooted (above ++ (Path.segmentsOf true rest).map Path.encodeSegment),
            (suffix (.special d) tail).1, (suffix (.special d) tail).2⟩ := by
  obtain ⟨above, habove⟩ :=
    parse_below h.scheme h.kind h.wellFormed (h.head?_append hstart) (h.plain_append hplain)
  refine ⟨above, fun rest tail hcontinues => ?_⟩
  have hbelow := habove rest tail hcontinues
  rw [mounted, trimEndBy_render h, beyond_eq hquery hfragment]
  simp only [List.append_assoc, List.cons_append] at hbelow ⊢
  exact hbelow

/-- Below the text of a URL that was read, each segment of a path without dot segments stands by
itself, and the rest of the URL stays as it is; or its host is not read again, whatever follows. -/
theorem parse_mounted {text : String} (hparse : parse text = .ok url)
    (hscheme : url.scheme = "http" ∨ url.scheme = "https") (hquery : url.query = none)
    (hfragment : url.fragment = none) (hstart : ∀ c ∈ middle.head?, c = '/')
    (hplain : ∀ c ∈ middle, endsMain c = false) :
    (∃ above, ∀ rest tail, Continues rest tail →
      parse (url.mounted middle rest tail) =
        .ok { url with
          path := .rooted (above ++ (Path.segmentsOf true rest).map Path.encodeSegment)
          query := (suffix url.kind tail).1
          fragment := (suffix url.kind tail).2 }) ∨
    ∀ rest tail, Continues rest tail → parse (url.mounted middle rest tail) = .error .invalidName := by
  obtain ⟨a, d, h⟩ := isWeb_of_parse hparse hscheme
  obtain ⟨above, hread⟩ := h.parse_mounted hquery hfragment hstart hplain
  obtain ⟨host, hhost, cs, hcs⟩ := h.wellFormed.host
  have hhostText : a.hostText = host.text := by
    rw [Authority.hostText, hhost]
    rfl
  -- the host is read before the path, so whether it is read again does not depend on the path
  obtain hagain | hnone := Host.parse_text_or hcs
  · refine .inl ⟨above, fun rest tail hcontinues => ?_⟩
    have hkind : url.kind = .special d := h.kind
    have ha : { a with host := some host } = a := by
      rw [← hhost]
    rw [hread rest tail hcontinues, hhostText, hagain, Except.map, ha, ← h.authority, hkind]
  · refine .inr fun rest tail hcontinues => ?_
    rw [hread rest tail hcontinues, hhostText, hnone]
    rfl

end Mounting

end LoginGateway.Url
