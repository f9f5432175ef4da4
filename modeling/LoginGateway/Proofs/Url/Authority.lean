import LoginGateway.Proofs.Text.Cut
import LoginGateway.Proofs.Url.Host
import LoginGateway.Url.Parse
import Mathlib.Data.List.TakeWhile

namespace LoginGateway.Url

open Text

theorem readAuthority_special (d : UInt16) (cs : List Char) (alone : Bool) :
    readAuthority (.special d) cs alone =
      if (cutUserinfo cs).1 = some [] && (cutUserinfo cs).2.isEmpty && !alone then .error .emptyHost
      else if (spanHost false (cutUserinfo cs).2).1.isEmpty then .error .emptyHost
      else (Host.parse (spanHost false (cutUserinfo cs).2).1).bind fun host =>
        (readPort ((spanHost false (cutUserinfo cs).2).2.tail.takeWhile (· != '\\'))).bind fun port =>
          .ok (⟨(readUserinfo ((cutUserinfo cs).1.getD [])).1,
            (readUserinfo ((cutUserinfo cs).1.getD [])).2, some host,
            if port = some d then none else port⟩,
            (spanHost false (cutUserinfo cs).2).2.tail.dropWhile (· != '\\')) := by
  rw [readAuthority]
  obtain ⟨info, place⟩ := cutUserinfo cs
  dsimp only
  split
  · rfl
  · obtain ⟨hostText, portText⟩ := spanHost false place
    have hspecial : (SchemeKind.special d).isSpecial = true := rfl
    rw [hspecial, if_pos rfl]
    by_cases hempty : hostText.isEmpty = true
    · rw [if_pos hempty, if_pos hempty]
      rfl
    · rw [if_neg hempty, if_neg hempty]
      cases Host.parse hostText with
      | error fault => rfl
      | ok host => rfl

section Userinfo

variable {info place : List Char}

theorem cutUserinfo_of_not_mem (h : '@' ∉ place) : cutUserinfo place = (none, place) := by
  rw [cutUserinfo, if_neg]
  rw [List.contains_iff_mem]
  exact h

theorem cutUserinfo_append (h : '@' ∉ place) :
    cutUserinfo (info ++ '@' :: place) = (some info, place) := by
  have hreverse : (info ++ '@' :: place).reverse = place.reverse ++ '@' :: info.reverse := by
    simp
  have hplace : ∀ c ∈ place.reverse, (c != '@') = true := by
    intro c hc
    rw [bne_iff_ne]
    rintro rfl
    exact h (List.mem_reverse.mp hc)
  have hcontains : (info ++ '@' :: place).contains '@' = true := by
    rw [List.contains_iff_mem]
    exact List.mem_append_right _ List.mem_cons_self
  rw [cutUserinfo, if_pos hcontains, hreverse, List.dropWhile_append_of_pos hplace,
    List.takeWhile_append_of_pos hplace, List.dropWhile_cons_of_neg (by decide),
    List.takeWhile_cons_of_neg (by decide)]
  simp

end Userinfo

/-- The parts of an authority that was read. -/
structure Authority.WellFormed (a : Authority) (defaultPort : UInt16) : Prop where
  username : ∀ c ∈ a.username.toList, Percent.Kept .userinfo c
  password : ∀ p, a.password = some p → p ≠ "" ∧ ∀ c ∈ p.toList, Percent.Kept .userinfo c
  host : ∃ host, a.host = some host ∧ ∃ cs, Host.parse cs = .ok host
  port : a.port ≠ some defaultPort

theorem readUserinfo_fst_kept (cs : List Char) :
    ∀ c ∈ (readUserinfo cs).1.toList, Percent.Kept .userinfo c := by
  intro c hc
  unfold readUserinfo at hc
  split at hc <;> rw [String.toList_ofList] at hc <;>
    exact Percent.kept_of_mem_encode Percent.kept_userinfo_of_mark hc

theorem readUserinfo_snd_kept {cs : List Char} {p : String} (h : (readUserinfo cs).2 = some p) :
    p ≠ "" ∧ ∀ c ∈ p.toList, Percent.Kept .userinfo c := by
  unfold readUserinfo at h
  split at h
  · cases h
  · cases h
  · next name password hne _ =>
    cases h
    rw [String.toList_ofList]
    refine ⟨?_, fun c hc => Percent.kept_of_mem_encode Percent.kept_userinfo_of_mark hc⟩
    intro hempty
    rw [← String.toList_inj, String.toList_ofList] at hempty
    exact Percent.encode_ne_nil hne hempty

theorem readUserinfo_text {username : String} {password : Option String}
    (husername : ∀ c ∈ username.toList, Percent.Kept .userinfo c)
    (hpassword : ∀ p, password = some p → p ≠ "" ∧ ∀ c ∈ p.toList, Percent.Kept .userinfo c) :
    readUserinfo (username.toList ++ (password.elim [] fun p => ':' :: p.toList)) =
      (username, password) := by
  have hcolon : ':' ∉ username.toList := fun h => absurd (husername ':' h) (by decide)
  have hname : String.ofList (Percent.encode .userinfo username.toList) = username := by
    rw [Percent.encode_of_kept husername, String.ofList_toList]
  cases password with
  | none =>
    rw [Option.elim_none, List.append_nil, readUserinfo, cutAt?_of_not_mem hcolon]
    exact congrArg (·, none) hname
  | some p =>
    obtain ⟨hne, hkept⟩ := hpassword p rfl
    have hp : String.ofList (Percent.encode .userinfo p.toList) = p := by
      rw [Percent.encode_of_kept hkept, String.ofList_toList]
    obtain ⟨c, cs, hcs⟩ := List.exists_cons_of_ne_nil (mt String.toList_eq_nil_iff.mp hne)
    rw [hcs] at hp
    rw [Option.elim_some, hcs, readUserinfo, cutAt?_append hcolon]
    dsimp only
    rw [hname, hp]

theorem wellFormed_of_readAuthority {d : UInt16} {cs : List Char} {alone : Bool} {a : Authority}
    {extra : List Char} (h : readAuthority (.special d) cs alone = .ok (a, extra)) :
    a.WellFormed d := by
  rw [readAuthority_special] at h
  split at h
  · cases h
  split at h
  · cases h
  cases hhost : Host.parse (spanHost false (cutUserinfo cs).2).1 with
  | error fault =>
    rw [hhost] at h
    cases h
  | ok host =>
    cases hport : readPort ((spanHost false (cutUserinfo cs).2).2.tail.takeWhile (· != '\\')) with
    | error fault =>
      rw [hhost, Except.bind, hport] at h
      cases h
    | ok port =>
      rw [hhost, Except.bind, hport] at h
      cases h
      refine ⟨readUserinfo_fst_kept _, fun p hp => readUserinfo_snd_kept hp, ⟨host, rfl, _, hhost⟩, ?_⟩
      dsimp only
      split
      · intro hnone
        cases hnone
      · assumption

def IsPlaceChar (c : Char) : Prop := 32 < c.toNat ∧ c ∉ ['/', '\\', '?', '#', '@']

instance (c : Char) : Decidable (IsPlaceChar c) := inferInstanceAs (Decidable (_ ∧ _))

theorem isPlaceChar_of_isAsciiNameChar {c : Char} (h : Domain.IsAsciiNameChar c) : IsPlaceChar c := by
  obtain ⟨-, -, hforbidden⟩ := h
  rw [Label.isForbidden, Bool.or_eq_false_iff, Bool.or_eq_false_iff,
    decide_eq_false_iff_not] at hforbidden
  obtain ⟨⟨hlow, -⟩, hlist⟩ := hforbidden
  refine ⟨Nat.lt_of_not_le hlow, fun hmem => ?_⟩
  rw [← Bool.not_eq_true, List.contains_iff_mem] at hlist
  have hsubset : ['/', '\\', '?', '#', '@'] ⊆
      ['%', '#', '/', ':', '<', '>', '?', '@', '[', '\\', ']', '^', '|'] := by
    decide
  exact hlist (hsubset hmem)

theorem ne_of_isAsciiNameChar {c : Char} (h : Domain.IsAsciiNameChar c) :
    c ≠ ':' ∧ c ≠ '[' ∧ c ≠ ']' := by
  refine ⟨?_, ?_, ?_⟩ <;> rintro rfl <;> exact absurd h (by decide)

theorem spanHost_append {inside : Bool} {cs : List Char} (rest : List Char)
    (h : ∀ c ∈ cs, (c ≠ ':' ∨ inside = true) ∧ c ≠ '[' ∧ c ≠ ']') :
    spanHost inside (cs ++ rest) = (cs ++ (spanHost inside rest).1, (spanHost inside rest).2) := by
  induction cs with
  | nil => rfl
  | cons c cs ih =>
    obtain ⟨⟨hcolon, hopen, hclose⟩, hcs⟩ := List.forall_mem_cons.mp h
    have hinside : (decide (c = ':') && !inside) = false := by
      obtain hcolon | rfl := hcolon
      · rw [decide_eq_false hcolon, Bool.false_and]
      · rw [Bool.not_true, Bool.and_false]
    rw [List.cons_append, spanHost, hinside, if_neg Bool.false_ne_true, if_neg hopen, if_neg hclose,
      ih hcs]
    rfl

theorem spanHost_port {rest : List Char} (h : rest = [] ∨ ∃ digits, rest = ':' :: digits) :
    spanHost false rest = ([], rest) := by
  obtain rfl | ⟨digits, rfl⟩ := h
  · rfl
  · rfl

namespace Host

variable {cs : List Char} {host : Host}

theorem isPlaceChar_of_mem (h : parse cs = .ok host) : ∀ c ∈ host.text.toList, IsPlaceChar c := by
  intro c hc
  cases host with
  | name text =>
    obtain ⟨name, hname, -, -⟩ := exists_of_parse_name h
    exact isPlaceChar_of_isAsciiNameChar (Domain.isAsciiNameChar_of_mem hname c hc)
  | ipv4 address =>
    rw [text, String.toList_ofList] at hc
    exact isPlaceChar_of_isAsciiNameChar (Ipv4.isAsciiNameChar_of_mem address c hc)
  | ipv6 address =>
    rw [text, String.toList_ofList, List.cons_append] at hc
    obtain rfl | hc := List.mem_cons.mp hc
    · decide
    obtain hc | hc := List.mem_append.mp hc
    · exact Ipv6.forall_mem_text (by decide) (by decide) address c hc
    · rw [List.mem_singleton.mp hc]
      decide

theorem text_ne_nil (h : parse cs = .ok host) : host.text.toList ≠ [] := by
  cases host with
  | name text =>
    obtain ⟨-, -, hne, -⟩ := exists_of_parse_name h
    exact hne
  | ipv4 address =>
    rw [text, String.toList_ofList]
    intro hnil
    exact absurd (Ipv4.looksNumeric_text address) (hnil ▸ by decide)
  | ipv6 address =>
    rw [text, String.toList_ofList]
    exact List.cons_ne_nil _ _

theorem spanHost_text (h : parse cs = .ok host) {rest : List Char}
    (hrest : rest = [] ∨ ∃ digits, rest = ':' :: digits) :
    spanHost false (host.text.toList ++ rest) = (host.text.toList, rest) := by
  have hplain (text : List Char) (htext : ∀ c ∈ text, Domain.IsAsciiNameChar c) :
      spanHost false (text ++ rest) = (text, rest) := by
    rw [spanHost_append, spanHost_port hrest, List.append_nil]
    intro c hc
    obtain ⟨hcolon, hbrackets⟩ := ne_of_isAsciiNameChar (htext c hc)
    exact ⟨.inl hcolon, hbrackets⟩
  cases host with
  | name text =>
    obtain ⟨name, hname, -, -⟩ := exists_of_parse_name h
    exact hplain _ (Domain.isAsciiNameChar_of_mem hname)
  | ipv4 address =>
    rw [text, String.toList_ofList]
    exact hplain _ (Ipv4.isAsciiNameChar_of_mem address)
  | ipv6 address =>
    have hinside : spanHost true (Ipv6.text address ++ ']' :: rest) =
        (Ipv6.text address ++ [']'], rest) := by
      rw [spanHost_append]
      · rw [spanHost]
        simp [spanHost_port hrest]
      · exact Ipv6.forall_mem_text (by decide) (by decide) address
    rw [text, String.toList_ofList, List.cons_append, List.cons_append, List.append_assoc,
      List.singleton_append, spanHost]
    simp [hinside]

end Host

section Port

def portDigits (port : Option UInt16) : List Char := port.elim [] fun p => Numeral.decimal p.toNat

theorem readPort_digits (port : Option UInt16) : readPort (portDigits port) = .ok port := by
  cases port with
  | none => rfl
  | some p =>
    have hne : (Numeral.decimal p.toNat).isEmpty = false :=
      List.isEmpty_eq_false_iff.mpr (Numeral.decimal_ne_nil _)
    have hlt := p.toNat_lt
    rw [portDigits, Option.elim_some, readPort, hne, if_neg Bool.false_ne_true,
      Numeral.readDigits_decimal (by omega)]
    dsimp only
    rw [UInt16.ofNat_toNat]

theorem isDigit_of_mem_portDigits {port : Option UInt16} {c : Char} (h : c ∈ portDigits port) :
    c.isDigit = true := by
  cases port with
  | none => cases h
  | some p => exact Numeral.isDigit_of_mem_decimal h

end Port

namespace Authority

variable {d : UInt16} {a : Authority}

theorem toList_userinfo (a : Authority) :
    a.userinfo.toList = if a.username = "" ∧ a.password = none then []
      else a.username.toList ++ (a.password.elim [] fun p => ':' :: p.toList) ++ ['@'] := by
  cases hpassword : a.password with
  | none =>
    rw [userinfo, hpassword]
    by_cases hname : a.username = ""
    · simp [hname]
    · simp [hname]
  | some p =>
    rw [userinfo, hpassword]
    simp

theorem portText_eq (a : Authority) :
    a.port = none ∧ a.portText.toList = [] ∨ a.portText.toList = ':' :: portDigits a.port := by
  cases hport : a.port with
  | none =>
    rw [portText, hport]
    exact .inl ⟨rfl, rfl⟩
  | some p =>
    rw [portText, hport]
    refine .inr ?_
    simp [Numeral.text, portDigits]

theorem tail_portText (a : Authority) : a.portText.toList.tail = portDigits a.port := by
  obtain ⟨hnone, hnil⟩ | hcons := portText_eq a
  · rw [hnone, hnil]
    rfl
  · rw [hcons, List.tail_cons]

theorem portText_ends (a : Authority) :
    a.portText.toList = [] ∨ ∃ digits, a.portText.toList = ':' :: digits := by
  obtain ⟨-, hnil⟩ | hcons := portText_eq a
  · exact .inl hnil
  · exact .inr ⟨_, hcons⟩

theorem isPlaceChar_of_isDigit {c : Char} (h : c.isDigit = true) : IsPlaceChar c := by
  rw [Char.isDigit_iff_toNat] at h
  refine ⟨by simp only [Char.reduceToNat] at h; omega, ?_⟩
  intro hmem
  have key : ∀ d ∈ ['/', '\\', '?', '#', '@'], ¬ ('0'.toNat ≤ d.toNat ∧ d.toNat ≤ '9'.toNat) :=
    List.all_iff_forall_prop.mp (by decide)
  exact key c hmem h

theorem isPlaceChar_of_mem_portText {c : Char} (h : c ∈ a.portText.toList) : IsPlaceChar c := by
  obtain ⟨-, hnil⟩ | hcons := portText_eq a
  · rw [hnil] at h
    cases h
  · rw [hcons] at h
    obtain rfl | hdigit := List.mem_cons.mp h
    · decide
    · exact isPlaceChar_of_isDigit (isDigit_of_mem_portDigits hdigit)

theorem cutUserinfo_text (h : a.WellFormed d) {place : List Char} (hplace : '@' ∉ place) :
    ∃ info, cutUserinfo (a.userinfo.toList ++ place) = (info, place) ∧
      readUserinfo (info.getD []) = (a.username, a.password) := by
  rw [toList_userinfo]
  split
  · next hnone =>
    refine ⟨none, cutUserinfo_of_not_mem hplace, ?_⟩
    rw [hnone.1, hnone.2]
    rfl
  · refine ⟨some (a.username.toList ++ (a.password.elim [] fun p => ':' :: p.toList)), ?_,
      readUserinfo_text h.username h.password⟩
    rw [List.append_assoc, List.singleton_append]
    exact cutUserinfo_append hplace

theorem isPlaceChar_of_mem {host : Host} {cs : List Char} (hhost : Host.parse cs = .ok host) :
    ∀ c ∈ host.text.toList ++ a.portText.toList, IsPlaceChar c := by
  intro c hc
  obtain hc | hc := List.mem_append.mp hc
  · exact Host.isPlaceChar_of_mem hhost c hc
  · exact isPlaceChar_of_mem_portText hc

theorem toList_text {host : Host} (h : a.host = some host) :
    a.text.toList = a.userinfo.toList ++ (host.text.toList ++ a.portText.toList) := by
  rw [text, hostText, h, String.toList_append, String.toList_append, List.append_assoc]
  rfl

theorem readAuthority_text (h : a.WellFormed d) (alone : Bool) :
    readAuthority (.special d) a.text.toList alone =
      (Host.parse a.hostText.toList).map fun host => ({ a with host := some host }, []) := by
  obtain ⟨host, hhost, cs, hcs⟩ := h.host
  have hhostText : a.hostText.toList = host.text.toList := by
    rw [hostText, hhost]
    rfl
  have hat : '@' ∉ host.text.toList ++ a.portText.toList := fun hmem =>
    absurd (isPlaceChar_of_mem hcs '@' hmem) (by decide)
  obtain ⟨info, hcut, hread⟩ := cutUserinfo_text h hat
  have hdigits : ∀ c ∈ portDigits a.port, (c != '\\') = true := by
    intro c hc
    rw [bne_iff_ne]
    rintro rfl
    exact absurd (isDigit_of_mem_portDigits hc) (by decide)
  have hplace : (host.text.toList ++ a.portText.toList).isEmpty = false :=
    List.isEmpty_eq_false_iff.mpr (List.append_ne_nil_of_left_ne_nil (Host.text_ne_nil hcs) _)
  have hne : host.text.toList.isEmpty = false := List.isEmpty_eq_false_iff.mpr (Host.text_ne_nil hcs)
  rw [readAuthority_special, toList_text hhost, hcut, Host.spanHost_text hcs (portText_ends a),
    tail_portText, hread]
  dsimp only
  rw [hplace, Bool.and_false, Bool.false_and, if_neg Bool.false_ne_true, hne,
    if_neg Bool.false_ne_true, List.takeWhile_eq_self_iff.mpr hdigits,
    List.dropWhile_eq_nil_iff.mpr hdigits, readPort_digits, hhostText]
  cases Host.parse host.text.toList with
  | error fault => rfl
  | ok host =>
    rw [Except.bind, Except.bind, if_neg h.port]
    rfl

end Authority

end LoginGateway.Url
