import LoginGateway.Proofs.Http.HeaderValue
import LoginGateway.Proofs.Session.Codec
import LoginGateway.Proofs.Text.Blank
import LoginGateway.Session.Cookie

namespace LoginGateway.Session.Cookie

def pairs (headers : Http.Headers) : List (List Char) :=
  ((headers.all .cookie).filterMap (·.readable?)).flatMap (·.toList.splitOn ';')

/-- The pair names the session and gives it a value that is not blank. -/
def Gives (pair : List Char) (token : String) : Prop :=
  ∃ key value, Text.trimBlank pair = key ++ '=' :: value ∧ '=' ∉ key ∧
    Text.trimBlank key = name.toList ∧ Text.trimBlank value = token.toList ∧ token ≠ ""

/-- The first pair that gives a token gives this one. -/
def Carries (headers : Http.Headers) (token : String) : Prop :=
  ∃ before pair after, pairs headers = before ++ pair :: after ∧
    (∀ earlier ∈ before, ∀ t, ¬ Gives earlier t) ∧ Gives pair token

theorem tokenOfPair?_eq_some_iff {pair : List Char} {token : String} :
    tokenOfPair? pair = some token ↔ Gives pair token := by
  simp only [tokenOfPair?, Gives, Option.bind_eq_bind, Option.bind_eq_some_iff, Prod.exists,
    Text.cutAt?_eq_some_iff, Option.ite_none_right_eq_some, Bool.and_eq_true, decide_eq_true_eq,
    Option.some.injEq, Bool.not_eq_true', List.isEmpty_eq_false_iff]
  constructor
  · rintro ⟨key, value, ⟨hpair, hkey⟩, ⟨hname, hvalue⟩, rfl⟩
    refine ⟨key, value, hpair, hkey, hname, String.toList_ofList.symm, ?_⟩
    intro hempty
    rw [← String.toList_inj, String.toList_ofList] at hempty
    exact hvalue hempty
  · rintro ⟨key, value, hpair, hkey, hname, hvalue, htoken⟩
    refine ⟨key, value, ⟨hpair, hkey⟩, ⟨hname, ?_⟩, ?_⟩
    · rw [hvalue]
      exact fun hempty => htoken (String.toList_inj.mp hempty)
    · rw [hvalue, String.ofList_toList]

theorem token?_eq_findSome? (headers : Http.Headers) :
    token? headers = (pairs headers).findSome? tokenOfPair? := by
  rw [token?, pairs]
  induction headers.all .cookie with
  | nil => rfl
  | cons field fields ih =>
    rw [List.findSome?_cons, ih, List.filterMap_cons, tokenOfHeader?]
    cases hread : field.readable? with
    | none => rfl
    | some text =>
      rw [List.flatMap_cons, List.findSome?_append, Option.bind_eq_bind, Option.bind_some]
      cases (text.toList.splitOn ';').findSome? tokenOfPair? <;> rfl

theorem token?_eq_some_iff {headers : Http.Headers} {token : String} :
    token? headers = some token ↔ Carries headers token := by
  rw [token?_eq_findSome?, List.findSome?_eq_some_iff, Carries]
  have hnone (pair : List Char) : tokenOfPair? pair = none ↔ ∀ t, ¬ Gives pair t := by
    rw [Option.eq_none_iff_forall_ne_some]
    exact forall_congr' fun t => not_congr tokenOfPair?_eq_some_iff
  constructor
  · rintro ⟨before, pair, after, hpairs, hpair, hbefore⟩
    refine ⟨before, pair, after, hpairs, ?_, tokenOfPair?_eq_some_iff.mp hpair⟩
    intro earlier hearlier
    exact (hnone earlier).mp (hbefore earlier hearlier)
  · rintro ⟨before, pair, after, hpairs, hbefore, hpair⟩
    refine ⟨before, pair, after, hpairs, tokenOfPair?_eq_some_iff.mpr hpair, ?_⟩
    intro earlier hearlier
    exact (hnone earlier).mpr (hbefore earlier hearlier)

theorem isBlank_of_graphic {c : Char} (hlow : 32 < c.toNat) (hhigh : c.toNat < 127) :
    Text.isBlank c = false := by
  simp only [Text.isBlank, Bool.or_eq_false_iff, Bool.and_eq_false_iff, decide_eq_false_iff_not,
    beq_eq_false_iff_ne]
  omega

/-- A text that stands in a cookie as it is: printable, without blanks and semicolons. -/
structure Plain (token : String) : Prop where
  printable : Http.Printable token.toList
  space : ' ' ∉ token.toList
  semicolon : ';' ∉ token.toList
  ne : token ≠ ""

def pair (token : String) : List Char := name.toList ++ '=' :: token.toList

theorem pair_eq_append (token : String) : pair token = "rampart_session=".toList ++ token.toList := by
  have hname : "rampart_session=".toList = name.toList ++ ['='] := by decide
  rw [hname, List.append_assoc]
  rfl

def suffix (maxAge : Duration) (secure : Bool) : List Char :=
  attributes.toList.tail ++ Text.Numeral.decimal maxAge.seconds ++
    (if secure then "; Secure" else "").toList

/-- What is sent back of a value that sets a cookie: the octets before its first semicolon. -/
def returned (value : Http.HeaderValue) : List UInt8 :=
  value.octets.takeWhile (· ≠ UInt8.ofNat ';'.toNat)

theorem setting?_eq (token : String) (maxAge : Duration) (secure : Bool) :
    setting? token maxAge secure =
      Http.HeaderValue.ofString? (String.ofList (pair token ++ ';' :: suffix maxAge secure)) := by
  have hattributes : attributes.toList = ';' :: attributes.toList.tail := by decide
  have hequals : "=".toList = ['='] := rfl
  rw [setting?]
  congr 1
  rw [← String.toList_inj]
  simp only [String.toList_append, String.toList_ofList, Text.Numeral.text, pair, suffix, hequals]
  rw [hattributes]
  simp only [List.append_assoc, List.cons_append, List.nil_append, List.tail_cons]

theorem printable_suffix (maxAge : Duration) (secure : Bool) : Http.Printable (suffix maxAge secure) := by
  have hsecure : Http.Printable (if secure then "; Secure" else "").toList := by
    cases secure <;> decide
  rw [suffix, Http.printable_append, Http.printable_append]
  exact ⟨⟨by decide, Http.printable_decimal _⟩, hsecure⟩

section Setting

variable {token : String}

theorem printable_pair (h : Http.Printable token.toList) : Http.Printable (pair token) :=
  Http.printable_append.mpr ⟨by decide, List.forall_mem_cons.mpr ⟨by decide, h⟩⟩

theorem semicolon_not_mem_pair (h : ';' ∉ token.toList) : ';' ∉ pair token := by
  rw [pair, List.mem_append, List.mem_cons, not_or, not_or]
  exact ⟨by decide, by decide, h⟩

/-- A cookie with a printable token can be set, and its pair is what is sent back. The token may be
empty. -/
theorem exists_setting? (hprintable : Http.Printable token.toList) (hsemicolon : ';' ∉ token.toList)
    (maxAge : Duration) (secure : Bool) :
    ∃ value, setting? token maxAge secure = some value ∧
      returned value = (pair token).flatMap String.utf8EncodeChar := by
  have hpair : Http.Printable (pair token) := printable_pair hprintable
  have hwhole : Http.Printable (pair token ++ ';' :: suffix maxAge secure) :=
    Http.printable_append.mpr
      ⟨hpair, List.forall_mem_cons.mpr ⟨by decide, printable_suffix maxAge secure⟩⟩
  rw [← String.toList_ofList (l := pair token ++ _)] at hwhole
  obtain ⟨value, hvalue⟩ := Http.HeaderValue.exists_ofString? hwhole
  refine ⟨value, (setting?_eq token maxAge secure).trans hvalue, ?_⟩
  have hoctet : UInt8.ofNat ';'.toNat ∉ (pair token).flatMap String.utf8EncodeChar :=
    Text.Utf8.not_mem_octets hpair.ascii (by decide) (semicolon_not_mem_pair hsemicolon)
  rw [returned, Http.HeaderValue.ofString?_eq_some_iff.mp hvalue, Text.Utf8.encode,
    String.toList_ofList, List.flatMap_append, List.flatMap_cons,
    Text.Utf8.utf8EncodeChar_of_ascii (by decide)]
  refine (Lists.span_append ?_ ?_).1
  · intro b hb
    exact decide_eq_true (ne_of_mem_of_not_mem hb hoctet)
  · intro b hb
    obtain rfl := Option.some.inj hb
    rfl

def secondsOf? (part : List Char) : Option Nat := do
  let (key, value) ← Text.cutAt? '=' (Text.trimBlank part)
  if key = "Max-Age".toList then (Text.Numeral.readNat Text.Numeral.maxUnsigned value).toOption else none

def keptFor? (value : Http.HeaderValue) : Option Nat := do
  let text ← value.readable?
  (text.toList.splitOn ';').tail.findSome? secondsOf?

theorem secondsOf?_of_seconds (maxAge : Duration) :
    secondsOf? (" Max-Age=".toList ++ Text.Numeral.decimal maxAge.seconds) = some maxAge.seconds := by
  have hdigit : ∀ c ∈ Text.Numeral.decimal maxAge.seconds, Text.isBlank c = false := by
    intro c hc
    have hrange := Char.isDigit_iff_toNat.mp (Text.Numeral.isDigit_of_mem_decimal hc)
    simp only [Char.reduceToNat] at hrange
    exact isBlank_of_graphic (by omega) (by omega)
  have hvalue : ∀ c ∈ "Max-Age".toList ++ '=' :: Text.Numeral.decimal maxAge.seconds,
      Text.isBlank c = false :=
    List.forall_mem_append.mpr ⟨List.all_iff_forall_prop.mp (by decide),
      List.forall_mem_cons.mpr ⟨by decide, hdigit⟩⟩
  -- the blank before the name is trimmed away
  have htrim : Text.trimBlank (" Max-Age=".toList ++ Text.Numeral.decimal maxAge.seconds) =
      "Max-Age".toList ++ '=' :: Text.Numeral.decimal maxAge.seconds := Text.trimBy_of_forall hvalue
  have hread : Text.Numeral.readNat Text.Numeral.maxUnsigned (Text.Numeral.decimal maxAge.seconds) =
      .ok maxAge.seconds :=
    Text.Numeral.readNat_eq_ok_iff.mpr
      ⟨Text.Numeral.denotes_decimal _, Nat.le_of_lt_succ maxAge.seconds_lt⟩
  rw [secondsOf?, htrim, Text.cutAt?_append (by decide), Option.bind_eq_bind, Option.bind_some]
  dsimp only
  rw [if_pos rfl, hread]
  rfl

theorem keptFor?_eq {maxAge : Duration} {secure : Bool} {value : Http.HeaderValue}
    (hprintable : Http.Printable token.toList) (hsemicolon : ';' ∉ token.toList)
    (h : setting? token maxAge secure = some value) : keptFor? value = some maxAge.seconds := by
  rw [setting?_eq, Http.HeaderValue.ofString?_eq_some_iff, Text.Utf8.encode, String.toList_ofList] at h
  have hwhole : Http.Printable (pair token ++ ';' :: suffix maxAge secure) :=
    Http.printable_append.mpr ⟨printable_pair hprintable,
      List.forall_mem_cons.mpr ⟨by decide, printable_suffix maxAge secure⟩⟩
  have hread := Http.HeaderValue.readable?_of_printable hwhole h
  have hattributes : attributes.toList.tail = " Path=/".toList ++ ';' :: (" HttpOnly".toList ++
      ';' :: (" SameSite=Lax".toList ++ ';' :: " Max-Age=".toList)) := by
    decide
  have hsemicolon' : ';' ∉ " Max-Age=".toList ++ Text.Numeral.decimal maxAge.seconds := by
    rw [List.mem_append, not_or]
    refine ⟨by decide, fun hmem => ?_⟩
    exact absurd (Text.Numeral.isDigit_of_mem_decimal hmem) (by decide)
  have hlast : ((" Max-Age=".toList ++ Text.Numeral.decimal maxAge.seconds ++
      (if secure then "; Secure" else "").toList).splitOn ';').findSome? secondsOf? =
        some maxAge.seconds := by
    cases secure with
    | false =>
      rw [if_neg Bool.false_ne_true, String.toList_empty, List.append_nil,
        List.splitOn_eq_singleton hsemicolon', List.findSome?_cons, secondsOf?_of_seconds]
    | true =>
      have hsecure : "; Secure".toList = ';' :: " Secure".toList := by
        decide
      rw [if_pos rfl, hsecure, List.splitOn_append_cons_self_of_not_mem hsemicolon',
        List.findSome?_cons, secondsOf?_of_seconds]
  rw [keptFor?, hread, Option.bind_eq_bind, Option.bind_some, String.toList_ofList,
    List.splitOn_append_cons_self_of_not_mem (semicolon_not_mem_pair hsemicolon), List.tail_cons,
    suffix, hattributes]
  simp only [List.append_assoc, List.cons_append] at hlast ⊢
  rw [List.splitOn_append_cons_self_of_not_mem (by decide),
    List.splitOn_append_cons_self_of_not_mem (by decide),
    List.splitOn_append_cons_self_of_not_mem (by decide)]
  exact hlast

end Setting

namespace Plain

variable {token : String} (h : Plain token)
include h

theorem not_blank {c : Char} (hc : c ∈ token.toList) : Text.isBlank c = false := by
  obtain ⟨hlow, hhigh⟩ := h.printable c hc
  have hspace : c.toNat ≠ 32 := by
    intro heq
    rw [Char.toNat_inj.mp (heq.trans (by rfl : 32 = ' '.toNat))] at hc
    exact h.space hc
  exact isBlank_of_graphic (by omega) hhigh

theorem gives : Gives (pair token) token := by
  have hpair : ∀ c ∈ pair token, Text.isBlank c = false :=
    List.forall_mem_append.mpr
      ⟨List.all_iff_forall_prop.mp (by decide),
        List.forall_mem_cons.mpr ⟨by decide, fun _ hc => h.not_blank hc⟩⟩
  exact ⟨name.toList, token.toList, Text.trimBy_of_forall hpair, by decide, by decide,
    Text.trimBy_of_forall fun _ hc => h.not_blank hc, h.ne⟩

theorem carries {headers : Http.Headers} {value : Http.HeaderValue}
    (hheaders : headers.all .cookie = [value])
    (hvalue : value.octets = (pair token).flatMap String.utf8EncodeChar) : Carries headers token := by
  have hread : value.readable? = some (String.ofList (pair token)) :=
    Http.HeaderValue.readable?_of_printable (printable_pair h.printable) hvalue
  have hpairs : pairs headers = [pair token] := by
    rw [pairs, hheaders, List.filterMap_cons_some hread, List.filterMap_nil, List.flatMap_singleton,
      String.toList_ofList, List.splitOn_eq_singleton (semicolon_not_mem_pair h.semicolon)]
  exact ⟨[], pair token, [], hpairs, List.forall_mem_nil _, h.gives⟩

end Plain

theorem plain_issue (codec : Codec) (now : Duration) : Plain (codec.issue now) := by
  have hplain : ∀ c ∈ '.' :: Text.Hex.lowerDigits,
      (32 ≤ c.toNat ∧ c.toNat < 127) ∧ c ≠ ' ' ∧ c ≠ ';' :=
    List.all_iff_forall_prop.mp (by decide)
  have hmem : ∀ c ∈ (codec.issue now).toList, c ∈ '.' :: Text.Hex.lowerDigits := fun c hc =>
    codec.mem_of_mem_issue hc
  refine ⟨fun c hc => (hplain c (hmem c hc)).1, ?_, ?_, ?_⟩
  · exact fun hspace => (hplain ' ' (hmem ' ' hspace)).2.1 rfl
  · exact fun hsemicolon => (hplain ';' (hmem ';' hsemicolon)).2.2 rfl
  · intro hempty
    have hchars := codec.toList_issue now
    rw [hempty] at hchars
    exact List.cons_ne_nil _ _ (List.append_eq_nil_iff.mp hchars.symm).2

end LoginGateway.Session.Cookie
