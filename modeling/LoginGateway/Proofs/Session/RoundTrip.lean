import LoginGateway.Proofs.Session.Cookie
import LoginGateway.Proofs.Session.Tampering

namespace LoginGateway.Session.Cookie

open Text

def NamesSession (pair : List Char) : Prop :=
  ∃ key value, pair = key ++ '=' :: value ∧ '=' ∉ key ∧ trimBlank key = name.toList ∧ trimBlank value ≠ []

def Padding (cs : List Char) : Prop := ∀ c ∈ cs, c = ' ' ∨ c = '\t'

/-- The pair of a token, with spaces and tabs around it, its name and its value. -/
def Padded (token : String) (pair : List Char) : Prop :=
  ∃ a b c d, pair = (a ++ (name.toList ++ b)) ++ '=' :: (c ++ (token.toList ++ d)) ∧
    Padding a ∧ Padding b ∧ Padding c ∧ Padding d

theorem Padding.isBlank {cs : List Char} (h : Padding cs) : ∀ c ∈ cs, isBlank c = true := by
  intro c hc
  obtain rfl | rfl := h c hc <;> decide

section Pairs

variable {pair : List Char} {token : String}

theorem gives_iff_cut : Gives pair token ↔ ∃ key value, cutAt? '=' pair = some (key, value) ∧
    trimBlank key = name.toList ∧ trimBlank value = token.toList ∧ token ≠ "" := by
  obtain ⟨left, right, hpair, hleft, hright⟩ := exists_trimBy isBlank pair
  have hequals {cs : List Char} (h : ∀ c ∈ cs, Text.isBlank c = true) : '=' ∉ cs := fun hmem =>
    absurd (h '=' hmem) (by decide)
  have hcut : cutAt? '=' pair =
      (cutAt? '=' (trimBlank pair)).map fun cut => (left ++ cut.1, cut.2 ++ right) :=
    (congrArg (cutAt? '=') hpair).trans (cutAt?_padded (hequals hleft) (hequals hright) (trimBlank pair))
  have hkey (key : List Char) : trimBlank (left ++ key) = trimBlank key := trimBy_append_left hleft key
  have hvalue (value : List Char) : trimBlank (value ++ right) = trimBlank value :=
    trimBy_append_right hright value
  simp only [Gives, ← and_assoc, ← cutAt?_eq_some_iff]
  simp only [and_assoc]
  constructor
  · rintro ⟨key, value, hparts, hname, htoken⟩
    refine ⟨left ++ key, value ++ right, ?_, ?_, ?_⟩
    · rw [hcut, hparts]
      rfl
    · rw [hkey, hname]
    · rw [hvalue]
      exact htoken
  · rintro ⟨key, value, hparts, hname, htoken⟩
    rw [hcut, Option.map_eq_some_iff] at hparts
    obtain ⟨⟨a, b⟩, hab, heq⟩ := hparts
    obtain ⟨rfl, rfl⟩ := Prod.mk.inj heq
    rw [hkey] at hname
    rw [hvalue] at htoken
    exact ⟨a, b, hab, hname, htoken⟩

theorem exists_gives_iff : (∃ token, Gives pair token) ↔ NamesSession pair := by
  simp only [gives_iff_cut, cutAt?_eq_some_iff]
  constructor
  · rintro ⟨token, key, value, ⟨hpair, hkey⟩, hname, hvalue, htoken⟩
    refine ⟨key, value, hpair, hkey, hname, ?_⟩
    rw [hvalue]
    exact fun hempty => htoken (String.toList_inj.mp hempty)
  · rintro ⟨key, value, hpair, hkey, hname, hvalue⟩
    refine ⟨String.ofList (trimBlank value), key, value, ⟨hpair, hkey⟩, hname,
      String.toList_ofList.symm, ?_⟩
    intro hempty
    rw [← String.toList_inj, String.toList_ofList] at hempty
    exact hvalue hempty

theorem Padded.gives (h : Padded token pair) (htoken : Plain token) : Gives pair token := by
  obtain ⟨a, b, c, d, rfl, ha, hb, hc, hd⟩ := h
  have hname : ∀ x ∈ name.toList, Text.isBlank x = false := List.all_iff_forall_prop.mp (by decide)
  have hequals : '=' ∉ a ++ (name.toList ++ b) := by
    have hpadding {cs : List Char} (h : Padding cs) : '=' ∉ cs := fun hmem =>
      absurd (h.isBlank '=' hmem) (by decide)
    rw [List.mem_append, List.mem_append, not_or, not_or]
    exact ⟨hpadding ha, by decide, hpadding hb⟩
  have hvalue : Trimmed Text.isBlank token.toList := trimmed_of_forall fun _ hx => htoken.not_blank hx
  exact gives_iff_cut.mpr ⟨_, _, cutAt?_append hequals,
    (trimmed_of_forall hname).trimBy_padded ha.isBlank hb.isBlank,
    hvalue.trimBy_padded hc.isBlank hd.isBlank, htoken.ne⟩

end Pairs

/-- The cookie of a new token can be set, whatever its age and wherever it may be sent; and among all
the pairs of the cookies that come back, the token is what is found, with any blanks around it, unless
an earlier pair gives the session a value. -/
theorem issued_found (codec : Codec) (now maxAge : Duration) (secure : Bool) :
    (∃ value, setting? (codec.issue now) maxAge secure = some value ∧
      returned value = Utf8.encode (name ++ "=" ++ codec.issue now)) ∧
    ∀ headers before padded after, pairs headers = before ++ padded :: after →
      (∀ earlier ∈ before, ¬ NamesSession earlier) → Padded (codec.issue now) padded →
        token? headers = some (codec.issue now) := by
  have hplain := plain_issue codec now
  refine ⟨?_, ?_⟩
  · obtain ⟨value, hvalue, hreturned⟩ :=
      exists_setting? hplain.printable hplain.semicolon maxAge secure
    refine ⟨value, hvalue, ?_⟩
    rw [hreturned, Utf8.encode, pair]
    simp only [String.toList_append, List.append_assoc]
    rfl
  · intro headers before padded after hpairs hearlier hpadded
    refine token?_eq_some_iff.mpr ⟨before, padded, after, hpairs, ?_, hpadded.gives hplain⟩
    intro earlier hmem t hgives
    exact hearlier earlier hmem (exists_gives_iff.mp ⟨t, hgives⟩)

/-- Pairs that are empty, have no value or several, give the session a blank one, or have a name that
only ends in that of the session. -/
def decoys : List (List Char) :=
  [[], "flag".toList, " a=b=c".toList, " rampart_session= \t".toList,
    " my_rampart_session=1".toList]

theorem issued_found_among_others :
    let headers : Http.Headers :=
      [(.cookie, ⟨[255], by decide⟩),
        (.cookie, .ofText ";flag; a=b=c; rampart_session= \t; my_rampart_session=1"),
        (.cookie, .ofText ("\trampart_session = " ++
          "0.6378380f77bca1cb01a32087f879f28d37bd4acbd8a9532b8115d074c1a173f1")),
        (.cookie, .ofText "rampart_session=2")]
    token? headers = some (Codec.small.issue .zero) := by
  intro headers
  have htoken : Codec.small.issue .zero =
      "0.6378380f77bca1cb01a32087f879f28d37bd4acbd8a9532b8115d074c1a173f1" := by decide +kernel
  have hpairs : pairs headers = decoys ++
      ("\trampart_session = ".toList ++
        "0.6378380f77bca1cb01a32087f879f28d37bd4acbd8a9532b8115d074c1a173f1".toList) ::
      ["rampart_session=2".toList] := by
    decide +kernel
  have hnone : ∀ pair ∈ decoys, tokenOfPair? pair = none :=
    List.all_iff_forall_prop.mp (by decide +kernel)
  have hdecoys : ∀ earlier ∈ decoys, ¬ NamesSession earlier := by
    intro earlier hmem hnames
    obtain ⟨t, hgives⟩ := exists_gives_iff.mpr hnames
    rw [← tokenOfPair?_eq_some_iff, hnone earlier hmem] at hgives
    cases hgives
  rw [← htoken] at hpairs
  have hpadded (token : String) : Padded token ("\trampart_session = ".toList ++ token.toList) :=
    ⟨['\t'], [' '], [' '], [], by simp [name], by simp [Padding], by simp [Padding], by simp [Padding],
      by simp [Padding]⟩
  exact (issued_found Codec.small .zero .zero false).2 headers _ _ _ hpairs hdecoys (hpadded _)

end LoginGateway.Session.Cookie
