import LoginGateway.Proofs.Text.Ascii
import LoginGateway.Proofs.Text.Utf8
import LoginGateway.Proofs.Url.Address
import LoginGateway.Proofs.Url.Percent
import LoginGateway.Url.Host

namespace LoginGateway.Url

open Text

theorem foldName?_of_ascii {cs : List Char} (h : ∀ c ∈ cs, c.toNat < 128 ∧ c.isUpper = false) :
    foldName? cs = some cs := by
  have hascii : ∀ c ∈ cs, c.toNat < 128 := fun c hc => (h c hc).1
  have hfold : ∀ c ∈ cs, foldChar? (id c) = some [c] := by
    intro c hc
    obtain ⟨hlt, hupper⟩ := h c hc
    rw [id, foldChar?, if_pos hlt, toLower_eq_self hupper]
  have hforms : cs.mapM foldChar? = some (cs.map ([·])) := by
    have hmap := Lists.mapM_map_eq_some hfold
    rwa [List.map_id] at hmap
  rw [foldName?, Composition.flatMap_decompose_of_ascii hascii, hforms, Option.bind_eq_bind,
    Option.bind_some, ← List.flatMap_def, List.flatMap_singleton', Composition.normalize_of_ascii hascii]

namespace Label

theorem all_ascii_of_ofText? {cs : List Char} {label : Label} (h : ofText? cs = some label) :
    label.ascii.all isLabelChar = true := by
  unfold ofText? at h
  split at h
  · split at h
    · obtain ⟨hall, heq⟩ := Option.ite_none_right_eq_some.mp h
      rw [← Option.some.inj heq]
      exact hall
    · obtain ⟨hascii, hall⟩ := ascii_of_ofCode? (Option.ite_none_right_eq_some.mp h).2
      rw [hascii]
      exact hall
  · obtain ⟨hascii, hall⟩ := ascii_of_ofCode? (Option.ite_none_right_eq_some.mp h).2
    rw [hascii]
    exact hall

theorem ofText?_ascii_of_ofCode? {code : List Char} {label : Label} (h : ofCode? code = some label) :
    ofText? label.ascii = if code.length ≤ maxCode then some label else none := by
  obtain ⟨hascii, hall⟩ := ascii_of_ofCode? h
  rw [hascii, ofText?, if_pos (isAscii_of_isLabelChar hall), dropFront?_marker]
  exact if_congr Iff.rfl h rfl

theorem ofText?_ascii_or {cs : List Char} {label : Label} (h : ofText? cs = some label) :
    ofText? label.ascii = some label ∨ ofText? label.ascii = none := by
  have key : ∀ code, ofCode? code = some label →
      ofText? label.ascii = some label ∨ ofText? label.ascii = none := by
    intro code hcode
    rw [ofText?_ascii_of_ofCode? hcode]
    split
    · exact .inl rfl
    · exact .inr rfl
  have h' := h
  unfold ofText? at h'
  split at h'
  · split at h'
    · have hplain : label.ascii = cs := by
        rw [← Option.some.inj (Option.ite_none_right_eq_some.mp h').2]
      rw [hplain]
      exact .inl h
    · exact key _ (Option.ite_none_right_eq_some.mp h').2
  · exact key _ (Option.ite_none_right_eq_some.mp h').2

theorem ascii_of_isLabelChar {c : Char} (h : isLabelChar c = true) :
    c.toNat < 128 ∧ c.isUpper = false ∧ isForbidden c = false ∧ c ≠ '.' := by
  simpa only [isLabelChar, Bool.and_eq_true, decide_eq_true_eq, Bool.not_eq_true', bne_iff_ne,
    and_assoc] using h

end Label

namespace Domain

def IsAsciiNameChar (c : Char) : Prop :=
  c.toNat < 128 ∧ c.isUpper = false ∧ Label.isForbidden c = false

instance (c : Char) : Decidable (IsAsciiNameChar c) := inferInstanceAs (Decidable (_ ∧ _))

variable {name ascii : List Char}

theorem exists_labels_of_toAscii? (h : toAscii? name = some ascii) : ∃ labels,
    labels ≠ [] ∧ (∀ label ∈ labels, ∃ cs, Label.ofText? cs = some label) ∧
      isDirected labels = true ∧ ascii = ['.'].intercalate (labels.map Label.ascii) := by
  simp only [toAscii?, Option.bind_eq_bind, Option.bind_eq_some_iff, Option.ite_none_right_eq_some,
    Option.some.injEq] at h
  obtain ⟨folded, -, -, labels, hlabels, hdirected, rfl⟩ := h
  refine ⟨labels, ?_, ?_, hdirected, rfl⟩
  · rintro rfl
    obtain ⟨c, cs, hsplit⟩ := List.exists_cons_of_ne_nil (List.splitOn_ne_nil '.' folded)
    rw [hsplit, List.mapM_cons] at hlabels
    simp [Option.bind_eq_some_iff] at hlabels
  · intro label hlabel
    obtain ⟨cs, -, hcs⟩ := Lists.exists_of_mem_mapM hlabels hlabel
    exact ⟨cs, hcs⟩

theorem isLabelChar_of_mem {label : Label} (h : ∃ cs, Label.ofText? cs = some label) :
    ∀ c ∈ label.ascii, Label.isLabelChar c = true := by
  obtain ⟨cs, hcs⟩ := h
  exact List.all_eq_true.mp (Label.all_ascii_of_ofText? hcs)

theorem isAsciiNameChar_of_mem (h : toAscii? name = some ascii) : ∀ c ∈ ascii, IsAsciiNameChar c := by
  obtain ⟨labels, -, hlabels, -, rfl⟩ := exists_labels_of_toAscii? h
  intro c hc
  obtain rfl | ⟨text, htext, hc⟩ := Lists.mem_intercalate hc
  · exact ⟨by decide, by decide, by decide⟩
  · obtain ⟨label, hlabel, rfl⟩ := List.mem_map.mp htext
    obtain ⟨hascii, hupper, hforbidden, -⟩ :=
      Label.ascii_of_isLabelChar (isLabelChar_of_mem (hlabels label hlabel) c hc)
    exact ⟨hascii, hupper, hforbidden⟩

theorem toAscii?_of_ascii (h : ∀ c ∈ ascii, IsAsciiNameChar c) :
    toAscii? ascii = ((ascii.splitOn '.').mapM Label.ofText?).bind fun labels =>
      if isDirected labels then some (['.'].intercalate (labels.map Label.ascii)) else none := by
  have hfold : foldName? ascii = some ascii := foldName?_of_ascii fun c hc => ⟨(h c hc).1, (h c hc).2.1⟩
  have hall : ascii.all Label.isNameChar = true := by
    rw [List.all_eq_true]
    intro c hc
    rw [Label.isNameChar, (h c hc).2.2, Bool.not_false, Bool.or_true]
  rw [toAscii?, hfold, Option.bind_eq_bind, Option.bind_some, if_pos hall]
  rfl

theorem toAscii?_ascii_or (h : toAscii? name = some ascii) :
    toAscii? ascii = some ascii ∨ toAscii? ascii = none := by
  have hchars := isAsciiNameChar_of_mem h
  obtain ⟨labels, hne, hlabels, hdirected, heq⟩ := exists_labels_of_toAscii? h
  have hsplit : ascii.splitOn '.' = labels.map Label.ascii := by
    rw [heq]
    apply List.splitOn_intercalate
    · intro text htext hpoint
      obtain ⟨label, hlabel, rfl⟩ := List.mem_map.mp htext
      have hchar := isLabelChar_of_mem (hlabels label hlabel) '.' hpoint
      exact (Label.ascii_of_isLabelChar hchar).2.2.2 rfl
    · rw [ne_eq, List.map_eq_nil_iff]
      exact hne
  have hread : ∀ label ∈ labels, Label.ofText? label.ascii = some (id label) ∨
      Label.ofText? label.ascii = none := by
    intro label hlabel
    obtain ⟨cs, hcs⟩ := hlabels label hlabel
    exact Label.ofText?_ascii_or hcs
  rw [toAscii?_of_ascii hchars, hsplit]
  obtain hread | hread := Lists.mapM_map_eq_some_or hread
  · refine .inl ?_
    rw [hread, List.map_id, Option.bind_some, if_pos hdirected, heq]
  · refine .inr ?_
    rw [hread, Option.bind_none]

end Domain

namespace Ipv4

theorem isAsciiNameChar_of_mem (a : Ipv4) : ∀ c ∈ text a, Domain.IsAsciiNameChar c :=
  forall_mem_text (by decide) (by decide) a

theorem ofText?_decimal (n : Nat) :
    Label.ofText? (Numeral.decimal n) = some ⟨Numeral.decimal n, Numeral.decimal n⟩ := by
  have hlabel : (Numeral.decimal n).all Label.isLabelChar = true := by
    rw [List.all_eq_true]
    intro c hc
    obtain ⟨k, hk, rfl⟩ := mem_toDigits (by decide) hc
    have key : ∀ d < 10, Label.isLabelChar (Nat.digitChar d) = true := by
      decide
    exact key k hk
  have hmarker : Text.dropFront? Label.marker (Numeral.decimal n) = none := by
    obtain ⟨c, cs, hcs⟩ := List.exists_cons_of_ne_nil (Numeral.decimal_ne_nil n)
    have hdigit : c.isDigit = true := Numeral.isDigit_of_mem_decimal (hcs ▸ List.mem_cons_self)
    have hne : 'x' ≠ c := by
      rintro rfl
      exact absurd hdigit (by decide)
    rw [hcs, Label.marker, Text.dropFront?, if_neg hne]
  rw [Label.ofText?, if_pos (Label.isAscii_of_isLabelChar hlabel), hmarker]
  exact if_pos hlabel

theorem toAscii?_text (a : Ipv4) : Domain.toAscii? (text a) = some (text a) := by
  have hread := Lists.mapM_map_eq_some (l := a.octets) fun n _ => ofText?_decimal n
  have hdirected : Domain.isDirected
      (a.octets.map fun n => ⟨Numeral.decimal n, Numeral.decimal n⟩) = true := by
    have hleft : (a.octets.map fun n => (⟨Numeral.decimal n, Numeral.decimal n⟩ : Label)).any
        (·.text.any Text.Direction.isRightward) = false := by
      rw [List.any_eq_false]
      intro label hlabel hany
      obtain ⟨n, -, rfl⟩ := List.mem_map.mp hlabel
      obtain ⟨c, hc, hright⟩ := List.any_eq_true.mp hany
      obtain ⟨k, hk, rfl⟩ := mem_toDigits (by decide) hc
      have key : ∀ d < 10, Text.Direction.isRightward (Nat.digitChar d) = false := by
        decide
      rw [key k hk] at hright
      cases hright
    rw [Domain.isDirected, hleft, Bool.not_false, Bool.true_or]
  rw [Domain.toAscii?_of_ascii (isAsciiNameChar_of_mem a), splitOn_text, hread, Option.bind_some,
    if_pos hdirected, text_eq, List.map_map]
  rfl

end Ipv4

namespace Host

/-- What the ASCII form of a name is as a host. -/
def ofAscii (form : Option (List Char)) : Except UrlFault Host :=
  match form with
  | none => .error .invalidName
  | some [] => .error .emptyHost
  | some ascii =>
    if Ipv4.looksNumeric ascii then
      ((Ipv4.parse? ascii).map ipv4).elim (.error .invalidIpv4) .ok
    else .ok (name (String.ofList ascii))

theorem parse_of_head {cs : List Char} (h : cs.head? ≠ some '[') :
    parse cs = ofAscii ((Text.Utf8.decode? (Percent.decode (cs.flatMap String.utf8EncodeChar))).bind
      fun s => Domain.toAscii? s.toList) := by
  rw [parse]
  · generalize (Text.Utf8.decode? _).bind _ = form
    match form with
    | none | some [] | some (_ :: _) => rfl
  · rintro rest rfl
    exact h rfl

theorem parse_of_ascii {cs : List Char} (hascii : ∀ c ∈ cs, c.toNat < 128) (hpercent : '%' ∉ cs)
    (hbracket : '[' ∉ cs) : parse cs = ofAscii (Domain.toAscii? cs) := by
  have hdecode : Percent.decode (cs.flatMap String.utf8EncodeChar) =
      cs.flatMap String.utf8EncodeChar :=
    Percent.decode_of_not_mem (Text.Utf8.not_mem_octets hascii (d := '%') (by decide) hpercent)
  rw [parse_of_head, hdecode, Text.Utf8.decode?_flatMap, Option.bind_some, String.toList_ofList]
  intro hhead
  exact hbracket (List.mem_of_mem_head? hhead)

theorem parse_of_isAsciiNameChar {cs : List Char} (h : ∀ c ∈ cs, Domain.IsAsciiNameChar c) :
    parse cs = ofAscii (Domain.toAscii? cs) := by
  apply parse_of_ascii
  · exact fun c hc => (h c hc).1
  · intro hpercent
    exact absurd (h '%' hpercent).2.2 (by decide)
  · intro hbracket
    exact absurd (h '[' hbracket).2.2 (by decide)

theorem bracketed?_eq_ok {cs : List Char} {host : Host} (h : bracketed? cs = .ok host) :
    ∃ address, host = ipv6 address := by
  unfold bracketed? at h
  split at h
  · cases hread : Ipv6.parse? cs.dropLast with
    | none =>
      rw [hread] at h
      cases h
    | some address =>
      rw [hread] at h
      cases h
      exact ⟨address, rfl⟩
  · cases h

theorem ofAscii_eq_name {form : Option (List Char)} {text : String}
    (h : ofAscii form = .ok (.name text)) :
    form = some text.toList ∧ text.toList ≠ [] ∧ Ipv4.looksNumeric text.toList = false := by
  unfold ofAscii at h
  split at h
  · cases h
  · cases h
  · next ascii hne =>
    split at h
    · cases hread : Ipv4.parse? ascii with
      | none =>
        rw [hread] at h
        cases h
      | some address =>
        rw [hread] at h
        cases h
    · next hnumeric =>
      cases h
      rw [String.toList_ofList]
      exact ⟨rfl, hne, Bool.not_eq_true _ ▸ hnumeric⟩

theorem exists_of_parse_name {cs : List Char} {text : String} (h : parse cs = .ok (.name text)) :
    ∃ name, Domain.toAscii? name = some text.toList ∧ text.toList ≠ [] ∧
      Ipv4.looksNumeric text.toList = false := by
  by_cases hhead : cs.head? = some '['
  · obtain ⟨rest, rfl⟩ := List.head?_eq_some_iff.mp hhead
    obtain ⟨address, haddress⟩ := bracketed?_eq_ok h
    cases haddress
  · rw [parse_of_head hhead] at h
    obtain ⟨hform, hne, hnumeric⟩ := ofAscii_eq_name h
    obtain ⟨s, -, hs⟩ := Option.bind_eq_some_iff.mp hform
    exact ⟨s.toList, hs, hne, hnumeric⟩

theorem parse_name_or {cs : List Char} {text : String} (h : parse cs = .ok (.name text)) :
    parse text.toList = .ok (.name text) ∨ parse text.toList = .error .invalidName := by
  obtain ⟨name, hname, hne, hnumeric⟩ := exists_of_parse_name h
  rw [parse_of_isAsciiNameChar (Domain.isAsciiNameChar_of_mem hname)]
  obtain hread | hread := Domain.toAscii?_ascii_or hname
  · refine .inl ?_
    rw [hread, ofAscii]
    · simp only [hnumeric, Bool.false_eq_true, if_false, String.ofList_toList]
    · exact hne
  · refine .inr ?_
    rw [hread, ofAscii]

theorem parse_ipv4 (a : Ipv4) : parse (Ipv4.text a) = .ok (.ipv4 a) := by
  rw [parse_of_isAsciiNameChar (Ipv4.isAsciiNameChar_of_mem a), Ipv4.toAscii?_text, ofAscii]
  · rw [if_pos (Ipv4.looksNumeric_text a), Ipv4.parse?_text]
    rfl
  · intro hnil
    exact absurd (Ipv4.looksNumeric_text a) (hnil ▸ by decide)

theorem parse_ipv6 (a : Ipv6) : parse (ipv6 a).text.toList = .ok (.ipv6 a) := by
  rw [text, String.toList_ofList, List.cons_append, parse, bracketed?, List.getLast?_concat,
    List.dropLast_concat, Ipv6.parse?_text]
  rfl

/-- A host is read back from its text, or a label of it is too long to be read. -/
theorem parse_text_or {cs : List Char} {host : Host} (h : parse cs = .ok host) :
    parse host.text.toList = .ok host ∨ parse host.text.toList = .error .invalidName := by
  cases host with
  | name text => exact parse_name_or h
  | ipv4 address =>
    rw [text, String.toList_ofList]
    exact .inl (parse_ipv4 address)
  | ipv6 address => exact .inl (parse_ipv6 address)

end Host

end LoginGateway.Url
