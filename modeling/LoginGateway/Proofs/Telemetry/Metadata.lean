import LoginGateway.Proofs.Http.HeaderValue
import LoginGateway.Proofs.Telemetry.Settings
import LoginGateway.Proofs.Text.Base64
import LoginGateway.Telemetry.Metadata

namespace LoginGateway.Telemetry.Metadata

open Text

def EndsBin (key : String) : Prop := "-bin".toList <:+ key.toList

instance (key : String) : Decidable (EndsBin key) := inferInstanceAs (Decidable (_ <:+ _))

structure Valid (header : String × String) : Prop where
  key : Http.LegalName header.1
  octets : EndsBin header.1 → ∃ octets, header.2.toList = Base64.encode octets
  text : ¬ EndsBin header.1 → ∀ c ∈ header.2.toList, ¬ Http.HeaderValue.IsControl c

/-- What is wrong with a header, and found first. -/
inductive Fails (header : String × String) : Fault → Prop
  | notBase64 (hbin : EndsBin header.1) (htext : ∀ octets, header.2.toList ≠ Base64.encode octets) :
      Fails header (.notBase64 header.1)
  | binaryKey {octets} (hbin : EndsBin header.1) (htext : header.2.toList = Base64.encode octets)
      (hkey : ¬ Http.LegalName header.1) : Fails header (.binaryKey header.1)
  | key (hbin : ¬ EndsBin header.1) (hkey : ¬ Http.LegalName header.1) : Fails header (.key header.1)
  | value {c} (hbin : ¬ EndsBin header.1) (hkey : Http.LegalName header.1) (hmem : c ∈ header.2.toList)
      (hcontrol : Http.HeaderValue.IsControl c) : Fails header (.value header.1)

/-- The value stands for the text: for the octets that the text encodes, or for the text itself. -/
inductive Holds (key text : String) : Value → Prop
  | octets {octets} (hbin : EndsBin key) (htext : text.toList = Base64.encode octets) :
      Holds key text (.octets octets)
  | text {value : Http.HeaderValue} (hbin : ¬ EndsBin key) (htext : value.octets = Utf8.encode text) :
      Holds key text (.text value)

section Entries

theorem isBinary_iff {key : String} : isBinary key = true ↔ EndsBin key := by
  rw [isBinary, Option.isSome_iff_exists, EndsBin, ← List.reverse_prefix]
  exact exists_congr fun rest => dropFront?_eq_some.trans eq_comm

variable {header : String × String}

theorem Fails.not_valid {fault : Fault} (h : Fails header fault) : ¬ Valid header := by
  intro hvalid
  cases h with
  | notBase64 hbin htext =>
    obtain ⟨octets, hoctets⟩ := hvalid.octets hbin
    exact htext octets hoctets
  | binaryKey _ _ hkey => exact hkey hvalid.key
  | key _ hkey => exact hkey hvalid.key
  | value hbin _ hmem hcontrol => exact hvalid.text hbin _ hmem hcontrol

theorem Fails.readEntry_eq {fault : Fault} (h : Fails header fault) :
    readEntry header.1 header.2 = .error fault := by
  rw [readEntry]
  cases h with
  | notBase64 hbin htext =>
    rw [if_pos (isBinary_iff.mpr hbin)]
    cases hdecode : Base64.decode? header.2.toList with
    | none => rfl
    | some octets => exact absurd (Base64.decode?_eq_some_iff.mp hdecode) (htext octets)
  | binaryKey hbin htext hkey =>
    rw [if_pos (isBinary_iff.mpr hbin), Base64.decode?_eq_some_iff.mpr htext,
      Http.HeaderName.parse?_eq_none_iff.mpr hkey]
  | key hbin hkey =>
      rw [if_neg fun h => hbin (isBinary_iff.mp h), Http.HeaderName.parse?_eq_none_iff.mpr hkey]
  | value hbin hkey hmem hcontrol =>
    rw [if_neg fun h => hbin (isBinary_iff.mp h)]
    cases hname : Http.HeaderName.parse? header.1 with
    | none => exact absurd hkey (Http.HeaderName.parse?_eq_none_iff.mp hname)
    | some name =>
      cases hvalue : Http.HeaderValue.ofString? header.2 with
      | none => rfl
      | some value =>
          exact absurd hcontrol (Http.HeaderValue.exists_ofString?_iff.mp ⟨value, hvalue⟩ _ hmem)

theorem Fails.unique {fault other : Fault} (h : Fails header fault) (hother : Fails header other) :
    fault = other :=
  Except.error.inj (h.readEntry_eq.symm.trans hother.readEntry_eq)

end Entries

section Insertion

variable {name n : Http.HeaderName} {value v : Value} {metadata : Metadata}

theorem mem_names_insert : n ∈ (metadata.insert name value).map Prod.fst ↔
    n = name ∨ n ∈ metadata.map Prod.fst := by
  induction metadata with
  | nil => simp [insert]
  | cons field rest ih =>
    rw [insert]
    split
    · next hname => simp [hname]
    · simp only [List.map_cons, List.mem_cons, ih]
      exact or_left_comm

theorem nodup_insert (h : (metadata.map Prod.fst).Nodup) (name : Http.HeaderName) (value : Value) :
    ((metadata.insert name value).map Prod.fst).Nodup := by
  induction metadata with
  | nil => simp [insert]
  | cons field rest ih =>
    rw [List.map_cons, List.nodup_cons] at h
    rw [insert]
    split
    · next hname =>
      rw [List.map_cons, List.nodup_cons, ← hname]
      exact h
    · next hname =>
      rw [List.map_cons, List.nodup_cons, mem_names_insert, not_or]
      exact ⟨⟨hname, h.1⟩, ih h.2⟩

theorem mem_insert_iff (h : (metadata.map Prod.fst).Nodup) :
    (n, v) ∈ metadata.insert name value ↔ n = name ∧ v = value ∨ n ≠ name ∧ (n, v) ∈ metadata := by
  induction metadata with
  | nil => simp [insert]
  | cons field rest ih =>
    obtain ⟨known, old⟩ := field
    obtain ⟨hknown, hrest⟩ := List.nodup_cons.mp h
    have hnew (w : Value) : (known, w) ∉ rest := fun hmem => hknown (List.mem_map.mpr ⟨_, hmem, rfl⟩)
    rw [insert]
    split
    · next hname =>
      subst hname
      have hother : (n, v) ∈ rest → n ≠ known := fun hmem heq => hnew v (heq ▸ hmem)
      simp only [List.mem_cons, Prod.mk.injEq]
      grind
    · next hname =>
      simp only [List.mem_cons, Prod.mk.injEq, ih hrest]
      grind

end Insertion

def Last (headers : List (String × String)) (key text : String) : Prop :=
  ∃ front back, headers = front ++ (key, text) :: back ∧ ∀ header ∈ back, header.1 ≠ key

/-- The metadata has each listed name once, with the value that is listed last. -/
structure Collects (headers : List (String × String)) (metadata : Metadata) : Prop where
  nodup : (metadata.map Prod.fst).Nodup
  names : ∀ key, (∃ field ∈ metadata, field.1.text = key) ↔ ∃ header ∈ headers, header.1 = key
  last : ∀ name value, (name, value) ∈ metadata ↔
    ∃ text, Last headers name.text text ∧ Holds name.text text value

def FirstFault (headers : List (String × String)) (fault : Fault) : Prop :=
  ∃ front header back, headers = front ++ header :: back ∧ (∀ earlier ∈ front, Valid earlier) ∧
    Fails header fault

section Steps

variable {headers front : List (String × String)} {header : String × String} {metadata : Metadata}

theorem last_concat {key text : String} : Last (headers ++ [header]) key text ↔
    header = (key, text) ∨ header.1 ≠ key ∧ Last headers key text := by
  constructor
  · rintro ⟨front, back, hsplit, hback⟩
    obtain rfl | ⟨back, last, rfl⟩ := List.eq_nil_or_concat' back
    · obtain ⟨-, hheader⟩ := List.append_inj' hsplit rfl
      exact .inl (List.singleton_inj.mp hheader)
    · rw [← List.cons_append, ← List.append_assoc] at hsplit
      obtain ⟨rfl, hheader⟩ := List.append_inj' hsplit rfl
      obtain rfl := List.singleton_inj.mp hheader
      obtain ⟨hback, hlast⟩ := List.forall_mem_append.mp hback
      exact .inr ⟨hlast _ (List.mem_singleton_self _), front, back, rfl, hback⟩
  · rintro (rfl | ⟨hne, front, back, rfl, hback⟩)
    · exact ⟨headers, [], rfl, List.forall_mem_nil _⟩
    · refine ⟨front, back ++ [header], by simp, List.forall_mem_append.mpr ⟨hback, ?_⟩⟩
      exact List.forall_mem_singleton.mpr hne

theorem Holds.unique {key text : String} {value other : Value} (h : Holds key text value)
    (hother : Holds key text other) : value = other := by
  cases h with
  | octets hbin htext =>
    cases hother with
    | octets _ htext' =>
      have hdecode := Base64.decode?_eq_some_iff.mpr htext
      rw [Base64.decode?_eq_some_iff.mpr htext'] at hdecode
      rw [Option.some.inj hdecode]
    | text hbin' _ => exact absurd hbin hbin'
  | text hbin htext =>
    cases hother with
    | octets hbin' _ => exact absurd hbin' hbin
    | text _ htext' =>
      have hread := Http.HeaderValue.ofString?_eq_some_iff.mpr htext
      rw [Http.HeaderValue.ofString?_eq_some_iff.mpr htext'] at hread
      rw [Option.some.inj hread]

theorem Collects.insert (h : Collects headers metadata) {name : Http.HeaderName} {value : Value}
    (hname : name.text = header.1) (hvalue : Holds header.1 header.2 value) :
    Collects (headers ++ [header]) (metadata.insert name value) where
  nodup := nodup_insert h.nodup name value
  names := by
    intro key
    have hmap (all : Metadata) :
        (∃ field ∈ all, field.1.text = key) ↔ ∃ n ∈ all.map Prod.fst, n.text = key := by
      simp
    rw [hmap]
    simp only [mem_names_insert, or_and_right, exists_or, exists_eq_left, List.mem_append,
      List.mem_singleton]
    rw [← hmap, h.names, hname, or_comm]
  last := by
    intro n v
    rw [mem_insert_iff h.nodup, h.last]
    simp only [last_concat]
    by_cases hn : n = name
    · subst hn
      have hheader (text : String) :
          header = (n.text, text) ∨ header.1 ≠ n.text ∧ Last headers n.text text ↔
          header.2 = text := by
        rw [hname, Prod.ext_iff]
        simp
      simp only [hheader, exists_eq_left', ne_eq, not_true_eq_false, false_and, or_false, true_and]
      rw [hname]
      exact ⟨fun heq => heq ▸ hvalue, fun hv => hv.unique hvalue⟩
    · have htext : header.1 ≠ n.text := fun heq =>
        hn (Http.HeaderName.eq_of_text (heq.symm.trans hname.symm))
      have hheader (text : String) : header ≠ (n.text, text) := fun heq => htext (congrArg Prod.fst heq)
      simp [hn, htext, hheader]

end Steps

section Faults

variable {headers : List (String × String)} {header : String × String} {fault : Fault}

theorem firstFault_cons : FirstFault (header :: headers) fault ↔
    Fails header fault ∨ Valid header ∧ FirstFault headers fault := by
  constructor
  · rintro ⟨front, bad, back, hsplit, hfront, hbad⟩
    cases front with
    | nil =>
      cases hsplit
      exact .inl hbad
    | cons first front =>
      cases hsplit
      obtain ⟨hfirst, hfront⟩ := List.forall_mem_cons.mp hfront
      exact .inr ⟨hfirst, front, bad, back, rfl, hfront, hbad⟩
  · rintro (hbad | ⟨hvalid, front, bad, back, rfl, hfront, hbad⟩)
    · exact ⟨[], header, headers, rfl, List.forall_mem_nil _, hbad⟩
    · exact ⟨header :: front, bad, back, rfl, List.forall_mem_cons.mpr ⟨hvalid, hfront⟩, hbad⟩

theorem FirstFault.not_valid (h : FirstFault headers fault) : ¬ ∀ header ∈ headers, Valid header := by
  obtain ⟨front, bad, back, rfl, -, hbad⟩ := h
  exact fun hvalid => hbad.not_valid (hvalid bad (List.mem_append_right front List.mem_cons_self))

theorem FirstFault.unique {other : Fault} (h : FirstFault headers fault)
    (hother : FirstFault headers other) :
    fault = other := by
  induction headers with
  | nil =>
    obtain ⟨front, _, _, hsplit, -⟩ := h
    exact absurd hsplit.symm (List.append_ne_nil_of_right_ne_nil front (List.cons_ne_nil _ _))
  | cons header headers ih =>
    obtain hfails | ⟨hvalid, hrest⟩ := firstFault_cons.mp h
    · obtain hfails' | ⟨hvalid, -⟩ := firstFault_cons.mp hother
      · exact hfails.unique hfails'
      · exact absurd hvalid hfails.not_valid
    · obtain hfails' | ⟨-, hrest'⟩ := firstFault_cons.mp hother
      · exact absurd hvalid hfails'.not_valid
      · exact ih hrest hrest'

end Faults

def add (metadata : Metadata) (header : String × String) : Except Fault Metadata := do
  let (name, value) ← readEntry header.1 header.2
  .ok (metadata.insert name value)

section Reading

variable {done headers : List (String × String)} {metadata : Metadata}

end Reading

section Gathering

variable {headers : List (String × String)}

end Gathering

end LoginGateway.Telemetry.Metadata
