import LoginGateway.Proofs.Http.HeaderName
import LoginGateway.Proofs.Text.Blank
import LoginGateway.Proofs.Text.Cut
import LoginGateway.Telemetry.Settings
import Mathlib.Data.Option.Basic

namespace LoginGateway.Telemetry.Settings

open Text

/-- A header that a list can hold: its name is not empty, in lower case and without `=`, neither part
has a comma, and no blanks stand around them. -/
structure Listable (header : String × String) : Prop where
  ne : header.1 ≠ ""
  lower : ∀ c ∈ header.1.toList, c.isUpper = false
  equals : '=' ∉ header.1.toList
  nameComma : ',' ∉ header.1.toList
  nameTrimmed : Trimmed isBlank header.1.toList
  valueComma : ',' ∉ header.2.toList
  valueTrimmed : Trimmed isBlank header.2.toList

instance (header : String × String) : Decidable (Listable header) :=
  decidable_of_iff (header.1 ≠ "" ∧ header.1.toList.all (!·.isUpper) = true ∧ '=' ∉ header.1.toList ∧
      ',' ∉ header.1.toList ∧ Trimmed isBlank header.1.toList ∧ ',' ∉ header.2.toList ∧
      Trimmed isBlank header.2.toList) <| by
    rw [List.all_eq_true]
    simp only [Bool.not_eq_true']
    exact ⟨fun ⟨h₁, h₂, h₃, h₄, h₅, h₆, h₇⟩ => ⟨h₁, h₂, h₃, h₄, h₅, h₆, h₇⟩,
      fun ⟨h₁, h₂, h₃, h₄, h₅, h₆, h₇⟩ => ⟨h₁, h₂, h₃, h₄, h₅, h₆, h₇⟩⟩

def AllBlank (cs : List Char) : Prop := ∀ c ∈ cs, isBlank c = true

instance (cs : List Char) : Decidable (AllBlank cs) :=
    decidable_of_iff (cs.all isBlank = true) List.all_eq_true

/-- The entry is the header: its name in any case, `=` and its value, with blanks around both. -/
def Writes (header : String × String) (entry : List Char) : Prop :=
  ∃ a name b c d, entry = (a ++ (name ++ b)) ++ '=' :: (c ++ (header.2.toList ++ d)) ∧
    name.map Char.toLower = header.1.toList ∧ AllBlank a ∧ AllBlank b ∧ AllBlank c ∧ AllBlank d

/-- The entry has no `=`, or nothing but blanks before the first one. -/
def Nameless (entry : List Char) : Prop :=
  '=' ∉ entry ∨ ∃ front back, entry = front ++ '=' :: back ∧ AllBlank front

/-- The entries are the headers in their order, with any number of entries without a name in between. -/
inductive Lists : List (String × String) → List (List Char) → Prop
  | nil : Lists [] []
  | nameless {headers entry entries} (hcomma : ',' ∉ entry) (hentry : Nameless entry)
      (hrest : Lists headers entries) : Lists headers (entry :: entries)
  | header {header headers entry entries} (hentry : Writes header entry)
      (hrest : Lists headers entries) : Lists (header :: headers) (entry :: entries)

section Characters

theorem isBlank_toLower (c : Char) : isBlank c.toLower = isBlank c := by
  cases hupper : c.isUpper with
  | false => rw [toLower_eq_self hupper]
  | true =>
    have hrange := isUpper_iff_toNat.mp hupper
    have hlower := toNat_toLower c
    rw [if_pos hrange] at hlower
    rw [Bool.eq_iff_iff]
    simp only [isBlank, hlower, Bool.or_eq_true, Bool.and_eq_true, decide_eq_true_eq, beq_iff_eq]
    omega

theorem AllBlank.not_mem {cs : List Char} (h : AllBlank cs) {c : Char} (hc : isBlank c = false) :
    c ∉ cs := by
  intro hmem
  rw [h c hmem] at hc
  cases hc

theorem mem_map_toLower_iff {cs : List Char} {d : Char} (h : ¬ (65 ≤ d.toNat ∧ d.toNat ≤ 90))
    (h' : ¬ (97 ≤ d.toNat ∧ d.toNat ≤ 122)) : d ∈ cs.map Char.toLower ↔ d ∈ cs := by
  simp only [List.mem_map, toLower_eq_iff h h', exists_eq_right]

theorem trimmed_map_toLower_iff {cs : List Char} :
    Trimmed isBlank (cs.map Char.toLower) ↔ Trimmed isBlank cs := by
  have hhead : (∀ c ∈ (cs.map Char.toLower).head?, isBlank c = false) ↔
      ∀ c ∈ cs.head?, isBlank c = false := by
    simp only [List.head?_map, Option.forall_mem_map, isBlank_toLower]
  have hlast : (∀ c ∈ (cs.map Char.toLower).getLast?, isBlank c = false) ↔
      ∀ c ∈ cs.getLast?, isBlank c = false := by
    simp only [List.getLast?_map, Option.forall_mem_map, isBlank_toLower]
  exact ⟨fun h => ⟨hhead.mp h.head, hlast.mp h.last⟩, fun h => ⟨hhead.mpr h.head, hlast.mpr h.last⟩⟩

end Characters

section Entries

variable {header : String × String} {entry : List Char}

theorem header?_eq_some_iff_cut : header? entry = some header ↔
    ∃ name value, cutAt? '=' entry = some (name, value) ∧ trimBlank name ≠ [] ∧
      header.1.toList = (trimBlank name).map Char.toLower ∧ header.2.toList = trimBlank value := by
  obtain ⟨kept, text⟩ := header
  simp only [header?, Option.bind_eq_bind, Option.bind_eq_some_iff, Prod.exists,
    Option.ite_none_left_eq_some, List.isEmpty_map, List.isEmpty_iff, Option.some.injEq, Prod.mk.injEq,
    ← String.toList_inj, String.toList_ofList]
  refine exists₂_congr fun name value => and_congr_right fun _ => and_congr_right fun _ => ?_
  exact and_congr eq_comm eq_comm

theorem header?_eq_none_iff : header? entry = none ↔ Nameless entry := by
  cases hcut : cutAt? '=' entry with
  | none =>
    have hnone : header? entry = none := by
      rw [header?, hcut]
      rfl
    exact iff_of_true hnone (.inl (cutAt?_eq_none_iff.mp hcut))
  | some parts =>
    obtain ⟨name, value⟩ := parts
    obtain ⟨rfl, hname⟩ := cutAt?_eq_some hcut
    have hblank : header? (name ++ '=' :: value) = none ↔ AllBlank name := by
      rw [header?, hcut, AllBlank, ← trimBy_eq_nil_iff]
      simp [trimBlank]
    rw [hblank]
    refine ⟨fun h => .inr ⟨name, value, rfl, h⟩, ?_⟩
    rintro (hequals | ⟨front, back, heq, hfront⟩)
    · exact absurd (List.mem_append_right name List.mem_cons_self) hequals
    · rw [heq, cutAt?_append (hfront.not_mem (by decide))] at hcut
      cases hcut
      exact hfront

theorem Writes.header?_eq (h : Writes header entry) (hlist : Listable header) :
    header? entry = some header := by
  obtain ⟨a, name, b, c, d, rfl, hlower, ha, hb, hc, hd⟩ := h
  have hequals : '=' ∉ a ++ (name ++ b) := by
    have hname : '=' ∉ name := by
      rw [← mem_map_toLower_iff (by decide) (by decide), hlower]
      exact hlist.equals
    rw [List.mem_append, List.mem_append, not_or, not_or]
    exact ⟨ha.not_mem (by decide), hname, hb.not_mem (by decide)⟩
  have hname : Trimmed isBlank name := by
    rw [← trimmed_map_toLower_iff, hlower]
    exact hlist.nameTrimmed
  have htrim : trimBlank (a ++ (name ++ b)) = name := hname.trimBy_padded ha hb
  refine header?_eq_some_iff_cut.mpr ⟨_, _, cutAt?_append hequals, ?_, ?_, ?_⟩
  · rw [htrim]
    rintro rfl
    exact hlist.ne (String.toList_inj.mp hlower.symm)
  · rw [htrim, hlower]
  · exact (hlist.valueTrimmed.trimBy_padded hc hd).symm

theorem listable_of_header? (hcomma : ',' ∉ entry) (h : header? entry = some header) :
    Listable header ∧ Writes header entry := by
  obtain ⟨name, value, hcut, hne, hname, hvalue⟩ := header?_eq_some_iff_cut.mp h
  obtain ⟨rfl, hequals⟩ := cutAt?_eq_some hcut
  obtain ⟨a, b, hfront, ha, hb⟩ := exists_trimBy isBlank name
  obtain ⟨c, d, hback, hc, hd⟩ := exists_trimBy isBlank value
  have hparts : ∀ x ∈ trimBlank name, x ≠ '=' ∧ x ≠ ',' := by
    intro x hx
    have hmem : x ∈ name := by
      rw [hfront]
      exact List.mem_append_right a (List.mem_append_left b hx)
    refine ⟨fun heq => hequals (heq ▸ hmem), fun heq => hcomma ?_⟩
    exact List.mem_append_left _ (heq ▸ hmem)
  refine ⟨⟨?_, ?_, ?_, ?_, ?_, ?_, ?_⟩, a, trimBlank name, b, c, d, ?_, hname.symm, ha, hb, hc, hd⟩
  · intro hempty
    rw [hempty] at hname
    exact hne (List.map_eq_nil_iff.mp hname.symm)
  · rw [hname, List.forall_mem_map]
    exact fun x _ => Http.isUpper_toLower x
  · rw [hname, mem_map_toLower_iff (by decide) (by decide)]
    exact fun hmem => (hparts _ hmem).1 rfl
  · rw [hname, mem_map_toLower_iff (by decide) (by decide)]
    exact fun hmem => (hparts _ hmem).2 rfl
  · rw [hname, trimmed_map_toLower_iff]
    exact trimmed_trimBy isBlank name
  · rw [hvalue]
    intro hmem
    refine hcomma (List.mem_append_right name (List.mem_cons_of_mem _ ?_))
    rw [hback]
    exact List.mem_append_right c (List.mem_append_left d hmem)
  · rw [hvalue]
    exact trimmed_trimBy isBlank value
  · rw [hvalue, trimBlank, trimBlank, ← hfront, ← hback]

end Entries

section Lists

variable {headers : List (String × String)} {entries : List (List Char)}

theorem Lists.comma_not_mem (h : Lists headers entries) (hlist : ∀ header ∈ headers, Listable header) :
    ∀ entry ∈ entries, ',' ∉ entry := by
  induction h with
  | nil => exact List.forall_mem_nil _
  | nameless hcomma _ _ ih => exact List.forall_mem_cons.mpr ⟨hcomma, ih hlist⟩
  | header hentry _ ih =>
    obtain ⟨hheader, hheaders⟩ := List.forall_mem_cons.mp hlist
    obtain ⟨a, name, b, c, d, rfl, hlower, ha, hb, hc, hd⟩ := hentry
    have hname : ',' ∉ name := by
      rw [← mem_map_toLower_iff (by decide) (by decide), hlower]
      exact hheader.nameComma
    have hblank {cs : List Char} (h : AllBlank cs) : ',' ∉ cs := h.not_mem (by decide)
    refine List.forall_mem_cons.mpr ⟨?_, ih hheaders⟩
    simp [hblank ha, hblank hb, hblank hc, hblank hd, hname, hheader.valueComma]

theorem Lists.filterMap_eq (h : Lists headers entries) (hlist : ∀ header ∈ headers, Listable header) :
    entries.filterMap header? = headers := by
  induction h with
  | nil => rfl
  | nameless _ hentry _ ih =>
    rw [List.filterMap_cons_none (header?_eq_none_iff.mpr hentry), ih hlist]
  | header hentry _ ih =>
    obtain ⟨hheader, hheaders⟩ := List.forall_mem_cons.mp hlist
    rw [List.filterMap_cons_some (hentry.header?_eq hheader), ih hheaders]

theorem lists_filterMap (hcomma : ∀ entry ∈ entries, ',' ∉ entry) :
    (∀ header ∈ entries.filterMap header?, Listable header) ∧
      Lists (entries.filterMap header?) entries := by
  induction entries with
  | nil => exact ⟨List.forall_mem_nil _, .nil⟩
  | cons entry entries ih =>
    obtain ⟨hentry, hentries⟩ := List.forall_mem_cons.mp hcomma
    obtain ⟨hlist, hrest⟩ := ih hentries
    cases hread : header? entry with
    | none =>
      rw [List.filterMap_cons_none hread]
      exact ⟨hlist, .nameless hentry (header?_eq_none_iff.mp hread) hrest⟩
    | some header =>
      obtain ⟨hheader, hwrites⟩ := listable_of_header? hentry hread
      rw [List.filterMap_cons_some hread]
      exact ⟨List.forall_mem_cons.mpr ⟨hheader, hlist⟩, .header hwrites hrest⟩

theorem readHeaders_intercalate (hcomma : ∀ entry ∈ entries, ',' ∉ entry) :
    readHeaders (String.ofList ([','].intercalate entries)) = entries.filterMap header? := by
  rw [readHeaders, String.toList_ofList]
  cases entries with
  | nil => rfl
  | cons entry entries => rw [List.splitOn_intercalate ',' hcomma (List.cons_ne_nil entry entries)]

theorem readHeaders_eq_iff {list : String} : readHeaders list = headers ↔
    (∀ header ∈ headers, Listable header) ∧
      ∃ entries, list.toList = [','].intercalate entries ∧ Lists headers entries := by
  constructor
  · rintro rfl
    have hcomma : ∀ entry ∈ list.toList.splitOn ',', ',' ∉ entry := fun _ => not_mem_of_mem_splitOn
    obtain ⟨hlist, hlists⟩ := lists_filterMap hcomma
    exact ⟨hlist, _, (List.intercalate_splitOn ',').symm, hlists⟩
  · rintro ⟨hlist, entries, htext, hlists⟩
    rw [← String.ofList_toList (s := list), htext, readHeaders_intercalate (hlists.comma_not_mem hlist),
      hlists.filterMap_eq hlist]

end Lists

theorem readEndpoint_of_blank {raw : String} (h : trimBlank raw.toList = []) :
    readEndpoint raw = .error ⟨"", .emptyHost⟩ := by
  have hempty : trimEndpoint raw = [] := by
    rw [trimEndpoint, h]
    rfl
  rw [readEndpoint, hempty]
  rfl

theorem ofEnvironment_eq_some_iff {environment : String → Option String} {settings : Settings} :
    ofEnvironment environment = .ok (some settings) ↔
      ∃ raw, environment endpointVariable = some raw ∧ readEndpoint raw = .ok settings.endpoint ∧
        settings.headers = readHeaders ((environment headersVariable).getD "") ∧
        settings.instanceId = environment instanceVariable := by
  rw [ofEnvironment]
  cases environment endpointVariable with
  | none => exact iff_of_false (by rintro ⟨⟩) (by rintro ⟨_, ⟨⟩, _⟩)
  | some raw =>
    by_cases hblank : trimBlank raw.toList = []
    · dsimp only
      rw [hblank, List.isEmpty_nil, if_pos rfl]
      refine iff_of_false (by rintro ⟨⟩) ?_
      rintro ⟨_, ⟨⟩, hendpoint, -⟩
      rw [readEndpoint_of_blank hblank] at hendpoint
      cases hendpoint
    · dsimp only
      rw [List.isEmpty_eq_false_iff.mpr hblank, if_neg Bool.false_ne_true]
      cases hendpoint : readEndpoint raw with
      | error fault =>
        refine iff_of_false (by rintro ⟨⟩) ?_
        rintro ⟨_, ⟨⟩, hread, -⟩
        rw [hendpoint] at hread
        cases hread
      | ok endpoint =>
        obtain ⟨endpoint', headers, instanceId⟩ := settings
        constructor
        · rintro ⟨⟩
          exact ⟨raw, rfl, hendpoint, rfl, rfl⟩
        · rintro ⟨_, ⟨⟩, hread, hheaders, hinstance⟩
          rw [hendpoint] at hread
          cases hread
          subst hheaders hinstance
          rfl

/-- With an endpoint that can be read, the headers of the settings are those that the text lists, each
as often and where it is listed, and no others. -/
theorem headers_as_listed {environment : String → Option String} {raw list : String} {endpoint : Url}
    (hraw : environment endpointVariable = some raw) (hendpoint : readEndpoint raw = .ok endpoint)
    (hlist : environment headersVariable = some list) (headers : List (String × String)) :
    ofEnvironment environment = .ok (some ⟨endpoint, headers, environment instanceVariable⟩) ↔
      (∀ header ∈ headers, Listable header) ∧
        ∃ entries, list.toList = [','].intercalate entries ∧ Lists headers entries := by
  rw [ofEnvironment_eq_some_iff, ← readHeaders_eq_iff, hlist, Option.getD_some]
  constructor
  · rintro ⟨_, -, -, hheaders, -⟩
    exact hheaders.symm
  · intro hheaders
    exact ⟨raw, hraw, hendpoint, hheaders.symm, rfl⟩

theorem headers_as_listed_among_others :
    let list := " Authorization = Basic dXNlcjpwYXNz== , junk, =x,trace-bin=,,AUTHORIZATION=\t1=2"
    let environment : String → Option String := fun name =>
      if name = endpointVariable then some "http://localhost:4317"
      else if name = headersVariable then some list
      else none
    let endpoint : Url :=
      ⟨"http", some { host := some (.name "localhost"), port := some 4317 }, .rooted [""], none, none⟩
    ofEnvironment environment = .ok (some ⟨endpoint,
      [("authorization", "Basic dXNlcjpwYXNz=="), ("trace-bin", ""), ("authorization", "1=2")],
      environment instanceVariable⟩) := by
  intro list environment endpoint
  have hraw : environment endpointVariable = some "http://localhost:4317" := if_pos rfl
  have hlist : environment headersVariable = some list := by
    decide +kernel
  have hendpoint : readEndpoint "http://localhost:4317" = .ok endpoint := by
    decide +kernel
  have hlistable : ∀ header ∈ [("authorization", "Basic dXNlcjpwYXNz=="), ("trace-bin", ""),
      ("authorization", "1=2")], Listable header := by
    decide +kernel
  have hentries : list.toList = [','].intercalate
      [" Authorization = Basic dXNlcjpwYXNz== ".toList, " junk".toList, " =x".toList,
        "trace-bin=".toList, [], "AUTHORIZATION=\t1=2".toList] := by
    decide +kernel
  refine (headers_as_listed hraw hendpoint hlist _).mpr ⟨hlistable, _, hentries, ?_⟩
  refine .header ⟨[' '], "Authorization".toList, [' '], [' '], [' '], ?_⟩
    (.nameless ?_ (.inl ?_) (.nameless ?_ (.inr ⟨[' '], ['x'], ?_⟩)
      (.header ⟨[], "trace-bin".toList, [], [], [], ?_⟩
        (.nameless ?_ (.inl ?_) (.header ⟨[], "AUTHORIZATION".toList, [], ['\t'], [], ?_⟩ .nil)))))
  all_goals decide +kernel

end LoginGateway.Telemetry.Settings
