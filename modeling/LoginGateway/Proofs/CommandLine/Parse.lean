import LoginGateway.CommandLine.Help
import LoginGateway.Proofs.Text.Cut
import LoginGateway.Proofs.Text.Numeral

namespace LoginGateway.CommandLine

theorem bind_eq_ok {ε α β : Type} {x : Except ε α} {f : α → Except ε β} {b : β}
    (h : x >>= f = .ok b) : ∃ a, x = .ok a ∧ f a = .ok b := by
  cases x with
  | error e => cases h
  | ok a => exact ⟨a, rfl, h⟩

theorem exists_eq_ok {ε α : Type} {x : Except ε α} (h : x.isOk = true) : ∃ a, x = .ok a := by
  cases x with
  | error e => cases h
  | ok a => exact ⟨a, rfl⟩

def Kind.Admits : Kind → Value → Prop
  | text, .text _ => True
  | ranged limit, .number n => n ≤ limit
  | seconds, .number n => n < UInt64.size
  | flag, .flag _ => True
  | count, .number n => n ≤ 5
  | _, _ => False

section Admits

variable {value : Value} {limit : Nat}

theorem Kind.admits_text_iff : text.Admits value ↔ ∃ s, value = .text s := by
  cases value <;> simp [Admits]

theorem Kind.admits_ranged_iff : (ranged limit).Admits value ↔ ∃ n ≤ limit, value = .number n := by
  cases value <;> simp [Admits]

theorem Kind.admits_seconds_iff : seconds.Admits value ↔ ∃ n < UInt64.size, value = .number n := by
  cases value <;> simp [Admits]

theorem Kind.admits_flag_iff : flag.Admits value ↔ ∃ b, value = .flag b := by
  cases value <;> simp [Admits]

end Admits

theorem readVerbosity_le {raw : String} {n : Nat} (h : readVerbosity raw = .ok n) : n ≤ 5 := by
  have hlevel {name : String} {k : Nat} (hk : levelNames.idxOf? name = some k) : k ≤ 5 := by
    obtain ⟨hlt, -⟩ := List.idxOf?_eq_some_iff.mp hk
    exact Nat.le_of_lt hlt
  unfold readVerbosity at h
  dsimp only at h
  split at h
  · split at h
    · next hle =>
      cases h
      exact hle
    · split at h
      · next hk =>
        cases h
        exact hlevel hk
      · cases h
  · split at h
    · next hk =>
      cases h
      exact hlevel hk
    · cases h

theorem Kind.admits_of_read {kind : Kind} {raw : String} {value : Value}
    (h : kind.read raw = .ok value) : kind.Admits value := by
  cases kind with
  | text =>
    cases h
    trivial
  | ranged limit =>
    unfold read at h
    dsimp only at h
    split at h
    · cases h
    · split at h
      · next hrange =>
        cases h
        exact Int.toNat_le.mpr hrange.2
      · cases h
  | seconds =>
    unfold read at h
    dsimp only at h
    split at h
    · cases h
    · next n hread =>
      cases h
      exact Nat.lt_succ_of_le (Text.Numeral.readNat_eq_ok_iff.mp hread).2
  | flag =>
    unfold read at h
    dsimp only at h
    repeat' split at h
    all_goals cases h
    all_goals trivial
  | count =>
    cases hread : readVerbosity raw with
    | error fault =>
      rw [read, hread] at h
      cases h
    | ok n =>
      rw [read, hread] at h
      cases h
      exact readVerbosity_le hread

namespace Given

variable {given given' : Given} {field : Field} {value : Value} {raw : String}

def Typed (given : Given) : Prop := ∀ entry ∈ given, entry.1.kind.Admits entry.2

theorem value?_cons (given : Given) (field other : Field) (value : Value) :
    value? ((field, value) :: given) other = if other = field then some value else given.value? other := by
  rw [value?, List.lookup_cons]
  split
  · next heq => rw [if_pos (eq_of_beq heq)]
  · next hne => rw [if_neg (fun heq => by rw [heq, beq_self_eq_true] at hne; cases hne)]; rfl

theorem mem_of_value? (h : given.value? field = some value) : (field, value) ∈ given := by
  obtain ⟨front, back, rfl, -⟩ := List.lookup_eq_some_iff.mp h
  exact List.mem_append_right _ List.mem_cons_self

theorem Typed.admits (h : given.Typed) (hvalue : given.value? field = some value) :
    field.kind.Admits value := h (field, value) (mem_of_value? hvalue)

theorem value?_of_mem (hnodup : (given.map Prod.fst).Nodup) (h : (field, value) ∈ given) :
    given.value? field = some value := by
  obtain ⟨front, back, rfl⟩ := List.append_of_mem h
  rw [List.map_append, List.nodup_append] at hnodup
  refine List.lookup_eq_some_iff.mpr ⟨front, back, rfl, fun entry hentry => ?_⟩
  exact bne_iff_ne.mpr (hnodup.2.2 _ (List.mem_map_of_mem hentry) _ List.mem_cons_self).symm

theorem read_eq_ok (h : given.read field raw = .ok given') :
    ∃ value, field.kind.read raw = .ok value ∧ given' = (field, value) :: given := by
  unfold read at h
  split at h
  · next value hread =>
    cases h
    exact ⟨value, hread, rfl⟩
  · cases h

theorem Typed.read (h : given.Typed) (hread : given.read field raw = .ok given') : given'.Typed := by
  obtain ⟨value, hvalue, rfl⟩ := read_eq_ok hread
  exact List.forall_mem_cons.mpr ⟨Kind.admits_of_read hvalue, h⟩

end Given

def Argument.text : Argument → String
  | divider => "--"
  | long name none => "--" ++ name
  | long name (some value) => "--" ++ name ++ "=" ++ value
  | cluster chars => String.ofList ('-' :: chars)
  | plain text => text

theorem Argument.text_ofString (s : String) : (ofString s).text = s := by
  have hhyphens : "--".toList = ['-', '-'] := rfl
  have hequals : "=".toList = ['='] := rfl
  unfold ofString
  split
  · rfl
  · next h => exact String.toList_inj.mp (hhyphens.trans h.symm)
  · next cs _ h =>
    split
    · next name value hcut =>
      rw [← String.toList_inj, text, h, (Text.cutAt?_eq_some hcut).1]
      simp only [String.toList_append, String.toList_ofList, hhyphens, hequals, List.append_assoc,
        List.cons_append, List.nil_append]
    · rw [← String.toList_inj, text, h]
      simp only [String.toList_append, String.toList_ofList, hhyphens, List.cons_append, List.nil_append]
  · next cs _ _ h => rw [← String.toList_inj, text, String.toList_ofList, h]
  · rfl

def spelled (field : Field) (raw : String) : String := Argument.text (.long field.name (some raw))

/-- These arguments, one or two, give the setting this text. -/
inductive Gives (field : Field) (raw : String) : List String → Prop
  | attached : Gives field raw [spelled field raw]
  | apart : Gives field raw [Argument.text (.long field.name none), raw]
  | short {c : Char} {front back : List Char} : field.short? = some c →
      Progress.attachedValue back = some raw →
      Gives field raw [Argument.text (.cluster (front ++ c :: back))]
  | shortApart {c : Char} {front : List Char} : field.short? = some c →
      Gives field raw [Argument.text (.cluster (front ++ [c])), raw]

inductive Names (field : Field) : String → Prop
  | long : Names field (Argument.text (.long field.name none))
  | short {c : Char} {front back : List Char} : field.short? = some c →
      Names field (Argument.text (.cluster (front ++ c :: back)))

/-- The arguments say this text of the setting, or name it if it takes none. To name a flag is to say
that it is on. -/
inductive Said (arguments : List String) (field : Field) (raw : String) : Prop
  | value {part : List String} : field.takesValue = true → Gives field raw part → part <:+: arguments →
      Said arguments field raw
  | named {argument : String} : field.takesValue = false → Names field argument → argument ∈ arguments →
      (field.kind = .flag → raw = "true") → Said arguments field raw

theorem Said.append {arguments : List String} {field : Field} {raw : String} (h : Said arguments field raw)
    (more : List String) : Said (arguments ++ more) field raw := by
  cases h with
  | value htakes hgives hpart => exact .value htakes hgives (hpart.trans (List.infix_append' [] _ more))
  | named htakes hnames hmem hflag => exact .named htakes hnames (List.mem_append_left more hmem) hflag

def Awaits (arguments : List String) (field : Field) : Prop :=
  field.takesValue = true ∧
    ∃ front last, arguments = front ++ [last] ∧ ∀ raw, Gives field raw [last, raw]

def Given.From (arguments : List String) (given : Given) : Prop :=
  ∀ entry ∈ given, ∃ raw, entry.1.kind.read raw = .ok entry.2 ∧ Said arguments entry.1 raw

section Given

variable {arguments : List String} {given given' : Given} {field : Field} {raw : String}

theorem Given.From.typed (h : given.From arguments) : given.Typed := by
  intro entry hentry
  obtain ⟨raw, hread, -⟩ := h entry hentry
  exact Kind.admits_of_read hread

theorem Given.From.append (h : given.From arguments) (more : List String) :
    given.From (arguments ++ more) := by
  intro entry hentry
  obtain ⟨raw, hread, hsaid⟩ := h entry hentry
  exact ⟨raw, hread, hsaid.append more⟩

theorem Given.From.read (h : given.From arguments) (hsaid : Said arguments field raw)
    (hread : given.read field raw = .ok given') : given'.From arguments := by
  obtain ⟨value, hvalue, rfl⟩ := Given.read_eq_ok hread
  exact List.forall_mem_cons.mpr ⟨⟨raw, hvalue, hsaid⟩, h⟩

end Given

namespace Progress

variable {arguments : List String} {argument : String} {progress : Progress}
  {result : Except Refusal Progress} {field : Field} {raw : String}

/-- What is given so far was said, and a value that is not read yet, too. An option still waits for its
value unless no option can follow any more. -/
structure From (arguments : List String) (progress : Progress) : Prop where
  given : progress.given.From arguments
  value : ∀ field raw, progress.pending = some (field, some raw) → Said arguments field raw
  awaits : ∀ field, progress.pending = some (field, none) →
    progress.divided = true ∨ Awaits arguments field

def Keeps (arguments : List String) (result : Except Refusal Progress) : Prop :=
  ∀ progress, result = .ok progress → progress.From arguments

/-- What is given when this succeeds was said, and no value is left that is not read yet. -/
def Settles (arguments : List String) (result : Except Refusal Progress) : Prop :=
  ∀ progress, result = .ok progress → progress.given.From arguments ∧ progress.pending = none

theorem Settles.keeps (h : Settles arguments result) : Keeps arguments result := by
  intro progress hresult
  obtain ⟨hgiven, hpending⟩ := h progress hresult
  refine ⟨hgiven, fun field raw hvalue => ?_, fun field hawaits => ?_⟩
  · cases hpending.symm.trans hvalue
  · cases hpending.symm.trans hawaits

theorem Settles.append (h : Settles arguments result) (more : List String) :
    Settles (arguments ++ more) result := fun progress hresult =>
  ⟨(h progress hresult).1.append more, (h progress hresult).2⟩

theorem settles_error (refusal : Refusal) : Settles arguments (.error refusal) := by
  rintro progress ⟨⟩

theorem keeps_error (refusal : Refusal) : Keeps arguments (.error refusal) :=
  (settles_error refusal).keeps

theorem settles_read {given : Given} (h : given.From arguments) (hpending : progress.pending = none)
    (hsaid : Said arguments field raw) : Settles arguments (do
      let given ← given.read field raw
      .ok { progress with given }) := by
  intro progress' hresult
  obtain ⟨given', hread, hlast⟩ := bind_eq_ok hresult
  cases hlast
  exact ⟨h.read hsaid hread, hpending⟩

theorem settles_assign (h : progress.given.From arguments) (hpending : progress.pending = none)
    (hsaid : Said arguments field raw) : Settles arguments (progress.assign field raw) := by
  rw [assign]
  split
  · exact settles_error _
  · exact settles_read h hpending hsaid

theorem settles_resolve (h : progress.From arguments) : Settles arguments progress.resolve := by
  unfold resolve
  split
  · next hpending =>
    rintro progress' ⟨⟩
    exact ⟨h.given, hpending⟩
  · exact settles_error _
  · next field raw hpending =>
    refine settles_assign ?_ rfl (h.value field raw hpending)
    exact h.given

section Options

variable (h : Settles arguments progress.resolve)
include h

theorem settles_switchOn (hnames : Names field argument) (hmem : argument ∈ arguments)
    (htakes : field.takesValue = false) (long : Bool) :
    Settles arguments (progress.switchOn (.setting field) long) := by
  intro progress' hresult
  obtain ⟨settled, hresolve, hresult⟩ := bind_eq_ok hresult
  obtain ⟨hgiven, hpending⟩ := h settled hresolve
  dsimp only at hresult
  split at hresult
  · next hcount =>
    have hothers : Given.From arguments (settled.given.filter fun e => e.1 ≠ field) :=
      fun entry hentry => hgiven entry (List.mem_filter.mp hentry).1
    have hflag (raw : String) : field.kind = .flag → raw = "true" := by
      rw [hcount]
      rintro ⟨⟩
    exact settles_read hothers hpending (.named htakes hnames hmem (hflag _)) progress' hresult
  · exact settles_assign hgiven hpending (.named htakes hnames hmem fun _ => rfl) progress' hresult

theorem keeps_option {attached : Option String}
    (hattached : ∀ raw, attached = some raw → Said arguments field raw)
    (hawaits : attached = none → Awaits arguments field) :
    Keeps arguments (progress.option field attached) := by
  intro progress' hresult
  obtain ⟨settled, hresolve, hresult⟩ := bind_eq_ok hresult
  obtain ⟨hgiven, hpending⟩ := h settled hresolve
  cases attached with
  | some raw => exact (settles_assign hgiven hpending (hattached raw rfl)).keeps progress' hresult
  | none =>
    cases hresult
    refine ⟨hgiven, ?_, ?_⟩
    · rintro field' raw ⟨⟩
    · rintro field' ⟨⟩
      exact .inr (hawaits rfl)

end Options

theorem settles_of_not_setting {switch : Switch} (hswitch : ∀ field, switch ≠ .setting field)
    (long : Bool) : Settles arguments (progress.switchOn switch long) := by
  intro progress' hresult
  obtain ⟨settled, -, hresult⟩ := bind_eq_ok hresult
  cases switch with
  | setting field => exact absurd rfl (hswitch field)
  | help => cases hresult
  | version => cases hresult

theorem keeps_longOption (h : progress.From arguments) (name : String) (attached : Option String) :
    Keeps (arguments ++ [Argument.text (.long name attached)]) (progress.longOption name attached) := by
  have hsettles := (settles_resolve h).append [Argument.text (.long name attached)]
  unfold longOption
  split
  · exact keeps_error _
  · next switch hswitch =>
    have hfound := List.find?_some hswitch
    have hlong : switch.long = name := eq_of_beq hfound
    split
    · next field =>
      subst hlong
      split
      · next htakes =>
        refine keeps_option hsettles ?_ ?_
        · rintro raw rfl
          exact .value htakes .attached (List.suffix_append _ _).isInfix
        · rintro rfl
          exact ⟨htakes, arguments, _, rfl, fun raw => .apart⟩
      · next htakes =>
        split
        · exact keeps_error _
        · exact (settles_switchOn hsettles .long (List.mem_append_right _ List.mem_cons_self)
            (Bool.eq_false_iff.mpr htakes) true).keeps
    · exact keeps_error _
    · next hnot => exact (settles_of_not_setting hnot true).keeps

/-- The options of a cluster from some place on, while those before it have been read. -/
theorem keeps_shortOptions {base : List String} {front chars : List Char}
    (harguments : arguments = base ++ [Argument.text (.cluster (front ++ chars))])
    (h : Settles arguments progress.resolve) (hlast : chars = [] → progress.From arguments) :
    Keeps arguments (progress.shortOptions chars) := by
  induction chars generalizing progress front with
  | nil =>
    rintro progress' ⟨⟩
    exact hlast rfl
  | cons c cs ih =>
    have hargument : Argument.text (.cluster (front ++ c :: cs)) ∈ arguments :=
      harguments ▸ List.mem_append_right _ List.mem_cons_self
    have hnext : arguments = base ++ [Argument.text (.cluster (front ++ [c] ++ cs))] := by
      rw [List.append_assoc]
      exact harguments
    have hrest {switch : Switch} (hread : Settles arguments (progress.switchOn switch false)) :
        Keeps arguments (do
          let progress ← progress.switchOn switch false
          shortOptions progress cs) := by
      intro progress' hresult
      obtain ⟨read, hfirst, hresult⟩ := bind_eq_ok hresult
      have hfrom := hread.keeps read hfirst
      exact ih hnext (settles_resolve hfrom) (fun _ => hfrom) progress' hresult
    unfold shortOptions
    split
    · exact keeps_error _
    · next field hswitch =>
      have hfound := List.find?_some hswitch
      have hshort : field.short? = some c := eq_of_beq hfound
      split
      · next htakes =>
        refine keeps_option h ?_ ?_
        · intro raw hraw
          have hpart : [Argument.text (.cluster (front ++ c :: cs))] <:+: arguments :=
            harguments ▸ (List.suffix_append _ _).isInfix
          exact .value htakes (.short hshort hraw) hpart
        · intro hnone
          obtain rfl : cs = [] := by
            unfold attachedValue at hnone
            split at hnone <;> first | rfl | cases hnone
          exact ⟨htakes, base, _, harguments, fun raw => .shortApart hshort⟩
      · next htakes =>
        exact hrest (settles_switchOn h (.short hshort) hargument (Bool.eq_false_iff.mpr htakes) false)
    · next switch hnot hswitch => exact hrest (settles_of_not_setting hnot false)

theorem keeps_step (h : progress.From arguments) (argument : String) :
    Keeps (arguments ++ [argument]) (progress.step argument) := by
  have htext := Argument.text_ofString argument
  unfold step
  split
  · exact keeps_error _
  · next hdivided =>
    split
    · rintro progress' ⟨⟩
      exact ⟨h.given.append _, fun field raw hvalue => (h.value field raw hvalue).append _,
        fun _ _ => .inl rfl⟩
    · next name attached hform =>
      rw [hform] at htext
      rw [← htext]
      exact keeps_longOption h name attached
    · next chars hform =>
      have hne : chars ≠ [] := by
        rintro rfl
        rw [hform] at htext
        rw [← htext] at hform
        simp [Argument.ofString, Argument.text] at hform
      rw [hform] at htext
      have harguments :
          arguments ++ [argument] = arguments ++ [Argument.text (.cluster ([] ++ chars))] := by
        rw [List.nil_append, htext]
      exact keeps_shortOptions harguments ((settles_resolve h).append _) fun hempty => absurd hempty hne
    · next text hform =>
      rw [hform] at htext
      obtain rfl : text = argument := htext
      split
      · next field hpending =>
        rintro progress' ⟨⟩
        refine ⟨h.given.append _, ?_, ?_⟩
        · rintro field' raw ⟨⟩
          obtain hdivided' | ⟨htakes, front, last, rfl, hgives⟩ := h.awaits field hpending
          · exact absurd hdivided' hdivided
          · refine .value htakes (hgives text) ?_
            rw [List.append_assoc]
            exact (List.suffix_append _ _).isInfix
        · rintro field' ⟨⟩
      · exact keeps_error _

theorem keeps_steps (h : progress.From arguments) (more : List String) :
    Keeps (arguments ++ more) (more.foldlM step progress) := by
  induction more generalizing progress arguments with
  | nil =>
    rintro progress' ⟨⟩
    rw [List.append_nil]
    exact h
  | cons argument more ih =>
    intro progress' hresult
    rw [List.foldlM_cons] at hresult
    obtain ⟨next, hstep, hresult⟩ := bind_eq_ok hresult
    have hrest := ih (keeps_step h argument next hstep) progress' hresult
    rw [List.append_assoc] at hrest
    exact hrest

end Progress

def Environment.value? (environment : Environment) (field : Field) : Option Value :=
  (environment field.envName).bind fun raw => (field.kind.read raw).toOption

def Environment.empty : Environment := fun _ => none

section Variables

variable {environment : Environment} {given given' : Given} {field : Field}

theorem mem_all (field : Field) : field ∈ Field.all := by
  cases field <;> decide

theorem value?_fromVariable (h : given.fromVariable environment field = .ok given') (other : Field) :
    given'.value? other =
      if other = field then (given.value? field).or (environment.value? field)
      else given.value? other := by
  unfold Given.fromVariable at h
  split at h
  · next raw hnone hraw =>
    obtain ⟨value, hread, rfl⟩ := Given.read_eq_ok h
    rw [Given.value?_cons, hnone, Option.none_or, Environment.value?, hraw, Option.bind_some, hread]
    rfl
  · next hsome =>
    cases h
    split
    · next heq =>
      subst heq
      cases hvalue : given.value? other with
      | some value => rfl
      | none =>
        rw [Option.none_or, Environment.value?]
        cases hraw : environment other.envName with
        | none => rfl
        | some raw => exact absurd hraw (hsome raw hvalue)
    · rfl

theorem typed_fromVariable (h : given.fromVariable environment field = .ok given') (htyped : given.Typed) :
    given'.Typed := by
  unfold Given.fromVariable at h
  split at h
  · exact htyped.read h
  · cases h
    exact htyped

theorem foldlM_fromVariable {fields : List Field} (htyped : given.Typed)
    (h : fields.foldlM (Given.fromVariable environment) given = .ok given') :
    given'.Typed ∧ ∀ field, given'.value? field =
      if field ∈ fields then (given.value? field).or (environment.value? field)
      else given.value? field := by
  induction fields generalizing given with
  | nil =>
    cases h
    exact ⟨htyped, fun field => (if_neg List.not_mem_nil).symm⟩
  | cons first fields ih =>
    rw [List.foldlM_cons] at h
    obtain ⟨given₁, hfirst, hrest⟩ := bind_eq_ok h
    obtain ⟨htyped', hvalue⟩ := ih (typed_fromVariable hfirst htyped) hrest
    refine ⟨htyped', fun field => ?_⟩
    rw [hvalue field, value?_fromVariable hfirst field]
    by_cases heq : field = first
    · subst heq
      rw [if_pos rfl, if_pos List.mem_cons_self, Option.or_assoc, Option.or_self, ite_self]
    · rw [if_neg heq]
      simp only [List.mem_cons, heq, false_or]

theorem foldlM_fromVariable_empty (fields : List Field) :
    fields.foldlM (Given.fromVariable Environment.empty) given = .ok given := by
  induction fields with
  | nil => rfl
  | cons field fields ih =>
    have hfirst : given.fromVariable Environment.empty field = .ok given := by
      unfold Given.fromVariable
      cases given.value? field <;> rfl
    rw [List.foldlM_cons, hfirst]
    exact ih

end Variables

/-- What the command line says of a setting. -/
def supplied? (arguments : List String) (field : Field) : Option Value :=
  (parse arguments Environment.empty).toOption.bind (·.value? field)

section Spelled

variable {progress : Progress} {field : Field} {raw : String} {value : Value}

theorem ofString_spelled (field : Field) (raw : String) :
    Argument.ofString (spelled field raw) = .long field.name (some raw) := by
  have htext : (spelled field raw).toList = '-' :: '-' :: (field.name.toList ++ '=' :: raw.toList) := by
    have hhyphens : "--".toList = ['-', '-'] := rfl
    have hequals : "=".toList = ['='] := rfl
    rw [spelled, Argument.text, String.toList_append, String.toList_append, String.toList_append,
      hhyphens, hequals, List.append_assoc, List.append_assoc]
    rfl
  have hname : '=' ∉ field.name.toList := by
    cases field <;> decide
  have hcut := Text.cutAt?_append (b := raw.toList) hname
  obtain ⟨c, cs, hcons⟩ : ∃ c cs, field.name.toList ++ '=' :: raw.toList = c :: cs :=
    List.exists_cons_of_ne_nil (List.append_ne_nil_of_right_ne_nil _ (List.cons_ne_nil _ _))
  rw [hcons] at hcut htext
  simp only [Argument.ofString, htext, hcut, String.ofList_toList]

theorem step_spelled (hpending : progress.pending = none) (hdivided : progress.divided = false)
    (hnew : progress.given.value? field = none) (htakes : field.takesValue = true)
    (hread : field.kind.read raw = .ok value) :
    progress.step (spelled field raw) =
      .ok { progress with given := (field, value) :: progress.given } := by
  have hswitch : Switch.ofLong? field.name = some (.setting field) := by
    cases field <;> decide +kernel
  have hresolve : progress.resolve = .ok progress := by
    rw [Progress.resolve, hpending]
  have hassign : progress.assign field raw =
      .ok { progress with given := (field, value) :: progress.given } := by
    rw [Progress.assign, hnew, Given.read, hread]
    rfl
  rw [Progress.step, if_neg (ne_true_of_eq_false hdivided), ofString_spelled]
  dsimp only
  rw [Progress.longOption, hswitch]
  dsimp only
  rw [if_pos htakes, Progress.option, hresolve]
  exact hassign

theorem steps_spelled {options : List (Field × String × Value)} (hpending : progress.pending = none)
    (hdivided : progress.divided = false) (hnodup : (options.map Prod.fst).Nodup)
    (hnew : ∀ o ∈ options, progress.given.value? o.1 = none)
    (hread : ∀ o ∈ options, o.1.takesValue = true ∧ o.1.kind.read o.2.1 = .ok o.2.2) :
    (options.map fun o => spelled o.1 o.2.1).foldlM Progress.step progress =
      .ok { progress with given := (options.map fun o => (o.1, o.2.2)).reverse ++ progress.given } := by
  induction options generalizing progress with
  | nil => rfl
  | cons o options ih =>
    obtain ⟨hnewFirst, hnewRest⟩ := List.forall_mem_cons.mp hnew
    obtain ⟨⟨htakes, hfirst⟩, hrest⟩ := List.forall_mem_cons.mp hread
    rw [List.map_cons, List.nodup_cons] at hnodup
    rw [List.map_cons, List.foldlM_cons, step_spelled hpending hdivided hnewFirst htakes hfirst,
      List.map_cons, List.reverse_cons, List.append_assoc]
    refine @ih { progress with given := (o.1, o.2.2) :: progress.given } hpending hdivided hnodup.2
      ?_ hrest
    intro other hother
    have hne : other.1 ≠ o.1 := fun heq => hnodup.1 (heq ▸ List.mem_map_of_mem hother)
    rw [Given.value?_cons, if_neg hne]
    exact hnewRest other hother

/-- Arguments of this form, each setting at most once, give every setting what its own text is read as,
and no other setting anything. -/
theorem supplied?_spelled {options : List (Field × String × Value)}
    (hnodup : (options.map Prod.fst).Nodup)
    (hread : ∀ o ∈ options, o.1.takesValue = true ∧ o.1.kind.read o.2.1 = .ok o.2.2) :
    let arguments := options.map fun o => spelled o.1 o.2.1
    (∀ o ∈ options, supplied? arguments o.1 = some o.2.2) ∧
      ∀ field ∉ options.map Prod.fst, supplied? arguments field = none := by
  intro arguments
  let given : Given := (options.map fun o => (o.1, o.2.2)).reverse
  have hkeys : given.map Prod.fst = (options.map Prod.fst).reverse := by
    rw [List.map_reverse, List.map_map]
    rfl
  have hsupplied (field : Field) : supplied? arguments field = given.value? field := by
    have hsteps : arguments.foldlM Progress.step {} = .ok { given := given ++ [] } :=
      steps_spelled rfl rfl hnodup (fun _ _ => rfl) hread
    have hparse : parse arguments Environment.empty = .ok given := by
      rw [parse, hsteps, List.append_nil]
      exact foldlM_fromVariable_empty Field.all
    rw [supplied?, hparse]
    rfl
  constructor
  · intro o ho
    rw [hsupplied]
    refine Given.value?_of_mem ?_ (List.mem_reverse.mpr (List.mem_map_of_mem ho))
    rw [hkeys]
    exact List.pairwise_reverse.mpr (hnodup.imp fun hne => hne.symm)
  · intro field hfield
    rw [hsupplied]
    refine List.lookup_eq_none_iff.mpr fun entry hentry => bne_iff_ne.mpr ?_
    rintro rfl
    have hmem := List.mem_map_of_mem (f := Prod.fst) hentry
    rw [hkeys] at hmem
    exact hfield (List.mem_reverse.mp hmem)

end Spelled

def Field.fallback? : Field → Option Value
  | port => some (.number 8080)
  | sessionMaxAge => some (.number 604800)
  | cookieSecure => some (.flag false)
  | loginMaxAttempts => some (.number 5)
  | loginWindow => some (.number 900)
  | loginSweep => some (.number 300)
  | backendPathPrefix => some (.text "/api/fortress")
  | backendSecretHeader => some (.text "x-fortress-secret")
  | backendTimeout => some (.number 30)
  | verbosity => some (.number 0)
  | password | sessionSecret | backendUrl | backendSecret => none

/-- The default that the help tells of, apart from the summary or in it. -/
def Field.documented? (field : Field) : Option String :=
  field.default?.or <| do
    let (_, rest) ← Text.cutAt? '[' field.summary.toList
    let rest ← Text.dropFront? "default: ".toList rest
    let (text, _) ← Text.cutAt? ']' rest
    some (String.ofList text)

/-- The help tells of every default but those of what counts or is off. -/
theorem Field.documented?_eq (field : Field) :
    field.documented?.bind (fun raw => (field.kind.read raw).toOption) =
      field.fallback?.filter (fun value => value ≠ .flag false ∧ value ≠ .number 0) := by
  cases field <;> decide +kernel

/-- What a setting is: what the command line says, or else its variable, or else the default. -/
def resolved (arguments : List String) (environment : Environment) (field : Field) : Option Value :=
  (supplied? arguments field).or ((environment.value? field).or field.fallback?)

theorem resolved_spelled {arguments : List String} {environment : Environment}
    {options : List (Field × String × Value)}
    (harguments : arguments = options.map fun o => spelled o.1 o.2.1)
    (hnodup : (options.map Prod.fst).Nodup)
    (hread : ∀ o ∈ options, o.1.takesValue = true ∧ o.1.kind.read o.2.1 = .ok o.2.2) :
    (∀ o ∈ options, resolved arguments environment o.1 = some o.2.2) ∧
      ∀ field ∉ options.map Prod.fst,
        resolved arguments environment field = (environment.value? field).or field.fallback? := by
  subst harguments
  obtain ⟨hgiven, hothers⟩ := supplied?_spelled hnodup hread
  constructor
  · intro o ho
    rw [resolved, hgiven o ho, Option.some_or]
  · intro field hfield
    rw [resolved, hothers field hfield, Option.none_or]

def Given.orFallback (given : Given) (field : Field) : Option Value :=
  (given.value? field).or field.fallback?

section Resolved

variable {arguments : List String} {environment : Environment} {given : Given}

theorem parse_eq_ok (h : parse arguments environment = .ok given) :
    ∃ supplied, parse arguments Environment.empty = .ok supplied ∧ supplied.From arguments ∧
      Field.all.foldlM (Given.fromVariable environment) supplied = .ok given := by
  obtain ⟨progress, hsteps, h⟩ := bind_eq_ok h
  obtain ⟨progress', hresolve, h⟩ := bind_eq_ok h
  have hempty : ({} : Progress).From [] := by
    refine ⟨List.forall_mem_nil _, ?_, ?_⟩
    · rintro field raw ⟨⟩
    · rintro field ⟨⟩
  have hfrom : progress.From arguments := Progress.keeps_steps hempty arguments progress hsteps
  refine ⟨progress'.given, ?_, (Progress.settles_resolve hfrom progress' hresolve).1, h⟩
  rw [parse, hsteps]
  show (progress.resolve >>= _) = _
  rw [hresolve]
  exact foldlM_fromVariable_empty Field.all

theorem said_of_supplied? {field : Field} {value : Value} (h : supplied? arguments field = some value) :
    ∃ raw, field.kind.read raw = .ok value ∧ Said arguments field raw := by
  unfold supplied? at h
  cases hparse : parse arguments Environment.empty with
  | error refusal =>
    rw [hparse] at h
    cases h
  | ok supplied =>
    rw [hparse] at h
    obtain ⟨supplied', hsupplied', hfrom, -⟩ := parse_eq_ok hparse
    cases hparse.symm.trans hsupplied'
    exact hfrom _ (Given.mem_of_value? h)

/-- An accepted setting has a value of its kind: the one on the command line, or else the one of its
variable, or else the default. -/
theorem orFallback_parse (h : parse arguments environment = .ok given) :
    given.Typed ∧ given.orFallback = resolved arguments environment := by
  obtain ⟨supplied, hsupplied, hfrom, hfold⟩ := parse_eq_ok h
  obtain ⟨htyped, hvalue⟩ := foldlM_fromVariable hfrom.typed hfold
  refine ⟨htyped, funext fun field => ?_⟩
  rw [Given.orFallback, hvalue field, if_pos (mem_all field), resolved, supplied?, hsupplied,
    Option.or_assoc]
  rfl

end Resolved

end LoginGateway.CommandLine
