import LoginGateway.Login.Body
import LoginGateway.Proofs.Login.Value

namespace LoginGateway.Login.Body

open Lexeme Value

namespace Reader

def answer? (reader : Reader) (lexemes : List Lexeme) : Option String := do
  let reader ← lexemes.foldlM step reader
  if reader.expect = .nothing then reader.password else none

theorem answer?_cons (reader : Reader) (lexeme : Lexeme) (lexemes : List Lexeme) :
    reader.answer? (lexeme :: lexemes) = (reader.step lexeme).bind (·.answer? lexemes) := by
  rw [answer?, List.foldlM_cons, bind_assoc]
  rfl

def closed (frames : List Frame) (password : Option String) : Reader :=
  ⟨frames, if frames.isEmpty then .nothing else .commaOrClose, password⟩

section Reading

variable {frames : List Frame} {password : Option String} {lexemes : List Lexeme}

theorem closed_of_ne (h : frames ≠ []) (password : Option String) :
    closed frames password = ⟨frames, .commaOrClose, password⟩ := by
  rw [closed, List.isEmpty_eq_false_iff.mpr h]
  rfl

theorem answer?_closed_nil :
    (closed [] password).answer? lexemes = if lexemes = [] then password else none := by
  cases lexemes with
  | nil => rfl
  | cons lexeme lexemes =>
    rw [answer?_cons]
    rfl

theorem answer?_valueOrClose (v : Value) (frames : List Frame) (password : Option String)
    (later : List Lexeme) :
    answer? ⟨frames, .valueOrClose, password⟩ (v.lexemes ++ later) =
      answer? ⟨frames, .value, password⟩ (v.lexemes ++ later) := by
  obtain _ | _ | ⟨_ | _⟩ | ⟨_ | ⟨⟨_, _⟩, _⟩⟩ := v <;> rfl

/-- The names of members further in are not decoded. -/
theorem answer?_name (h : frames ≠ []) (raw : List UInt8) (lexemes : List Lexeme) :
    answer? ⟨.object :: frames, .key, password⟩ (.string raw :: .colon :: lexemes) =
      answer? ⟨.object :: frames, .value, password⟩ lexemes := by
  have hinner : 1 < (Frame.object :: frames).length := Nat.succ_lt_succ (List.length_pos_iff.mpr h)
  have hkey (reader : Reader) (hframes : reader.frames = .object :: frames) :
      reader.key raw = some { reader with expect := .colon false } := by
    rw [key, hframes, if_pos hinner]
  have hstep : step ⟨.object :: frames, .key, password⟩ (.string raw) =
      some ⟨.object :: frames, .colon false, password⟩ := hkey _ rfl
  rw [answer?_cons, hstep]
  rfl

mutual

/-- Values within brackets are skipped. -/
theorem answer?_value (password : Option String) :
    ∀ (v : Value) {frames : List Frame} (later : List Lexeme), frames ≠ [] →
      answer? ⟨frames, .value, password⟩ (v.lexemes ++ later) =
        answer? ⟨frames, .commaOrClose, password⟩ later
  | .scalar, _, _, _ => rfl
  | .string raw, _, _, _ => rfl
  | .list [], frames, later, h => by
    rw [← closed_of_ne h]
    rfl
  | .list (v :: vs), frames, later, h => by
    have hopen : answer? ⟨frames, .value, password⟩ ((list (v :: vs)).lexemes ++ later) =
        answer? ⟨.list :: frames, .valueOrClose, password⟩
          (v.lexemes ++ (furtherElements vs ++ .listClose :: later)) := by
      rw [lexemes_list_append]
      rfl
    rw [hopen, answer?_valueOrClose, answer?_value password v _ (List.cons_ne_nil _ _),
      answer?_furtherElements password vs, closed_of_ne h]
  | .object [], frames, later, h => by
    rw [← closed_of_ne h]
    rfl
  | .object ((name, v) :: ms), frames, later, h => by
    have hopen : answer? ⟨frames, .value, password⟩ ((object ((name, v) :: ms)).lexemes ++ later) =
        answer? ⟨.object :: frames, .key, password⟩ (.string name :: .colon ::
          (v.lexemes ++ (furtherMembers ms ++ .objectClose :: later))) := by
      rw [lexemes_object_append]
      rfl
    rw [hopen, answer?_name h, answer?_value password v _ (List.cons_ne_nil _ _),
      answer?_furtherMembers password ms _ h, closed_of_ne h]

theorem answer?_furtherElements (password : Option String) :
    ∀ (vs : List Value) (frames : List Frame) (later : List Lexeme),
      answer? ⟨.list :: frames, .commaOrClose, password⟩ (furtherElements vs ++ .listClose :: later) =
        answer? (closed frames password) later
  | [], _, _ => rfl
  | v :: vs, frames, later => by
    have hcomma : answer? ⟨.list :: frames, .commaOrClose, password⟩
        (furtherElements (v :: vs) ++ .listClose :: later) =
          answer? ⟨.list :: frames, .value, password⟩
            (v.lexemes ++ (furtherElements vs ++ .listClose :: later)) := by
      rw [furtherElements_cons_append]
      rfl
    rw [hcomma, answer?_value password v _ (List.cons_ne_nil _ _), answer?_furtherElements password vs]

theorem answer?_furtherMembers (password : Option String) :
    ∀ (ms : List (List UInt8 × Value)) {frames : List Frame} (later : List Lexeme), frames ≠ [] →
      answer? ⟨.object :: frames, .commaOrClose, password⟩ (furtherMembers ms ++ .objectClose :: later) =
        answer? (closed frames password) later
  | [], _, _, _ => rfl
  | (name, v) :: ms, frames, later, h => by
    have hcomma : answer? ⟨.object :: frames, .commaOrClose, password⟩
        (furtherMembers ((name, v) :: ms) ++ .objectClose :: later) =
          answer? ⟨.object :: frames, .key, password⟩
            (.string name :: .colon :: (v.lexemes ++ (furtherMembers ms ++ .objectClose :: later))) := by
      rw [furtherMembers_cons_append]
      rfl
    rw [hcomma, answer?_name h, answer?_value password v _ (List.cons_ne_nil _ _),
      answer?_furtherMembers password ms _ h]

end

end Reading

section Shapes

variable {lexemes : List Lexeme} {password : String}

theorem exists_step {reader : Reader} (h : reader.answer? lexemes = some password)
    (hmore : reader.expect ≠ .nothing) :
    ∃ lexeme later next, lexemes = lexeme :: later ∧ reader.step lexeme = some next ∧
      next.answer? later = some password := by
  cases lexemes with
  | nil =>
    have hnone : reader.answer? [] = none := if_neg hmore
    rw [hnone] at h
    cases h
  | cons lexeme later =>
    rw [answer?_cons, Option.bind_eq_some_iff] at h
    obtain ⟨next, hstep, hnext⟩ := h
    exact ⟨lexeme, later, next, rfl, hstep, hnext⟩

/-- Lexemes from which a password is read are well-formed as far as they go on with what is open. -/
structure Reads (lexemes : List Lexeme) : Prop where
  value : ∀ frames given password, frames ≠ [] → answer? ⟨frames, .value, given⟩ lexemes = some password →
    ∃ (v : Value) (later : List Lexeme), lexemes = v.lexemes ++ later ∧
      ∃ given, answer? ⟨frames, .commaOrClose, given⟩ later = some password
  elements : ∀ frames given password,
    answer? ⟨.list :: frames, .commaOrClose, given⟩ lexemes = some password →
    ∃ vs later, lexemes = furtherElements vs ++ .listClose :: later ∧
      ∃ given, answer? (closed frames given) later = some password
  members : ∀ frames given password,
    answer? ⟨.object :: frames, .commaOrClose, given⟩ lexemes = some password →
    ∃ ms later, lexemes = furtherMembers ms ++ .objectClose :: later ∧
      ∃ given, answer? (closed frames given) later = some password

theorem expect_of_key {reader next : Reader} {raw : List UInt8} (h : reader.key raw = some next) :
    ∃ isPassword, next = { reader with expect := .colon isPassword } := by
  rw [key] at h
  split at h
  · exact ⟨false, (Option.some.inj h).symm⟩
  · obtain ⟨name, -, hname⟩ := Option.bind_eq_some_iff.mp h
    split at hname
    · split at hname
      · cases hname
      · exact ⟨true, (Option.some.inj hname).symm⟩
    · exact ⟨false, (Option.some.inj hname).symm⟩

variable (ih : ∀ shorter : List Lexeme, shorter.length < lexemes.length → Reads shorter)
include ih

theorem reads_member {frames : List Frame} {given : Option String}
    (h : answer? ⟨.object :: frames, .key, given⟩ lexemes = some password) :
    ∃ (name : List UInt8) (v : Value) (later : List Lexeme),
      lexemes = .string name :: .colon :: (v.lexemes ++ later) ∧
        ∃ given, answer? ⟨.object :: frames, .commaOrClose, given⟩ later = some password := by
  obtain ⟨lexeme, later, next, rfl, hstep, hlater⟩ := exists_step h Expect.noConfusion
  cases lexeme with
  | string name =>
    obtain ⟨isPassword, rfl⟩ := expect_of_key hstep
    obtain ⟨lexeme, later, next, rfl, hstep, hlater⟩ := exists_step hlater Expect.noConfusion
    cases lexeme with
    | colon =>
      obtain rfl := Option.some.inj hstep
      cases isPassword with
      | false =>
        have hshorter : later.length < (Lexeme.string name :: .colon :: later).length := by
          simp only [List.length_cons]
          omega
        obtain ⟨v, more, rfl, hmore⟩ :=
          (ih later hshorter).value _ given password (List.cons_ne_nil _ _) hlater
        exact ⟨name, v, more, rfl, hmore⟩
      | true =>
        obtain ⟨lexeme, more, next, rfl, hstep, hmore⟩ := exists_step hlater Expect.noConfusion
        cases lexeme with
        | string raw =>
          obtain ⟨text, -, hnext⟩ := Option.bind_eq_some_iff.mp hstep
          obtain rfl := Option.some.inj hnext
          exact ⟨name, .string raw, more, rfl, some text, hmore⟩
        | _ => cases hstep
    | _ => cases hstep
  | _ => cases hstep

theorem reads_members {frames : List Frame} {given : Option String}
    (h : answer? ⟨.object :: frames, .commaOrClose, given⟩ lexemes = some password) :
    ∃ ms later, lexemes = furtherMembers ms ++ .objectClose :: later ∧
      ∃ given, answer? (closed frames given) later = some password := by
  obtain ⟨lexeme, later, next, rfl, hstep, hlater⟩ := exists_step h Expect.noConfusion
  cases lexeme with
  | comma =>
    obtain rfl := Option.some.inj hstep
    have hshorter : later.length < (Lexeme.comma :: later).length := Nat.lt_succ_self _
    obtain ⟨name, v, more, rfl, given, hmore⟩ :=
      reads_member (fun shorter h => ih shorter (Nat.lt_trans h hshorter)) hlater
    have hmuch : more.length < (Lexeme.comma :: .string name :: .colon :: (v.lexemes ++ more)).length := by
      simp only [List.length_cons, List.length_append]
      omega
    obtain ⟨ms, rest, rfl, hrest⟩ := (ih more hmuch).members frames given password hmore
    exact ⟨(name, v) :: ms, rest, furtherMembers_cons_append.symm, hrest⟩
  | objectClose =>
    obtain rfl := Option.some.inj hstep
    exact ⟨[], later, rfl, given, hlater⟩
  | _ => cases hstep

theorem reads_elements {frames : List Frame} {given : Option String}
    (h : answer? ⟨.list :: frames, .commaOrClose, given⟩ lexemes = some password) :
    ∃ vs later, lexemes = furtherElements vs ++ .listClose :: later ∧
      ∃ given, answer? (closed frames given) later = some password := by
  obtain ⟨lexeme, later, next, rfl, hstep, hlater⟩ := exists_step h Expect.noConfusion
  cases lexeme with
  | comma =>
    obtain rfl := Option.some.inj hstep
    obtain ⟨v, more, rfl, given, hmore⟩ :=
      (ih later (Nat.lt_succ_self _)).value _ given password (List.cons_ne_nil _ _) hlater
    have hmuch : more.length < (Lexeme.comma :: (v.lexemes ++ more)).length := by
      simp only [List.length_cons, List.length_append]
      omega
    obtain ⟨vs, rest, rfl, hrest⟩ := (ih more hmuch).elements frames given password hmore
    exact ⟨v :: vs, rest, furtherElements_cons_append.symm, hrest⟩
  | listClose =>
    obtain rfl := Option.some.inj hstep
    exact ⟨[], later, rfl, given, hlater⟩
  | _ => cases hstep

theorem reads_object {frames : List Frame} {given : Option String}
    (h : answer? ⟨.object :: frames, .keyOrClose, given⟩ lexemes = some password) :
    ∃ ms later, Lexeme.objectOpen :: lexemes = (object ms).lexemes ++ later ∧
      ∃ given, answer? (closed frames given) later = some password := by
  obtain ⟨lexeme, later, next, rfl, hstep, hlater⟩ := exists_step h Expect.noConfusion
  cases lexeme with
  | objectClose =>
    obtain rfl := Option.some.inj hstep
    exact ⟨[], later, rfl, given, hlater⟩
  | string raw =>
    have hkey : answer? ⟨.object :: frames, .key, given⟩ (.string raw :: later) = some password := h
    obtain ⟨name, v, more, heq, given, hmore⟩ := reads_member ih hkey
    have hmuch : more.length < (Lexeme.string raw :: later).length := by
      simp only [heq, List.length_cons, List.length_append]
      omega
    obtain ⟨ms, rest, rfl, hrest⟩ := (ih more hmuch).members frames given password hmore
    refine ⟨(name, v) :: ms, rest, ?_, hrest⟩
    rw [heq, lexemes_object_append]
  | _ => cases hstep

theorem reads_list (hvalue : Reads lexemes) {frames : List Frame} {given : Option String}
    (h : answer? ⟨.list :: frames, .valueOrClose, given⟩ lexemes = some password) :
    ∃ vs later, Lexeme.listOpen :: lexemes = (list vs).lexemes ++ later ∧
      ∃ given, answer? (closed frames given) later = some password := by
  obtain ⟨lexeme, later, next, rfl, hstep, hlater⟩ := exists_step h Expect.noConfusion
  by_cases hclose : lexeme = .listClose
  · subst hclose
    obtain rfl := Option.some.inj hstep
    exact ⟨[], later, rfl, given, hlater⟩
  · -- only the closing bracket tells the two states apart
    have hvalues : answer? ⟨.list :: frames, .value, given⟩ (lexeme :: later) = some password := by
      rw [← h, answer?_cons, answer?_cons]
      cases lexeme with
      | listClose => exact absurd rfl hclose
      | _ => rfl
    obtain ⟨v, more, heq, given, hmore⟩ := hvalue.value _ given password (List.cons_ne_nil _ _) hvalues
    have hmuch : more.length < (lexeme :: later).length := by
      rw [heq, List.length_append]
      exact Nat.lt_add_of_pos_left v.length_lexemes_pos
    obtain ⟨vs, rest, rfl, hrest⟩ := (ih more hmuch).elements frames given password hmore
    refine ⟨v :: vs, rest, ?_, hrest⟩
    rw [heq, lexemes_list_append]

theorem reads_value {frames : List Frame} (hframes : frames ≠ []) {given : Option String}
    (h : answer? ⟨frames, .value, given⟩ lexemes = some password) :
    ∃ (v : Value) (later : List Lexeme), lexemes = v.lexemes ++ later ∧
      ∃ given, answer? ⟨frames, .commaOrClose, given⟩ later = some password := by
  obtain ⟨lexeme, later, next, rfl, hstep, hlater⟩ := exists_step h Expect.noConfusion
  have hshorter : later.length < (lexeme :: later).length := Nat.lt_succ_self _
  have ih' (shorter : List Lexeme) (h : shorter.length < later.length) : Reads shorter :=
    ih shorter (Nat.lt_trans h hshorter)
  cases lexeme with
  | scalar =>
    obtain rfl := Option.some.inj hstep
    exact ⟨.scalar, later, rfl, given, hlater⟩
  | string raw =>
    obtain rfl := Option.some.inj hstep
    exact ⟨.string raw, later, rfl, given, hlater⟩
  | objectOpen =>
    obtain rfl := Option.some.inj hstep
    obtain ⟨ms, rest, heq, given, hrest⟩ := reads_object ih' hlater
    rw [closed_of_ne hframes] at hrest
    exact ⟨.object ms, rest, heq, given, hrest⟩
  | listOpen =>
    obtain rfl := Option.some.inj hstep
    obtain ⟨vs, rest, heq, given, hrest⟩ := reads_list ih' (ih later hshorter) hlater
    rw [closed_of_ne hframes] at hrest
    exact ⟨.list vs, rest, heq, given, hrest⟩
  | _ => cases hstep

omit ih in
theorem reads (lexemes : List Lexeme) : Reads lexemes := by
  induction hlength : lexemes.length using Nat.strongRecOn generalizing lexemes with
  | ind n ih =>
    subst hlength
    have ih' (shorter : List Lexeme) (h : shorter.length < lexemes.length) : Reads shorter :=
      ih shorter.length h shorter rfl
    exact ⟨fun frames given password hframes => reads_value ih' hframes,
      fun frames given password => reads_elements ih', fun frames given password => reads_members ih'⟩

end Shapes

section Members

def text? : Value → Option String
  | .string raw => Lexeme.decode? raw
  | _ => none

/-- What a member of the outermost object makes of the password so far. -/
def take (given : Option String) (member : List UInt8 × Value) : Option (Option String) := do
  let name ← Lexeme.decode? member.1
  if name = "password" then
    if given.isSome then none else (text? member.2).map some
  else some given

theorem answer?_password (v : Value) (later : List Lexeme) :
    answer? ⟨[.object], .password, none⟩ (v.lexemes ++ later) =
      (text? v).bind fun text => answer? ⟨[.object], .commaOrClose, some text⟩ later := by
  cases v with
  | string raw =>
    have hstep : step ⟨[.object], .password, none⟩ (.string raw) =
        (Lexeme.decode? raw).bind fun text => some ⟨[.object], .commaOrClose, some text⟩ := rfl
    rw [Value.lexemes, List.singleton_append, answer?_cons, hstep, text?, Option.bind_assoc]
    rfl
  | scalar => rfl
  | list elements => cases elements <;> rfl
  | object members =>
    cases members with
    | nil => rfl
    | cons member members => rfl

theorem answer?_member (given : Option String) (name : List UInt8) (v : Value) (later : List Lexeme) :
    answer? ⟨[.object], .key, given⟩ (.string name :: .colon :: (v.lexemes ++ later)) =
      (take given (name, v)).bind fun given => answer? ⟨[.object], .commaOrClose, given⟩ later := by
  have hstep : step ⟨[.object], .key, given⟩ (.string name) = (Lexeme.decode? name).bind fun text =>
      if text = "password" then
        if given.isSome then none else some ⟨[.object], .colon true, given⟩
      else some ⟨[.object], .colon false, given⟩ := rfl
  rw [answer?_cons, hstep, take]
  cases Lexeme.decode? name with
  | none => rfl
  | some text =>
    dsimp only [Option.bind_eq_bind, Option.bind_some]
    by_cases hname : text = "password"
    · rw [if_pos hname, if_pos hname]
      cases given with
      | some before => rfl
      | none =>
        refine (answer?_password v later).trans ?_
        rw [if_neg (by decide), Option.bind_map]
        rfl
    · rw [if_neg hname, if_neg hname]
      exact answer?_value given v later (List.cons_ne_nil _ _)

theorem answer?_members (given : Option String) (ms : List (List UInt8 × Value)) :
    answer? ⟨[.object], .commaOrClose, given⟩ (furtherMembers ms ++ [.objectClose]) =
      (ms.foldlM take given).bind id := by
  induction ms generalizing given with
  | nil => rfl
  | cons member ms ih =>
    obtain ⟨name, v⟩ := member
    have hcomma : answer? ⟨[.object], .commaOrClose, given⟩
        (furtherMembers ((name, v) :: ms) ++ [.objectClose]) =
          answer? ⟨[.object], .key, given⟩
            (.string name :: .colon :: (v.lexemes ++ (furtherMembers ms ++ [.objectClose]))) := by
      rw [furtherMembers_cons_append]
      rfl
    rw [hcomma, answer?_member, List.foldlM_cons]
    cases take given (name, v) with
    | none => rfl
    | some given => exact ih given

def IsOther (member : List UInt8 × Value) : Prop :=
  ∃ name, Lexeme.decode? member.1 = some name ∧ name ≠ "password"

theorem take_eq_some_iff {member : List UInt8 × Value} {next : Option String} :
    take given member = some next ↔
      (IsOther member ∧ next = given) ∨
        Lexeme.decode? member.1 = some "password" ∧ given = none ∧
          ∃ raw text, member.2 = .string raw ∧ Lexeme.decode? raw = some text ∧ next = some text := by
  obtain ⟨name, v⟩ := member
  rw [take, Option.bind_eq_bind, Option.bind_eq_some_iff]
  constructor
  · rintro ⟨text, htext, hnext⟩
    split at hnext
    · next hname =>
      subst hname
      refine .inr ⟨htext, ?_⟩
      split at hnext
      · cases hnext
      · next hnone =>
        obtain ⟨password, hpassword, rfl⟩ := Option.map_eq_some_iff.mp hnext
        refine ⟨Option.not_isSome_iff_eq_none.mp hnone, ?_⟩
        cases v with
        | string raw => exact ⟨raw, password, rfl, hpassword, rfl⟩
        | _ => cases hpassword
    · next hname => exact .inl ⟨⟨text, htext, hname⟩, (Option.some.inj hnext).symm⟩
  · rintro (⟨⟨text, htext, hname⟩, rfl⟩ | ⟨htext, rfl, raw, text, rfl, hraw, rfl⟩)
    · exact ⟨text, htext, if_neg hname⟩
    · refine ⟨"password", htext, ?_⟩
      rw [if_pos rfl, if_neg (by decide)]
      exact Option.map_eq_some_iff.mpr ⟨text, hraw, rfl⟩

theorem foldlM_take_some {ms : List (List UInt8 × Value)} {before password : String} :
    ms.foldlM take (some before) = some (some password) ↔ before = password ∧ ∀ m ∈ ms, IsOther m := by
  induction ms with
  | nil => simp [List.foldlM_nil]
  | cons member ms ih =>
    rw [List.foldlM_cons, Option.bind_eq_bind, Option.bind_eq_some_iff, List.forall_mem_cons]
    constructor
    · rintro ⟨next, hnext, hrest⟩
      obtain ⟨hother, rfl⟩ | ⟨-, hnone, -⟩ := take_eq_some_iff.mp hnext
      · exact ⟨(ih.mp hrest).1, hother, (ih.mp hrest).2⟩
      · cases hnone
    · rintro ⟨hsame, hother, hrest⟩
      exact ⟨some before, take_eq_some_iff.mpr (.inl ⟨hother, rfl⟩), ih.mpr ⟨hsame, hrest⟩⟩

theorem foldlM_take_none {ms : List (List UInt8 × Value)} {password : String} :
    ms.foldlM take none = some (some password) ↔
      ∃ before name raw after, ms = before ++ (name, .string raw) :: after ∧
        Lexeme.decode? name = some "password" ∧ Lexeme.decode? raw = some password ∧
        ∀ m ∈ before ++ after, IsOther m := by
  induction ms with
  | nil => simp [List.foldlM_nil]
  | cons member ms ih =>
    rw [List.foldlM_cons, Option.bind_eq_bind, Option.bind_eq_some_iff]
    constructor
    · rintro ⟨next, hnext, hrest⟩
      obtain ⟨hother, rfl⟩ | ⟨hname, -, raw, text, hvalue, htext, rfl⟩ := take_eq_some_iff.mp hnext
      · obtain ⟨before, name, raw, after, rfl, hname, hraw, hothers⟩ := ih.mp hrest
        exact ⟨member :: before, name, raw, after, rfl, hname, hraw,
          List.forall_mem_cons.mpr ⟨hother, hothers⟩⟩
      · obtain ⟨rfl, hothers⟩ := foldlM_take_some.mp hrest
        obtain ⟨name, v⟩ := member
        obtain rfl : v = .string raw := hvalue
        exact ⟨[], name, raw, ms, rfl, hname, htext, hothers⟩
    · rintro ⟨before, name, raw, after, heq, hname, hraw, hothers⟩
      cases before with
      | nil =>
        obtain ⟨rfl, rfl⟩ := List.cons_eq_cons.mp heq
        exact ⟨some password, take_eq_some_iff.mpr (.inr ⟨hname, rfl, raw, password, rfl, hraw, rfl⟩),
          foldlM_take_some.mpr ⟨rfl, hothers⟩⟩
      | cons first before =>
        obtain ⟨rfl, rfl⟩ := List.cons_eq_cons.mp heq
        obtain ⟨hother, hothers⟩ := List.forall_mem_cons.mp hothers
        exact ⟨none, take_eq_some_iff.mpr (.inl ⟨hother, rfl⟩),
          ih.mpr ⟨before, name, raw, after, rfl, hname, hraw, hothers⟩⟩

end Members

end Reader

open Reader

theorem ofLexemes?_object (ms : List (List UInt8 × Value)) :
    ofLexemes? (object ms).lexemes = (ms.foldlM take none).bind id := by
  cases ms with
  | nil => rfl
  | cons member ms =>
    obtain ⟨name, v⟩ := member
    have hopen : ofLexemes? (object ((name, v) :: ms)).lexemes = answer? ⟨[.object], .key, none⟩
        (.string name :: .colon :: (v.lexemes ++ (furtherMembers ms ++ [.objectClose]))) := rfl
    rw [hopen, answer?_member, List.foldlM_cons]
    cases take none (name, v) with
    | none => rfl
    | some given => exact answer?_members given ms

theorem ofLexemes?_eq_some_iff {lexemes : List Lexeme} {password : String} :
    ofLexemes? lexemes = some password ↔
      (∃ raw, lexemes = (list [.string raw]).lexemes ∧ Lexeme.decode? raw = some password) ∨
        ∃ ms, lexemes = (object ms).lexemes ∧ ms.foldlM take none = some (some password) := by
  constructor
  · intro h
    unfold ofLexemes? at h
    split at h
    · next raw => exact .inl ⟨raw, rfl, h⟩
    · next rest =>
      have hanswer : answer? ⟨[.object], .keyOrClose, none⟩ rest = some password := h
      obtain ⟨ms, later, heq, given, hlater⟩ := reads_object (fun shorter _ => reads shorter) hanswer
      rw [answer?_closed_nil] at hlater
      obtain ⟨rfl, -⟩ := Option.ite_none_right_eq_some.mp hlater
      rw [List.append_nil] at heq
      have hmembers : (ms.foldlM take none).bind id = some password := by
        rw [← ofLexemes?_object, ← heq]
        exact h
      obtain ⟨given, hgiven, rfl⟩ := Option.bind_eq_some_iff.mp hmembers
      exact .inr ⟨ms, heq, hgiven⟩
    · cases h
  · rintro (⟨raw, rfl, hraw⟩ | ⟨ms, rfl, hms⟩)
    · exact hraw
    · rw [ofLexemes?_object, hms]
      rfl

theorem gives_object_iff {octets : List UInt8} {ms : List (List UInt8 × Value)} {password : String}
    (h : (object ms).Writes octets) :
    ms.foldlM take none = some (some password) ↔ (object ms).Gives password := by
  rw [foldlM_take_none, Gives]
  refine exists_congr fun before => exists_congr fun name => exists_congr fun raw =>
    exists_congr fun after =>
    and_congr_right fun hms => ?_
  have hmem : (name, Value.string raw) ∈ ms := by
    rw [hms]
    exact List.mem_append_right before List.mem_cons_self
  have hname : IsStringBody name := h.isStringBody (mem_lexemes_object hmem (.inl rfl))
  have hraw : IsStringBody raw := h.isStringBody (mem_lexemes_object hmem (.inr List.mem_cons_self))
  rw [decode?_eq_some_iff hname, decode?_eq_some_iff hraw]
  refine and_congr_right fun _ => and_congr_right fun _ => forall₂_congr fun member hmember => ?_
  have hother : member ∈ ms := by
    rw [hms]
    simp only [List.mem_append, List.mem_cons] at hmember ⊢
    exact hmember.imp_right .inr
  exact exists_decode?_iff (h.isStringBody (mem_lexemes_object hother (.inl rfl)))

theorem gives_list_iff {octets : List UInt8} {elements : List Value} {password : String}
    (h : (list elements).Writes octets) :
    (∃ raw, elements = [.string raw] ∧ Lexeme.decode? raw = some password) ↔
      (list elements).Gives password := by
  refine exists_congr fun raw => and_congr_right ?_
  rintro rfl
  exact decode?_eq_some_iff (h.isStringBody (by simp [Value.lexemes]))

/-- A password is read from the octets exactly if they are a JSON text of a value that gives it. -/
theorem password?_eq_some_iff {octets : List UInt8} {password : String} :
    password? octets = some password ↔ ∃ v : Value, v.Writes octets ∧ v.Gives password := by
  rw [password?, Option.bind_eq_bind, Option.bind_eq_some_iff]
  constructor
  · rintro ⟨lexemes, hscan, hread⟩
    obtain ⟨raw, rfl, hraw⟩ | ⟨ms, rfl, hms⟩ := ofLexemes?_eq_some_iff.mp hread
    · have hwrites := writes_iff.mpr hscan
      exact ⟨_, hwrites, (gives_list_iff hwrites).mp ⟨raw, rfl, hraw⟩⟩
    · have hwrites := writes_iff.mpr hscan
      exact ⟨_, hwrites, (gives_object_iff hwrites).mp hms⟩
  · rintro ⟨v, hwrites, hgives⟩
    refine ⟨v.lexemes, writes_iff.mp hwrites, ofLexemes?_eq_some_iff.mpr ?_⟩
    cases v with
    | scalar | string => exact hgives.elim
    | list elements =>
      obtain ⟨raw, rfl, hraw⟩ := (gives_list_iff hwrites).mpr hgives
      exact .inl ⟨raw, rfl, hraw⟩
    | object ms => exact .inr ⟨ms, rfl, (gives_object_iff hwrites).mpr hgives⟩

end LoginGateway.Login.Body
