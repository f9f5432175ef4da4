import LoginGateway.Proofs.Login.Number

namespace LoginGateway.Login.Lexeme

section Spellings

def blanks : List UInt8 := [32, 10, 9, 13]

def marks : List (UInt8 × Lexeme) :=
  [(123, .objectOpen), (125, .objectClose), (91, .listOpen), (93, .listClose), (44, .comma), (58, .colon)]

def words : List (List UInt8) := ["true", "false", "null"].map Text.Utf8.encode

def escapeLetters : List UInt8 := [34, 92, 47, 98, 102, 110, 114, 116]

/-- The octets between two quotes: no quote, no backslash and no control unless it is escaped. -/
inductive IsStringBody : List UInt8 → Prop
  | nil : IsStringBody []
  | plain {b raw} : 32 ≤ b → b ≠ 34 → b ≠ 92 → IsStringBody raw → IsStringBody (b :: raw)
  | letter {b raw} : b ∈ escapeLetters → IsStringBody raw → IsStringBody (92 :: b :: raw)
  | code {digits raw} : digits.length = 4 → (∀ d ∈ digits, Scan.isHexDigit d = true) → IsStringBody raw →
      IsStringBody (92 :: 117 :: (digits ++ raw))

inductive Spells : Lexeme → List UInt8 → Prop
  | mark {b lexeme} : (b, lexeme) ∈ marks → Spells lexeme [b]
  | word {octets} : octets ∈ words → Spells .scalar octets
  | number {octets} : IsNumber octets → Spells .scalar octets
  | string {raw} : IsStringBody raw → Spells (.string raw) (34 :: (raw ++ [34]))

/-- The octets are spellings of the lexemes, with blanks around them. -/
inductive Spelled : List UInt8 → List Lexeme → Prop
  | nil : Spelled [] []
  | blank {b octets lexemes} : b ∈ blanks → Spelled octets lexemes → Spelled (b :: octets) lexemes
  | cons {front lexeme octets lexemes} : Spells lexeme front → Spelled octets lexemes →
      Spelled (front ++ octets) (lexeme :: lexemes)

end Spellings

section Strings

def EscapePart.next? (escape : EscapePart) (b : UInt8) : Option EscapePart :=
  match escape with
  | .outside => if b = 34 ∨ b < 32 then none else if b = 92 then some .backslash else some .outside
  | .backslash => if b = 117 then some (.hex 4) else if b ∈ escapeLetters then some .outside else none
  | .hex left =>
    if Scan.isHexDigit b then some (if left ≤ 1 then .outside else .hex (left - 1)) else none

theorem inString_eq (scan : Scan) (reversed : List UInt8) (escape : EscapePart) (b : UInt8) :
    scan.inString reversed escape b =
      if escape = .outside ∧ b = 34 then some (scan.emit (.string reversed.reverse))
      else (escape.next? b).map fun next => ⟨.string (b :: reversed) next, scan.reversed⟩ := by
  cases escape with
  | outside => grind [Scan.inString, EscapePart.next?]
  | backslash => grind [Scan.inString, EscapePart.next?, escapeLetters]
  | hex left => grind [Scan.inString, EscapePart.next?]

def ClosesString : EscapePart → List UInt8 → Prop
  | .outside, cs => IsStringBody cs
  | .backslash, cs => IsStringBody (92 :: cs)
  | .hex left, cs => ∃ d ds raw, cs = d :: (ds ++ raw) ∧ ds.length = left - 1 ∧
      (∀ x ∈ d :: ds, Scan.isHexDigit x = true) ∧ IsStringBody raw

variable {b : UInt8} {cs : List UInt8}

theorem closesString_cons {escape : EscapePart} :
    ClosesString escape (b :: cs) ↔ ∃ next, escape.next? b = some next ∧ ClosesString next cs := by
  cases escape with
  | outside =>
    rw [EscapePart.next?]
    constructor
    · rintro (_ | ⟨hcontrol, hquote, hslash, hraw⟩ | ⟨hletter, hraw⟩ | ⟨hlength, hdigits, hraw⟩)
      · rw [if_neg (by simp [hquote, hcontrol]), if_neg hslash]
        exact ⟨_, rfl, hraw⟩
      · exact ⟨.backslash, rfl, .letter hletter hraw⟩
      · exact ⟨.backslash, rfl, .code hlength hdigits hraw⟩
    · rintro ⟨next, hnext, hcs⟩
      split at hnext
      · cases hnext
      · next hplain =>
        rw [not_or, UInt8.not_lt] at hplain
        split at hnext
        · next hslash =>
          cases hnext
          exact hslash ▸ hcs
        · next hslash =>
          cases hnext
          exact .plain hplain.2 hplain.1 hslash hcs
  | backslash =>
    have hnot : (117 : UInt8) ∉ escapeLetters := by
      decide
    rw [EscapePart.next?]
    constructor
    · rintro (_ | ⟨-, -, hslash, -⟩ | ⟨hletter, hraw⟩ | ⟨hlength, hdigits, hraw⟩)
      · exact absurd rfl hslash
      · have hne : b ≠ 117 := by
          rintro rfl
          exact hnot hletter
        rw [if_neg hne, if_pos hletter]
        exact ⟨_, rfl, hraw⟩
      · rename_i digits raw
        obtain ⟨d, ds, rfl⟩ := List.exists_cons_of_length_eq_add_one hlength
        exact ⟨.hex 4, rfl, d, ds, raw, rfl, Nat.succ.inj hlength, hdigits, hraw⟩
    · rintro ⟨next, hnext, hcs⟩
      split at hnext
      · next hcode =>
        cases hnext
        obtain ⟨d, ds, raw, rfl, hlength, hdigits, hraw⟩ := hcs
        have hfour : (d :: ds).length = 4 := congrArg Nat.succ hlength
        exact hcode ▸ .code hfour hdigits hraw
      · split at hnext
        · next hletter =>
          cases hnext
          exact .letter hletter hcs
        · cases hnext
  | hex left =>
    rw [EscapePart.next?]
    constructor
    · rintro ⟨d, ds, raw, heq, hlength, hdigits, hraw⟩
      obtain ⟨rfl, rfl⟩ := List.cons_eq_cons.mp heq
      obtain ⟨hd, hds⟩ := List.forall_mem_cons.mp hdigits
      rw [if_pos hd]
      refine ⟨_, rfl, ?_⟩
      split
      · obtain rfl : ds = [] := List.eq_nil_of_length_eq_zero (by omega)
        exact hraw
      · obtain ⟨d', ds', rfl⟩ :=
          List.exists_cons_of_length_eq_add_one (by omega : ds.length = left - 2 + 1)
        rw [List.length_cons] at hlength
        exact ⟨d', ds', raw, rfl, by omega, hds, hraw⟩
    · rintro ⟨next, hnext, hcs⟩
      split at hnext
      · next hd =>
        cases hnext
        split at hcs
        · exact ⟨b, [], cs, rfl, by simp; omega, by simpa using hd, hcs⟩
        · obtain ⟨d, ds, raw, rfl, hlength, hdigits, hraw⟩ := hcs
          exact ⟨b, d :: ds, raw, rfl, by rw [List.length_cons]; omega,
            List.forall_mem_cons.mpr ⟨hd, hdigits⟩, hraw⟩
      · cases hnext

theorem closesString_nil {escape : EscapePart} : ClosesString escape [] ↔ escape = .outside := by
  cases escape with
  | outside => exact iff_of_true .nil rfl
  | backslash => exact iff_of_false (by rintro (_ | _); contradiction) (by rintro ⟨⟩)
  | hex left => exact iff_of_false (by rintro ⟨d, ds, raw, ⟨⟩, -⟩) (by rintro ⟨⟩)

end Strings

section Starts

/-- What an octet between lexemes begins, and what it is by itself. -/
inductive Begins : UInt8 → Mode → List Lexeme → Prop
  | blank {b} : b ∈ blanks → Begins b .between []
  | mark {b lexeme} : (b, lexeme) ∈ marks → Begins b .between [lexeme]
  | quote : Begins 34 (.string [] .outside) []
  | word {b left} : b :: left ∈ words → Begins b (.word left) []
  | minus : Begins 45 (.number .sign) []
  | digit {b part} : NumberPart.next? .sign b = some part → Begins b (.number part) []

theorem words_eq : words = [[116, 114, 117, 101], [102, 97, 108, 115, 101], [110, 117, 108, 108]] := by
  decide

theorem begins_of_start {scan scan' : Scan} {b : UInt8} (h : scan.start b = some scan') :
    ∃ mode emitted, Begins b mode emitted ∧ scan' = ⟨mode, emitted ++ scan.reversed⟩ := by
  revert h
  fun_cases scan.start b with
  | case1 hb =>
    rintro ⟨⟩
    have hblank : b ∈ blanks := by
      simpa [blanks, or_assoc] using hb
    exact ⟨_, _, .blank hblank, rfl⟩
  | case2 | case3 | case4 | case5 | case6 | case7 =>
    rintro ⟨⟩
    subst b
    exact ⟨_, _, .mark (by decide), rfl⟩
  | case8 =>
    rintro ⟨⟩
    subst b
    exact ⟨_, _, .quote, rfl⟩
  | case9 | case10 | case11 =>
    rintro ⟨⟩
    subst b
    exact ⟨_, _, .word (by decide), rfl⟩
  | case12 =>
    rintro ⟨⟩
    subst b
    exact ⟨_, _, .minus, rfl⟩
  | case13 =>
    intro h
    obtain ⟨part, hpart, rfl⟩ := Option.map_eq_some_iff.mp h
    exact ⟨_, _, .digit hpart, rfl⟩

theorem start_of_begins {b : UInt8} {mode : Mode} {emitted : List Lexeme} (h : Begins b mode emitted)
    (scan : Scan) : scan.start b = some ⟨mode, emitted ++ scan.reversed⟩ := by
  cases h with
  | blank hblank =>
    simp only [blanks, List.mem_cons, List.not_mem_nil, or_false] at hblank
    obtain rfl | rfl | rfl | rfl := hblank <;> rfl
  | mark hmark =>
    simp only [marks, List.mem_cons, Prod.mk.injEq, List.not_mem_nil, or_false] at hmark
    obtain ⟨rfl, rfl⟩ | ⟨rfl, rfl⟩ | ⟨rfl, rfl⟩ | ⟨rfl, rfl⟩ | ⟨rfl, rfl⟩ | ⟨rfl, rfl⟩ := hmark <;> rfl
  | quote => rfl
  | word hword =>
    simp only [words_eq, List.mem_cons, List.cons.injEq, List.not_mem_nil, or_false] at hword
    obtain ⟨rfl, rfl⟩ | ⟨rfl, rfl⟩ | ⟨rfl, rfl⟩ := hword <;> rfl
  | minus => rfl
  | @digit b part hdigit =>
    have hother (c : UInt8) (hc : NumberPart.next? .sign c = none) : b ≠ c := by
      rintro rfl
      rw [hdigit] at hc
      cases hc
    simp only [Scan.start, hother 32 rfl, hother 10 rfl, hother 9 rfl, hother 13 rfl, hother 123 rfl,
      hother 125 rfl, hother 91 rfl, hother 93 rfl, hother 44 rfl, hother 58 rfl, hother 34 rfl,
      hother 116 rfl, hother 102 rfl, hother 110 rfl, hother 45 rfl, decide_false, Bool.or_false,
      Bool.false_eq_true, if_false, hdigit, Option.map_some, List.nil_append]

end Starts

section Scanning

/-- What the octets that follow may be, and what is then added to the lexemes so far. -/
def Awaits : Mode → List UInt8 → List Lexeme → Prop
  | .between, cs, lexemes => Spelled cs lexemes
  | .number part, cs, lexemes => ∃ front octets later, cs = front ++ octets ∧ lexemes = .scalar :: later ∧
      Completes front part ∧ Spelled octets later
  | .word left, cs, lexemes =>
      left ≠ [] ∧ ∃ octets later, cs = left ++ octets ∧ lexemes = .scalar :: later ∧
      Spelled octets later
  | .string reversed escape, cs, lexemes => ∃ front octets later, cs = front ++ 34 :: octets ∧
      lexemes = .string (reversed.reverse ++ front) :: later ∧ ClosesString escape front ∧
      Spelled octets later

variable {b : UInt8} {cs : List UInt8} {lexemes : List Lexeme}

theorem eq_cons_cons_of_word {octets : List UInt8} (h : octets ∈ words) :
    ∃ c d left, octets = c :: d :: left := by
  simp only [words_eq, List.mem_cons, List.not_mem_nil, or_false] at h
  obtain rfl | rfl | rfl := h <;> exact ⟨_, _, _, rfl⟩

theorem Spells.ne_nil {lexeme : Lexeme} {front : List UInt8} (h : Spells lexeme front) : front ≠ [] := by
  rintro rfl
  cases h with
  | word hword =>
    obtain ⟨c, d, left, heq⟩ := eq_cons_cons_of_word hword
    cases heq
  | number hnumber =>
    obtain hunsigned | ⟨more, heq, -⟩ := isNumber_iff.mp hnumber
    · exact absurd (completes_nil.mp hunsigned) (by decide)
    · cases heq

theorem spelled_nil_iff : Spelled [] lexemes ↔ lexemes = [] := by
  constructor
  · intro h
    generalize hoctets : [] = octets at h
    cases h with
    | nil => rfl
    | blank => cases hoctets
    | cons hfront => exact absurd (List.append_eq_nil_iff.mp hoctets.symm).1 hfront.ne_nil
  · rintro rfl
    exact .nil

theorem spelled_cons_iff : Spelled (b :: cs) lexemes ↔
    ∃ mode emitted later, Begins b mode emitted ∧ lexemes = emitted.reverse ++ later ∧
      Awaits mode cs later := by
  constructor
  · intro h
    generalize hoctets : b :: cs = octets at h
    cases h with
    | nil => cases hoctets
    | blank hblank hrest =>
      obtain ⟨rfl, rfl⟩ := List.cons_eq_cons.mp hoctets
      exact ⟨.between, [], lexemes, .blank hblank, rfl, hrest⟩
    | @cons front lexeme octets later hfront hrest =>
      cases hfront with
      | mark hmark =>
        obtain ⟨rfl, rfl⟩ := List.cons_eq_cons.mp hoctets
        exact ⟨.between, [lexeme], later, .mark hmark, rfl, hrest⟩
      | word hword =>
        obtain ⟨c, d, left, rfl⟩ := eq_cons_cons_of_word hword
        obtain ⟨rfl, rfl⟩ := List.cons_eq_cons.mp hoctets
        exact ⟨.word (d :: left), [], _, .word hword, rfl, List.cons_ne_nil d left, octets, later, rfl,
          rfl, hrest⟩
      | number hnumber =>
        obtain hunsigned | ⟨front, rfl, hunsigned⟩ := isNumber_iff.mp hnumber
        · cases front with
          | nil => exact absurd (completes_nil.mp hunsigned) (by decide)
          | cons c front =>
            obtain ⟨rfl, rfl⟩ := List.cons_eq_cons.mp hoctets
            obtain ⟨part, hpart, hfront⟩ := completes_cons.mp hunsigned
            exact ⟨.number part, [], _, .digit hpart, rfl, front, octets, later, rfl, rfl, hfront, hrest⟩
        · obtain ⟨rfl, rfl⟩ := List.cons_eq_cons.mp hoctets
          exact ⟨.number .sign, [], _, .minus, rfl, front, octets, later, rfl, rfl, hunsigned, hrest⟩
      | @string raw hraw =>
        obtain ⟨rfl, rfl⟩ := List.cons_eq_cons.mp hoctets
        exact ⟨.string [] .outside, [], _, .quote, rfl, raw, octets, later, List.append_assoc .., rfl,
          hraw, hrest⟩
  · rintro ⟨mode, emitted, later, hbegins, rfl, hrest⟩
    cases hbegins with
    | blank hblank => exact .blank hblank hrest
    | mark hmark => exact .cons (.mark hmark) hrest
    | quote =>
      obtain ⟨raw, octets, later, rfl, rfl, hraw, hrest⟩ := hrest
      have hspelled : Spelled (34 :: (raw ++ [34]) ++ octets) (.string raw :: later) :=
        .cons (.string hraw) hrest
      rwa [List.cons_append, List.append_assoc] at hspelled
    | word hword =>
      obtain ⟨-, octets, later, rfl, rfl, hrest⟩ := hrest
      exact .cons (.word hword) hrest
    | minus =>
      obtain ⟨front, octets, later, rfl, rfl, hfront, hrest⟩ := hrest
      exact .cons (.number (isNumber_iff.mpr (.inr ⟨front, rfl, hfront⟩))) hrest
    | digit hdigit =>
      obtain ⟨front, octets, later, rfl, rfl, hfront, hrest⟩ := hrest
      exact .cons (.number (isNumber_iff.mpr (.inl (completes_cons.mpr ⟨_, hdigit, hfront⟩)))) hrest

def Apart (lexemes : List Lexeme) : Prop := ¬ [.scalar, .scalar] <:+: lexemes

theorem Apart.of_append {before : List Lexeme} (h : Apart (before ++ lexemes)) : Apart lexemes :=
  fun hwithin => h (hwithin.trans (List.suffix_append before lexemes).isInfix)

theorem Apart.head?_ne (h : Apart (.scalar :: lexemes)) : lexemes.head? ≠ some .scalar := by
  intro hhead
  obtain ⟨more, rfl⟩ := List.head?_eq_some_iff.mp hhead
  exact h ⟨[], more, rfl⟩

/-- What one octet leads to allows for no more than what was awaited before it. -/
theorem awaits_of_step {mode : Mode} {reversed : List Lexeme} {scan : Scan}
    (h : Scan.step ⟨mode, reversed⟩ b = some scan) :
    ∃ emitted, scan.reversed = emitted ++ reversed ∧
      ∀ cs later, Awaits scan.mode cs later → Awaits mode (b :: cs) (emitted.reverse ++ later) := by
  cases mode with
  | between =>
    obtain ⟨mode, emitted, hbegins, rfl⟩ := begins_of_start h
    exact ⟨emitted, rfl, fun cs later hlater =>
      spelled_cons_iff.mpr ⟨mode, emitted, later, hbegins, rfl, hlater⟩⟩
  | number part =>
    rw [Scan.step] at h
    dsimp only at h
    cases hnext : part.next? b with
    | some next =>
      rw [hnext] at h
      obtain rfl := Option.some.inj h
      refine ⟨[], rfl, ?_⟩
      rintro cs later ⟨front, octets, later, rfl, rfl, hfront, hrest⟩
      exact ⟨b :: front, octets, later, rfl, rfl, completes_cons.mpr ⟨next, hnext, hfront⟩, hrest⟩
    | none =>
      rw [hnext] at h
      dsimp only at h
      split at h
      · next hcomplete =>
        -- the number has ended before the octet, which is then read as one between lexemes
        obtain ⟨mode, emitted, hbegins, rfl⟩ := begins_of_start h
        refine ⟨emitted ++ [.scalar], List.append_cons .., fun cs later hlater => ?_⟩
        refine ⟨[], b :: cs, emitted.reverse ++ later, rfl, ?_, completes_nil.mpr hcomplete,
          spelled_cons_iff.mpr ⟨mode, emitted, later, hbegins, rfl, hlater⟩⟩
        rw [List.reverse_append]
        rfl
      · cases h
  | word left =>
    obtain _ | ⟨c, _ | ⟨d, left⟩⟩ := left
    · cases h
    · obtain ⟨rfl, h⟩ := Option.ite_none_right_eq_some.mp h
      obtain rfl := Option.some.inj h
      exact ⟨[.scalar], rfl, fun cs later hlater => ⟨List.cons_ne_nil b [], cs, later, rfl, rfl, hlater⟩⟩
    · obtain ⟨rfl, h⟩ := Option.ite_none_right_eq_some.mp h
      obtain rfl := Option.some.inj h
      refine ⟨[], rfl, ?_⟩
      rintro cs later ⟨-, octets, later, rfl, rfl, hrest⟩
      exact ⟨List.cons_ne_nil b _, octets, later, rfl, rfl, hrest⟩
  | string body escape =>
    rw [Scan.step] at h
    dsimp only at h
    rw [inString_eq] at h
    split at h
    · next hclose =>
      obtain ⟨rfl, rfl⟩ := hclose
      obtain rfl := Option.some.inj h
      refine ⟨[.string body.reverse], rfl, fun cs later hlater => ?_⟩
      exact ⟨[], cs, later, rfl, by rw [List.append_nil]; rfl, .nil, hlater⟩
    · obtain ⟨next, hnext, rfl⟩ := Option.map_eq_some_iff.mp h
      refine ⟨[], rfl, ?_⟩
      rintro cs later ⟨front, octets, later, rfl, rfl, hfront, hrest⟩
      refine ⟨b :: front, octets, later, rfl, ?_, closesString_cons.mpr ⟨next, hnext, hfront⟩, hrest⟩
      rw [List.reverse_cons, List.append_assoc]
      rfl

/-- A number ends before what begins anything else than a number or a word. -/
theorem next?_eq_none {mode : Mode} {emitted : List Lexeme} (h : Begins b mode emitted)
    (hrest : Awaits mode cs lexemes) (hhead : (emitted.reverse ++ lexemes).head? ≠ some .scalar)
    (part : NumberPart) : part.next? b = none := by
  have key : ∀ b ∈ 34 :: (blanks ++ marks.map Prod.fst), part.next? b = none := by
    cases part <;> decide +kernel
  cases h with
  | blank hblank => exact key b (List.mem_cons_of_mem _ (List.mem_append_left _ hblank))
  | mark hmark =>
    exact key b (List.mem_cons_of_mem _ (List.mem_append_right _ (List.mem_map_of_mem hmark)))
  | quote => exact key 34 List.mem_cons_self
  | word =>
    obtain ⟨-, octets, later, -, rfl, -⟩ := hrest
    exact absurd rfl hhead
  | minus | digit =>
    obtain ⟨front, octets, later, -, rfl, -⟩ := hrest
    exact absurd rfl hhead

theorem step_of_awaits {mode : Mode} (h : Awaits mode (b :: cs) lexemes) (hapart : Apart lexemes)
    (reversed : List Lexeme) :
    ∃ mode' emitted later, Scan.step ⟨mode, reversed⟩ b = some ⟨mode', emitted ++ reversed⟩ ∧
      lexemes = emitted.reverse ++ later ∧ Awaits mode' cs later := by
  cases mode with
  | between =>
    obtain ⟨mode', emitted, later, hbegins, rfl, hlater⟩ := spelled_cons_iff.mp h
    exact ⟨mode', emitted, later, start_of_begins hbegins _, rfl, hlater⟩
  | number part =>
    obtain ⟨front, octets, later, heq, rfl, hfront, hrest⟩ := h
    rw [Scan.step]
    dsimp only
    cases front with
    | nil =>
      rw [List.nil_append] at heq
      subst heq
      -- the octet is not taken into the number, since what it begins is neither a number nor a word
      obtain ⟨mode', emitted, later, hbegins, rfl, hlater⟩ := spelled_cons_iff.mp hrest
      rw [next?_eq_none hbegins hlater hapart.head?_ne, if_pos (completes_nil.mp hfront)]
      refine ⟨mode', emitted ++ [.scalar], later, ?_, by simp, hlater⟩
      rw [start_of_begins hbegins, List.append_assoc]
      rfl
    | cons c front =>
      obtain ⟨rfl, rfl⟩ := List.cons_eq_cons.mp heq
      obtain ⟨next, hnext, hfront⟩ := completes_cons.mp hfront
      rw [hnext]
      exact ⟨.number next, [], _, rfl, rfl, front, octets, later, rfl, rfl, hfront, hrest⟩
  | word left =>
    obtain ⟨hne, octets, later, heq, rfl, hrest⟩ := h
    obtain _ | ⟨c, _ | ⟨d, left⟩⟩ := left
    · exact absurd rfl hne
    · obtain ⟨rfl, rfl⟩ := List.cons_eq_cons.mp heq
      exact ⟨.between, [.scalar], later, if_pos rfl, rfl, hrest⟩
    · obtain ⟨rfl, rfl⟩ := List.cons_eq_cons.mp heq
      exact ⟨.word (d :: left), [], _, if_pos rfl, rfl, List.cons_ne_nil d left, octets, later, rfl,
        rfl, hrest⟩
  | string body escape =>
    obtain ⟨front, octets, later, heq, rfl, hfront, hrest⟩ := h
    rw [Scan.step]
    dsimp only
    rw [inString_eq]
    cases front with
    | nil =>
      obtain ⟨rfl, rfl⟩ := List.cons_eq_cons.mp heq
      rw [if_pos ⟨closesString_nil.mp hfront, rfl⟩]
      refine ⟨.between, [.string body.reverse], later, rfl, ?_, hrest⟩
      rw [List.append_nil]
      rfl
    | cons c front =>
      obtain ⟨rfl, rfl⟩ := List.cons_eq_cons.mp heq
      obtain ⟨next, hnext, hfront⟩ := closesString_cons.mp hfront
      have hopen : ¬ (escape = .outside ∧ b = 34) := by
        rintro ⟨rfl, rfl⟩
        cases hnext
      rw [if_neg hopen, hnext]
      refine ⟨.string (b :: body) next, [], _, rfl, rfl, front, octets, later, rfl, ?_, hfront, hrest⟩
      rw [List.reverse_cons, List.append_assoc]
      rfl

def Scan.rest? (scan : Scan) (octets : List UInt8) : Option (List Lexeme) := do
  let scan ← octets.foldlM Scan.step scan
  scan.finish?

theorem rest?_cons (scan : Scan) (b : UInt8) (cs : List UInt8) :
    scan.rest? (b :: cs) = (scan.step b).bind (·.rest? cs) := by
  rw [Scan.rest?, List.foldlM_cons, bind_assoc]
  rfl

theorem rest?_nil_eq_some_iff {mode : Mode} {reversed all : List Lexeme} :
    Scan.rest? ⟨mode, reversed⟩ [] = some all ↔
      ∃ lexemes, all = reversed.reverse ++ lexemes ∧ Awaits mode [] lexemes := by
  have hrest : Scan.rest? ⟨mode, reversed⟩ [] = Scan.finish? ⟨mode, reversed⟩ := rfl
  rw [hrest, Scan.finish?]
  cases mode with
  | between =>
    simp only [Awaits, spelled_nil_iff, exists_eq_right, List.append_nil, Option.some.injEq, eq_comm]
  | number part =>
    rw [Option.ite_none_right_eq_some, Option.some.injEq, List.reverse_cons]
    constructor
    · rintro ⟨hcomplete, rfl⟩
      exact ⟨_, rfl, [], [], [], rfl, rfl, completes_nil.mpr hcomplete, .nil⟩
    · rintro ⟨lexemes, rfl, front, octets, later, heq, rfl, hfront, hspelled⟩
      obtain ⟨rfl, rfl⟩ := List.append_eq_nil_iff.mp heq.symm
      rw [spelled_nil_iff.mp hspelled]
      exact ⟨completes_nil.mp hfront, rfl⟩
  | word left =>
    refine iff_of_false (by rintro ⟨⟩) ?_
    rintro ⟨lexemes, -, hne, octets, later, heq, -⟩
    exact hne (List.append_eq_nil_iff.mp heq.symm).1
  | string body escape =>
    refine iff_of_false (by rintro ⟨⟩) ?_
    rintro ⟨lexemes, -, front, octets, later, heq, -⟩
    exact absurd (List.append_eq_nil_iff.mp heq.symm).2 (List.cons_ne_nil 34 octets)

theorem awaits_of_rest? {mode : Mode} {reversed all : List Lexeme}
    (h : Scan.rest? ⟨mode, reversed⟩ cs = some all) :
    ∃ lexemes, all = reversed.reverse ++ lexemes ∧ Awaits mode cs lexemes := by
  induction cs generalizing mode reversed with
  | nil => exact rest?_nil_eq_some_iff.mp h
  | cons b cs ih =>
    rw [rest?_cons, Option.bind_eq_some_iff] at h
    obtain ⟨scan, hstep, hrest⟩ := h
    obtain ⟨emitted, hreversed, hbefore⟩ := awaits_of_step hstep
    obtain ⟨lexemes, rfl, hawaits⟩ := ih hrest
    refine ⟨emitted.reverse ++ lexemes, ?_, hbefore cs lexemes hawaits⟩
    rw [hreversed, List.reverse_append, List.append_assoc]

theorem rest?_of_awaits {mode : Mode} (h : Awaits mode cs lexemes) (hapart : Apart lexemes)
    (reversed : List Lexeme) : Scan.rest? ⟨mode, reversed⟩ cs = some (reversed.reverse ++ lexemes) := by
  induction cs generalizing mode lexemes reversed with
  | nil => exact rest?_nil_eq_some_iff.mpr ⟨lexemes, rfl, h⟩
  | cons b cs ih =>
    obtain ⟨mode', emitted, later, hstep, rfl, hlater⟩ := step_of_awaits h hapart reversed
    rw [rest?_cons, hstep, Option.bind_some, ih hlater hapart.of_append, List.reverse_append,
      List.append_assoc]

theorem scan?_eq_some_iff {octets : List UInt8} (hapart : Apart lexemes) :
    scan? octets = some lexemes ↔ Spelled octets lexemes := by
  constructor
  · intro h
    obtain ⟨later, rfl, hspelled⟩ : ∃ later, lexemes = [] ++ later ∧ Spelled octets later :=
      awaits_of_rest? h
    exact hspelled
  · intro h
    have hawaits : Awaits .between octets lexemes := h
    exact rest?_of_awaits hawaits hapart []

end Scanning

end LoginGateway.Login.Lexeme
