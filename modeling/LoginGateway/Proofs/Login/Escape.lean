import LoginGateway.Proofs.Login.Lexeme
import LoginGateway.Proofs.Text.Utf8

namespace LoginGateway.Login.Lexeme

def escapes : List (UInt8 × Char) :=
  [(34, '"'), (92, '\\'), (47, '/'), (98, '\x08'), (102, '\x0c'), (110, '\n'), (114, '\r'), (116, '\t')]

def IsHighSurrogate (n : Nat) : Prop := 0xD800 ≤ n ∧ n ≤ 0xDBFF

def IsLowSurrogate (n : Nat) : Prop := 0xDC00 ≤ n ∧ n ≤ 0xDFFF

/-- The octets between two quotes stand for the characters. -/
inductive Denotes : List UInt8 → List Char → Prop
  | nil : Denotes [] []
  | plain {c raw cs} : c ≠ '\\' → Denotes raw cs → Denotes (String.utf8EncodeChar c ++ raw) (c :: cs)
  | letter {e c raw cs} : (e, c) ∈ escapes → Denotes raw cs → Denotes (92 :: e :: raw) (c :: cs)
  | code {a b c d n raw cs} : hex4? a b c d = some n → ¬ IsHighSurrogate n → ¬ IsLowSurrogate n →
      Denotes raw cs → Denotes (92 :: 117 :: a :: b :: c :: d :: raw) (Char.ofNat n :: cs)
  | pair {a b c d e f g h high low raw cs} : hex4? a b c d = some high → IsHighSurrogate high →
      hex4? e f g h = some low → IsLowSurrogate low → Denotes raw cs →
      Denotes (92 :: 117 :: a :: b :: c :: d :: 92 :: 117 :: e :: f :: g :: h :: raw)
        (Char.ofNat (0x10000 + (high - 0xD800) * 0x400 + (low - 0xDC00)) :: cs)

section Reading

variable {raw octets : List UInt8} {cs : List Char}

theorem unescape?_append (h : 92 ∉ octets) (raw : List UInt8) :
    unescape? (octets ++ raw) = (unescape? raw).map (octets ++ ·) := by
  induction octets with
  | nil => simp
  | cons b bs ih =>
    obtain ⟨hb, hbs⟩ := List.ne_and_not_mem_of_not_mem_cons h
    rw [List.cons_append, unescape?, ih hbs, Option.map_map]
    · rfl
    · rintro a b c d rest rfl
      exact absurd rfl hb
    · rintro e rest rfl
      exact absurd rfl hb

theorem backslash_not_mem {c : Char} (h : c ≠ '\\') : (92 : UInt8) ∉ String.utf8EncodeChar c := by
  intro hmem
  by_cases hascii : c.toNat < 128
  · rw [Text.Utf8.utf8EncodeChar_of_ascii hascii, List.mem_singleton] at hmem
    have hcode : 92 = c.toNat := by
      have := congrArg UInt8.toNat hmem
      rwa [UInt8.toNat_ofNat_of_lt' (Nat.lt_trans hascii (by decide))] at this
    exact h (Char.toNat_inj.mp hcode.symm)
  · exact absurd (Text.Utf8.le_of_mem_utf8EncodeChar (Nat.le_of_not_lt hascii) 92 hmem) (by decide)

theorem plainEscape?_of_mem {e : UInt8} {c : Char} (h : (e, c) ∈ escapes) :
    e ≠ 117 ∧ ∃ b, plainEscape? e = some b ∧ String.utf8EncodeChar c = [b] := by
  have key : ∀ p ∈ escapes, p.1 ≠ 117 ∧ p.2.toNat < 128 ∧
    plainEscape? p.1 = some (UInt8.ofNat p.2.toNat) := by
    decide
  obtain ⟨hcode, hascii, hescape⟩ := key (e, c) h
  exact ⟨hcode, _, hescape, Text.Utf8.utf8EncodeChar_of_ascii hascii⟩

theorem exists_of_plainEscape? {e b : UInt8} (h : plainEscape? e = some b) :
    ∃ c, (e, c) ∈ escapes ∧ String.utf8EncodeChar c = [b] := by
  have key : ∀ n < 256, ∀ x ∈ plainEscape? (UInt8.ofNat n),
      ∃ p ∈ escapes, p.1 = UInt8.ofNat n ∧ p.2.toNat < 128 ∧ UInt8.ofNat p.2.toNat = x := by
    decide +kernel
  obtain ⟨⟨e', c⟩, hmem, rfl, hascii, rfl⟩ := key e.toNat e.toNat_lt b (by rw [UInt8.ofNat_toNat, h]; rfl)
  rw [UInt8.ofNat_toNat] at hmem
  exact ⟨c, hmem, Text.Utf8.utf8EncodeChar_of_ascii hascii⟩

theorem unescape?_letter {e : UInt8} (h : e ≠ 117) (raw : List UInt8) :
    unescape? (92 :: e :: raw) = (plainEscape? e).bind fun b => (unescape? raw).map (b :: ·) := by
  rw [unescape?]
  · cases plainEscape? e with
    | none => rfl
    | some b => rfl
  · rintro a b c d rest rfl
    exact absurd rfl h

section Codes

variable {a b c d e f g h : UInt8} {n m : Nat}

theorem unescape?_code (hn : hex4? a b c d = some n) (hhigh : ¬ IsHighSurrogate n)
    (hlow : ¬ IsLowSurrogate n)
    (raw : List UInt8) :
    unescape? (92 :: 117 :: a :: b :: c :: d :: raw) =
      (unescape? raw).map (String.utf8EncodeChar (Char.ofNat n) ++ ·) := by
  rw [unescape?, hn]
  dsimp only
  rw [if_neg (by simpa [IsLowSurrogate] using hlow), if_neg (by simpa [IsHighSurrogate] using hhigh)]

theorem unescape?_pair (hn : hex4? a b c d = some n) (hhigh : IsHighSurrogate n)
    (hm : hex4? e f g h = some m) (hlow : IsLowSurrogate m) (raw : List UInt8) :
    unescape? (92 :: 117 :: a :: b :: c :: d :: 92 :: 117 :: e :: f :: g :: h :: raw) =
      (unescape? raw).map
        (String.utf8EncodeChar (Char.ofNat (0x10000 + (n - 0xD800) * 0x400 + (m - 0xDC00))) ++ ·) := by
  have hnot : ¬ IsLowSurrogate n := fun hn => absurd (Nat.le_trans hn.1 hhigh.2) (by decide)
  rw [unescape?, hn]
  dsimp only
  rw [if_neg (by simpa [IsLowSurrogate] using hnot), if_pos (by simpa [IsHighSurrogate] using hhigh)]
  split
  · next heq =>
    cases heq
    rw [hm]
    dsimp only
    rw [if_pos (by simpa [IsLowSurrogate] using hlow)]
  · next hother => exact absurd rfl (hother e f g h raw)

end Codes

theorem unescape?_of_denotes (h : Denotes raw cs) :
    unescape? raw = some (cs.flatMap String.utf8EncodeChar) := by
  induction h with
  | nil => rfl
  | plain hc _ ih =>
    rw [unescape?_append (backslash_not_mem hc), ih]
    rfl
  | letter hletter _ ih =>
    obtain ⟨hcode, b, hescape, hchar⟩ := plainEscape?_of_mem hletter
    rw [unescape?_letter hcode, hescape, Option.bind_some, ih, List.flatMap_cons, hchar]
    rfl
  | code hn hhigh hlow _ ih =>
    rw [unescape?_code hn hhigh hlow, ih]
    rfl
  | pair hn hhigh hm hlow _ ih =>
    rw [unescape?_pair hn hhigh hm hlow, ih]
    rfl

end Reading

section Writing

variable {raw octets : List UInt8} {cs : List Char}

theorem IsStringBody.of_code {a b c d : UInt8} (h : IsStringBody (92 :: 117 :: a :: b :: c :: d :: raw)) :
    IsStringBody raw := by
  generalize hoctets : 92 :: 117 :: a :: b :: c :: d :: raw = octets at h
  cases h with
  | nil => cases hoctets
  | plain _ _ hslash => exact absurd (List.cons_eq_cons.mp hoctets).1.symm hslash
  | letter hletter =>
    cases hoctets
    exact absurd hletter (by decide)
  | @code digits more hlength _ hmore =>
    match digits, hlength with
    | [_, _, _, _], _ =>
      cases hoctets
      exact hmore

theorem IsStringBody.of_letter {e : UInt8} (he : e ≠ 117) (h : IsStringBody (92 :: e :: raw)) :
    IsStringBody raw := by
  generalize hoctets : 92 :: e :: raw = octets at h
  cases h with
  | nil => cases hoctets
  | plain _ _ hslash => exact absurd (List.cons_eq_cons.mp hoctets).1.symm hslash
  | letter _ hmore =>
    cases hoctets
    exact hmore
  | code =>
    cases hoctets
    exact absurd rfl he

theorem IsStringBody.of_plain {b : UInt8} (hb : b ≠ 92) (h : IsStringBody (b :: raw)) :
    IsStringBody raw := by
  cases h with
  | plain _ _ _ hmore => exact hmore
  | letter | code => exact absurd rfl hb

/-- Where a character begins, no other one is left off. -/
theorem eq_nil_of_utf8EncodeChar_append {c : Char} {bs : List UInt8} (hbs : ∀ b ∈ bs, ¬ b.IsUTF8FirstByte)
    (h : String.utf8EncodeChar c ++ octets = bs ++ cs.flatMap String.utf8EncodeChar) :
    bs = [] ∧ ∃ later, cs = c :: later ∧ octets = later.flatMap String.utf8EncodeChar := by
  cases bs with
  | nil =>
    refine ⟨rfl, ?_⟩
    cases cs with
    | nil => exact absurd (List.append_eq_nil_iff.mp h).1 String.utf8EncodeChar_ne_nil
    | cons d later =>
      obtain ⟨rfl, hoctets⟩ := Text.Utf8.utf8EncodeChar_append_inj h
      exact ⟨later, rfl, hoctets⟩
  | cons x bs =>
    obtain ⟨b, more, hchar, hfirst, -⟩ := Text.Utf8.exists_utf8EncodeChar_eq_cons c
    rw [hchar, List.cons_append, List.cons_append] at h
    obtain ⟨rfl, -⟩ := List.cons_eq_cons.mp h
    exact absurd hfirst (hbs b List.mem_cons_self)

/-- What the octets of a string are read as begins with what is left of a character, and that stands in the
string as it is, since an escape gives whole characters. -/
theorem denotes_of_unescape? (h : IsStringBody raw) {bs : List UInt8} (hbs : ∀ b ∈ bs, ¬ b.IsUTF8FirstByte)
    (hoctets : unescape? raw = some (bs ++ cs.flatMap String.utf8EncodeChar)) :
    ∃ rest, raw = bs ++ rest ∧ Denotes rest cs := by
  have hnil : ∀ b ∈ ([] : List UInt8), ¬ b.IsUTF8FirstByte := List.forall_mem_nil _
  fun_induction unescape? raw generalizing bs cs with
  | case4 a b c d n hn hlow hhigh e f g h' rest m hm hlow' ih =>
    obtain ⟨octets, hrest, heq⟩ := Option.map_eq_some_iff.mp hoctets
    obtain ⟨rfl, later, rfl, rfl⟩ := eq_nil_of_utf8EncodeChar_append hbs heq
    obtain ⟨more, rfl, hlater⟩ := ih h.of_code.of_code hnil hrest
    refine ⟨_, rfl, .pair hn ?_ hm ?_ hlater⟩
    · simpa [IsHighSurrogate] using hhigh
    · simpa [IsLowSurrogate] using hlow'
  | case7 a b c d rest n hn hlow hhigh ih =>
    obtain ⟨octets, hrest, heq⟩ := Option.map_eq_some_iff.mp hoctets
    obtain ⟨rfl, later, rfl, rfl⟩ := eq_nil_of_utf8EncodeChar_append hbs heq
    obtain ⟨more, rfl, hlater⟩ := ih h.of_code hnil hrest
    refine ⟨_, rfl, .code hn ?_ ?_ hlater⟩
    · simpa [IsHighSurrogate] using hhigh
    · simpa [IsLowSurrogate] using hlow
  | case8 e rest _ b hescape ih =>
    obtain ⟨c, hmem, hchar⟩ := exists_of_plainEscape? hescape
    obtain ⟨octets, hrest, heq⟩ := Option.map_eq_some_iff.mp hoctets
    have hwhole : String.utf8EncodeChar c ++ octets = bs ++ cs.flatMap String.utf8EncodeChar := by
      rw [hchar]
      exact heq
    obtain ⟨rfl, later, rfl, rfl⟩ := eq_nil_of_utf8EncodeChar_append hbs hwhole
    obtain ⟨more, rfl, hlater⟩ := ih (h.of_letter (plainEscape?_of_mem hmem).1) hnil hrest
    exact ⟨_, rfl, .letter hmem hlater⟩
  | case10 b rest _ hletter ih =>
    have hb : b ≠ 92 := by
      rintro rfl
      cases rest with
      | nil =>
        cases h with
        | plain _ _ hslash => exact hslash rfl
      | cons e rest => exact hletter e rest rfl rfl
    obtain ⟨octets, hrest, heq⟩ := Option.map_eq_some_iff.mp hoctets
    -- the octet is the first of a character, the rest of which is then left, or one of what has been left
    cases bs with
    | nil =>
      cases cs with
      | nil => cases heq
      | cons c later =>
        obtain ⟨b', bs, hchar, -, hbs⟩ := Text.Utf8.exists_utf8EncodeChar_eq_cons c
        rw [List.nil_append, List.flatMap_cons, hchar, List.cons_append] at heq
        obtain ⟨rfl, rfl⟩ := List.cons_eq_cons.mp heq
        obtain ⟨more, rfl, hlater⟩ := ih (h.of_plain hb) hbs hrest
        have hc : c ≠ '\\' := by
          rintro rfl
          exact hb (List.cons_eq_cons.mp hchar).1.symm
        have hdenotes := Denotes.plain hc hlater
        rw [hchar] at hdenotes
        exact ⟨_, rfl, hdenotes⟩
    | cons x bs =>
      obtain ⟨rfl, rfl⟩ := List.cons_eq_cons.mp heq
      obtain ⟨more, rfl, hlater⟩ := ih (h.of_plain hb) (List.forall_mem_cons.mp hbs).2 hrest
      exact ⟨more, rfl, hlater⟩
  | case11 =>
    obtain ⟨rfl, hnone⟩ := List.append_eq_nil_iff.mp (Option.some.inj hoctets).symm
    cases cs with
    | nil => exact ⟨[], rfl, .nil⟩
    | cons c later =>
      rw [List.flatMap_cons] at hnone
      exact absurd (List.append_eq_nil_iff.mp hnone).1 String.utf8EncodeChar_ne_nil
  | case1 | case2 | case3 | case5 | case6 | case9 => cases hoctets

theorem decode?_eq_some_iff (h : IsStringBody raw) {text : String} :
    decode? raw = some text ↔ Denotes raw text.toList := by
  rw [decode?, Option.bind_eq_bind, Option.bind_eq_some_iff]
  simp only [Text.Utf8.decode?_eq_some_iff, exists_eq_right]
  constructor
  · intro hoctets
    obtain ⟨more, rfl, hdenotes⟩ : ∃ rest, raw = [] ++ rest ∧ Denotes rest text.toList :=
      denotes_of_unescape? h (List.forall_mem_nil _) hoctets
    exact hdenotes
  · exact unescape?_of_denotes

end Writing

end LoginGateway.Login.Lexeme
