import LoginGateway.Proofs.Text.Cut
import LoginGateway.Proofs.Url.Address
import LoginGateway.Text.Quoted

namespace LoginGateway.Text.Quoted

def letters : List (Char × Char) :=
  [('\t', 't'), ('\r', 'r'), ('\n', 'n'), ('\x00', '0'), ('"', '"'), ('\\', '\\')]

/-- The three forms of an escape. -/
inductive Escapes (c : Char) : List Char → Prop
  | plain : c ≠ '\\' → Escapes c [c]
  | letter {d : Char} : (c, d) ∈ letters → Escapes c ['\\', d]
  | code : Escapes c ('\\' :: 'u' :: '\x7b' :: (Nat.toDigits 16 c.toNat ++ ['}']))

theorem escapes_escape (c : Char) : Escapes c (escape c) := by
  rw [escape]
  split
  · next h => exact h ▸ .letter (by simp [letters])
  split
  · next h => exact h ▸ .letter (by simp [letters])
  split
  · next h => exact h ▸ .letter (by simp [letters])
  split
  · next h => exact h ▸ .letter (by simp [letters])
  split
  · next h =>
    rw [Bool.or_eq_true, decide_eq_true_eq, decide_eq_true_eq] at h
    obtain rfl | rfl := h <;> exact .letter (by simp [letters])
  · next h =>
    split
    · exact .code
    · refine .plain ?_
      rintro rfl
      exact h rfl

variable {c d : Char} {cs ds xs ys : List Char}

theorem letters_inj {e : Char} (hc : (c, e) ∈ letters) (hd : (d, e) ∈ letters) : c = d := by
  have key : ∀ p ∈ letters, ∀ q ∈ letters, p.2 = q.2 → p.1 = q.1 := by
    decide
  exact key _ hc _ hd rfl

theorem letters_ne_u (h : (c, 'u') ∈ letters) : False := by
  have key : ∀ p ∈ letters, p.2 ≠ 'u' := by
    decide
  exact key _ h rfl

theorem close_not_mem_toDigits (n : Nat) : '}' ∉ Nat.toDigits 16 n := by
  intro h
  obtain ⟨k, hk, hdigit⟩ := mem_toDigits (by decide) h
  have key : ∀ k < 16, '}' ≠ Nat.digitChar k := by
    decide
  exact key k hk hdigit

theorem toDigits_inj {m n : Nat} (h : Nat.toDigits 16 m = Nat.toDigits 16 n) : m = n := by
  have hread := congrArg (Url.Ipv4.ofDigits? 16) h
  rw [Url.Ipv4.ofDigits?_toDigits (by decide) (by decide),
    Url.Ipv4.ofDigits?_toDigits (by decide) (by decide)] at hread
  exact Option.some.inj hread

/-- Where two texts begin with escapes and are equal, the escapes are those of one character. -/
theorem Escapes.append_inj (hc : Escapes c cs) (hd : Escapes d ds) (h : cs ++ xs = ds ++ ys) :
    c = d ∧ xs = ys := by
  cases hc with
  | plain hplain =>
    cases hd with
    | plain => simpa using h
    | letter | code => exact absurd (List.cons_eq_cons.mp h).1 hplain
  | letter hletter =>
    cases hd with
    | plain hplain => exact absurd (List.cons_eq_cons.mp h).1.symm hplain
    | letter hletter' =>
      obtain ⟨rfl, rfl⟩ : _ = _ ∧ xs = ys := by simpa using h
      exact ⟨letters_inj hletter hletter', rfl⟩
    | code =>
      obtain ⟨rfl, -⟩ : _ = 'u' ∧ _ := by simpa using h
      exact (letters_ne_u hletter).elim
  | code =>
    cases hd with
    | plain hplain => exact absurd (List.cons_eq_cons.mp h).1.symm hplain
    | letter hletter =>
      obtain ⟨rfl, -⟩ : 'u' = _ ∧ _ := by simpa using h
      exact (letters_ne_u hletter).elim
    | code =>
      have hdigits : Nat.toDigits 16 c.toNat ++ '}' :: xs = Nat.toDigits 16 d.toNat ++ '}' :: ys := by
        simpa using h
      have hcut := congrArg (cutAt? '}') hdigits
      rw [cutAt?_append (close_not_mem_toDigits _), cutAt?_append (close_not_mem_toDigits _)] at hcut
      obtain ⟨hsame, hrest⟩ := Prod.mk.inj (Option.some.inj hcut)
      exact ⟨Char.toNat_inj.mp (toDigits_inj hsame), hrest⟩

theorem Escapes.ne_nil (h : Escapes c cs) : cs ≠ [] := by
  cases h <;> exact List.cons_ne_nil _ _

theorem flatMap_escape_inj : xs.flatMap escape = ys.flatMap escape ↔ xs = ys := by
  constructor
  · intro h
    induction xs generalizing ys with
    | nil =>
      cases ys with
      | nil => rfl
      | cons d ys =>
        rw [List.flatMap_nil, List.flatMap_cons] at h
        exact absurd (List.append_eq_nil_iff.mp h.symm).1 (escapes_escape d).ne_nil
    | cons c xs ih =>
      cases ys with
      | nil =>
        rw [List.flatMap_nil, List.flatMap_cons] at h
        exact absurd (List.append_eq_nil_iff.mp h).1 (escapes_escape c).ne_nil
      | cons d ys =>
        rw [List.flatMap_cons, List.flatMap_cons] at h
        obtain ⟨rfl, hrest⟩ := (escapes_escape c).append_inj (escapes_escape d) h
        rw [ih hrest]
  · rintro rfl
    rfl

theorem quote_inj {s t : String} : quote s = quote t ↔ s = t := by
  rw [quote, quote, String.ofList_inj, List.cons_append, List.cons_append, List.cons_inj_right,
    List.append_left_inj, flatMap_escape_inj, String.toList_inj]

end LoginGateway.Text.Quoted
