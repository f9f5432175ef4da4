import LoginGateway.Login.Lexeme

namespace LoginGateway.Login.Lexeme

open NumberPart

section Grammar

variable (cs : List UInt8)

def Digits : Prop := ∀ b ∈ cs, isDigit b = true

def IsWhole : Prop :=
  cs = [48] ∨ ∃ d ds, cs = d :: ds ∧ isDigit d = true ∧ d ≠ 48 ∧ Digits ds

def IsFraction : Prop := cs = [] ∨ ∃ ds, cs = 46 :: ds ∧ ds ≠ [] ∧ Digits ds

def IsExponent : Prop :=
  cs = [] ∨ ∃ e sign ds, cs = e :: (sign ++ ds) ∧ (e = 101 ∨ e = 69) ∧
    sign ∈ [[], [43], [45]] ∧ ds ≠ [] ∧ Digits ds

def IsNumber : Prop :=
  ∃ sign whole fraction exponent, cs = sign ++ (whole ++ (fraction ++ exponent)) ∧
    sign ∈ [[], [45]] ∧ IsWhole whole ∧ IsFraction fraction ∧ IsExponent exponent

end Grammar

def IsTail (cs : List UInt8) : Prop :=
  ∃ fraction exponent, cs = fraction ++ exponent ∧ IsFraction fraction ∧ IsExponent exponent

/-- What may follow a part of a number up to its end. -/
def Completes (cs : List UInt8) : NumberPart → Prop
  | .sign => ∃ whole tail, cs = whole ++ tail ∧ IsWhole whole ∧ IsTail tail
  | .zero => IsTail cs
  | .whole => ∃ ds tail, cs = ds ++ tail ∧ Digits ds ∧ IsTail tail
  | .point => ∃ ds tail, cs = ds ++ tail ∧ ds ≠ [] ∧ Digits ds ∧ IsExponent tail
  | .fraction => ∃ ds tail, cs = ds ++ tail ∧ Digits ds ∧ IsExponent tail
  | .exponent => ∃ sign ds, cs = sign ++ ds ∧ sign ∈ [[], [43], [45]] ∧ ds ≠ [] ∧ Digits ds
  | .exponentSign => cs ≠ [] ∧ Digits cs
  | .exponentDigits => Digits cs

section Steps

variable {b : UInt8} {cs : List UInt8} {q : List UInt8 → Prop}

theorem digits_cons : Digits (b :: cs) ↔ isDigit b = true ∧ Digits cs := List.forall_mem_cons

theorem exists_digits_cons :
    (∃ ds tail, b :: cs = ds ++ tail ∧ Digits ds ∧ q tail) ↔
      (isDigit b = true ∧ ∃ ds tail, cs = ds ++ tail ∧ Digits ds ∧ q tail) ∨ q (b :: cs) := by
  constructor
  · rintro ⟨ds, tail, hcs, hds, htail⟩
    obtain ⟨rfl, rfl⟩ | ⟨ds, rfl, rfl⟩ := List.cons_eq_append_iff.mp hcs
    · exact .inr htail
    · exact .inl ⟨(digits_cons.mp hds).1, ds, tail, rfl, (digits_cons.mp hds).2, htail⟩
  · rintro (⟨hb, ds, tail, rfl, hds, htail⟩ | hq)
    · exact ⟨b :: ds, tail, rfl, digits_cons.mpr ⟨hb, hds⟩, htail⟩
    · exact ⟨[], b :: cs, rfl, List.forall_mem_nil _, hq⟩

theorem completes_point_cons : Completes (b :: cs) .point ↔ isDigit b = true ∧ Completes cs .fraction := by
  constructor
  · rintro ⟨ds, tail, hcs, hne, hds, htail⟩
    obtain ⟨rfl, -⟩ | ⟨ds, rfl, rfl⟩ := List.cons_eq_append_iff.mp hcs
    · exact absurd rfl hne
    · exact ⟨(digits_cons.mp hds).1, ds, tail, rfl, (digits_cons.mp hds).2, htail⟩
  · rintro ⟨hb, ds, tail, rfl, hds, htail⟩
    exact ⟨b :: ds, tail, rfl, List.cons_ne_nil b ds, digits_cons.mpr ⟨hb, hds⟩, htail⟩

theorem completes_sign_cons : Completes (b :: cs) .sign ↔
    (b = 48 ∧ Completes cs .zero) ∨ isDigit b = true ∧ b ≠ 48 ∧ Completes cs .whole := by
  constructor
  · rintro ⟨whole, tail, hcs, rfl | ⟨d, ds, rfl, hd, hzero, hds⟩, htail⟩
    · obtain ⟨rfl, rfl⟩ := List.cons_eq_cons.mp hcs
      exact .inl ⟨rfl, htail⟩
    · obtain ⟨rfl, rfl⟩ := List.cons_eq_cons.mp hcs
      exact .inr ⟨hd, hzero, ds, tail, rfl, hds, htail⟩
  · rintro (⟨rfl, htail⟩ | ⟨hd, hzero, ds, tail, rfl, hds, htail⟩)
    · exact ⟨[48], cs, rfl, .inl rfl, htail⟩
    · exact ⟨b :: ds, tail, rfl, .inr ⟨b, ds, rfl, hd, hzero, hds⟩, htail⟩

theorem completes_exponent_cons : Completes (b :: cs) .exponent ↔
    ((b = 43 ∨ b = 45) ∧ Completes cs .exponentSign) ∨ isDigit b = true ∧ Digits cs := by
  simp only [Completes, List.mem_cons, List.not_mem_nil, or_false]
  constructor
  · rintro ⟨sign, ds, hcs, rfl | rfl | rfl, hne, hds⟩
    · rw [List.nil_append] at hcs
      exact .inr (digits_cons.mp (hcs ▸ hds))
    · obtain ⟨rfl, rfl⟩ := List.cons_eq_cons.mp hcs
      exact .inl ⟨.inl rfl, hne, hds⟩
    · obtain ⟨rfl, rfl⟩ := List.cons_eq_cons.mp hcs
      exact .inl ⟨.inr rfl, hne, hds⟩
  · rintro (⟨rfl | rfl, hne, hds⟩ | hds)
    · exact ⟨[43], cs, rfl, .inr (.inl rfl), hne, hds⟩
    · exact ⟨[45], cs, rfl, .inr (.inr rfl), hne, hds⟩
    · exact ⟨[], b :: cs, rfl, .inl rfl, List.cons_ne_nil b cs, digits_cons.mpr hds⟩

theorem isExponent_cons :
    IsExponent (b :: cs) ↔ (b = 101 ∨ b = 69) ∧ Completes cs .exponent := by
  constructor
  · rintro (hnil | ⟨e, sign, ds, hcs, he, hsign, hne, hds⟩)
    · cases hnil
    · obtain ⟨rfl, rfl⟩ := List.cons_eq_cons.mp hcs
      exact ⟨he, sign, ds, rfl, hsign, hne, hds⟩
  · rintro ⟨he, sign, ds, rfl, hsign, hne, hds⟩
    exact .inr ⟨b, sign, ds, rfl, he, hsign, hne, hds⟩

theorem isTail_cons :
    IsTail (b :: cs) ↔ (b = 46 ∧ Completes cs .point) ∨ IsExponent (b :: cs) := by
  constructor
  · rintro ⟨fraction, exponent, hcs, rfl | ⟨ds, rfl, hne, hds⟩, hexponent⟩
    · rw [List.nil_append] at hcs
      exact .inr (hcs ▸ hexponent)
    · obtain ⟨rfl, rfl⟩ := List.cons_eq_cons.mp hcs
      exact .inl ⟨rfl, ds, exponent, rfl, hne, hds, hexponent⟩
  · rintro (⟨rfl, ds, tail, rfl, hne, hds, htail⟩ | hexponent)
    · exact ⟨46 :: ds, tail, rfl, .inr ⟨ds, rfl, hne, hds⟩, htail⟩
    · exact ⟨[], b :: cs, rfl, .inl rfl, hexponent⟩

theorem exists_ite_eq_some {α : Type} {c : Prop} [Decidable c] {a : α} {o : Option α} {q : α → Prop} :
    (∃ x, (if c then some a else o) = some x ∧ q x) ↔ (c ∧ q a) ∨ ¬ c ∧ ∃ x, o = some x ∧ q x := by
  split
  · next hc => simp [hc]
  · next hc => simp [hc]

theorem completes_cons {part : NumberPart} :
    Completes (b :: cs) part ↔ ∃ next, part.next? b = some next ∧ Completes cs next := by
  have hdigit (h : isDigit b = true) : b ≠ 46 ∧ b ≠ 101 ∧ b ≠ 69 ∧ b ≠ 43 ∧ b ≠ 45 := by
    refine ⟨?_, ?_, ?_, ?_, ?_⟩ <;> rintro rfl <;> cases h
  have htail : IsTail (b :: cs) ↔ ∃ next, next?.afterWhole b = some next ∧ Completes cs next := by
    rw [isTail_cons, isExponent_cons, next?.afterWhole, exists_ite_eq_some, exists_ite_eq_some]
    grind
  cases part with
  | sign =>
    rw [completes_sign_cons, next?, exists_ite_eq_some, exists_ite_eq_some]
    grind
  | zero => exact htail
  | whole =>
    have hnot (h : isDigit b = true) : next?.afterWhole b = none := by
      grind [next?.afterWhole]
    rw [Completes, exists_digits_cons, htail, next?, exists_ite_eq_some]
    grind [Completes]
  | point =>
    rw [completes_point_cons, next?, exists_ite_eq_some]
    grind
  | fraction =>
    rw [Completes, exists_digits_cons, isExponent_cons, next?, exists_ite_eq_some, exists_ite_eq_some]
    grind [Completes]
  | exponent =>
    rw [completes_exponent_cons, next?, exists_ite_eq_some, exists_ite_eq_some]
    grind [Completes]
  | exponentSign =>
    rw [Completes, digits_cons, next?, exists_ite_eq_some]
    grind [Completes]
  | exponentDigits =>
    rw [Completes, digits_cons, next?, exists_ite_eq_some]
    grind [Completes]

theorem completes_nil {part : NumberPart} : Completes [] part ↔ part.complete = true := by
  have hnil : IsExponent [] := .inl rfl
  have htail : IsTail [] := ⟨[], [], rfl, .inl rfl, hnil⟩
  have hdigits : Digits [] := List.forall_mem_nil _
  cases part with
  | zero => exact iff_of_true htail rfl
  | whole => exact iff_of_true ⟨[], [], rfl, hdigits, htail⟩ rfl
  | fraction => exact iff_of_true ⟨[], [], rfl, hdigits, hnil⟩ rfl
  | exponentDigits => exact iff_of_true hdigits rfl
  | sign =>
    refine iff_of_false ?_ Bool.false_ne_true
    rintro ⟨whole, tail, hcs, rfl | ⟨d, ds, rfl, -⟩, -⟩ <;> cases hcs
  | point =>
    refine iff_of_false ?_ Bool.false_ne_true
    rintro ⟨ds, tail, hcs, hne, -⟩
    exact hne (List.append_eq_nil_iff.mp hcs.symm).1
  | exponent =>
    refine iff_of_false ?_ Bool.false_ne_true
    rintro ⟨sign, ds, hcs, -, hne, -⟩
    exact hne (List.append_eq_nil_iff.mp hcs.symm).2
  | exponentSign => exact iff_of_false (fun h => h.1 rfl) Bool.false_ne_true

theorem isNumber_iff : IsNumber cs ↔
    Completes cs .sign ∨ ∃ more, cs = 45 :: more ∧ Completes more .sign := by
  simp only [IsNumber, List.mem_cons, List.not_mem_nil, or_false]
  constructor
  · rintro ⟨sign, whole, fraction, exponent, rfl, rfl | rfl, hwhole, hfraction, hexponent⟩
    · exact .inl ⟨whole, _, rfl, hwhole, fraction, exponent, rfl, hfraction, hexponent⟩
    · exact .inr ⟨_, rfl, whole, _, rfl, hwhole, fraction, exponent, rfl, hfraction, hexponent⟩
  · rintro (⟨whole, tail, rfl, hwhole, fraction, exponent, rfl, hfraction, hexponent⟩ |
      ⟨more, rfl, whole, tail, rfl, hwhole, fraction, exponent, rfl, hfraction, hexponent⟩)
    · exact ⟨[], whole, fraction, exponent, rfl, .inl rfl, hwhole, hfraction, hexponent⟩
    · exact ⟨[45], whole, fraction, exponent, rfl, .inr rfl, hwhole, hfraction, hexponent⟩

end Steps

end LoginGateway.Login.Lexeme
