import LoginGateway.Text.Cut

namespace LoginGateway.Text

variable {sep : Char} {a b : List Char}

theorem cutAt?_append (h : sep ∉ a) : cutAt? sep (a ++ sep :: b) = some (a, b) := by
  induction a with
  | nil => simp only [List.nil_append, cutAt?, if_true]
  | cons c cs ih =>
    obtain ⟨hc, hcs⟩ := List.ne_and_not_mem_of_not_mem_cons h
    rw [List.cons_append, cutAt?, if_neg hc.symm, ih hcs]
    rfl

theorem cutAt?_of_not_mem (h : sep ∉ a) : cutAt? sep a = none := by
  cases hcut : cutAt? sep a with
  | none => rfl
  | some parts =>
    obtain ⟨front, rest⟩ := parts
    rw [(cutAt?_eq_some hcut).1] at h
    exact absurd (List.mem_append_right front List.mem_cons_self) h

theorem cutAt?_eq_none_iff {cs : List Char} : cutAt? sep cs = none ↔ sep ∉ cs := by
  refine ⟨fun h hmem => ?_, cutAt?_of_not_mem⟩
  obtain ⟨a, b, rfl, ha⟩ := List.eq_append_cons_of_mem hmem
  rw [cutAt?_append ha] at h
  cases h

theorem cutAt?_eq_some_iff {cs : List Char} :
    cutAt? sep cs = some (a, b) ↔ cs = a ++ sep :: b ∧ sep ∉ a := by
  constructor
  · exact cutAt?_eq_some
  · rintro ⟨rfl, h⟩
    exact cutAt?_append h

theorem cutAt?_padded {left right : List Char} (hleft : sep ∉ left) (hright : sep ∉ right)
    (cs : List Char) :
    cutAt? sep (left ++ (cs ++ right)) =
      (cutAt? sep cs).map fun cut => (left ++ cut.1, cut.2 ++ right) := by
  cases hcut : cutAt? sep cs with
  | none =>
    refine cutAt?_of_not_mem fun hmem => ?_
    have hcs : sep ∈ cs := by
      simpa [hleft, hright] using hmem
    obtain ⟨a, b, rfl, ha⟩ := List.eq_append_cons_of_mem hcs
    rw [cutAt?_append ha] at hcut
    cases hcut
  | some parts =>
    obtain ⟨a, b⟩ := parts
    obtain ⟨rfl, ha⟩ := cutAt?_eq_some hcut
    have hfront : sep ∉ left ++ a := by
      simpa [hleft] using ha
    rw [List.append_assoc, ← List.append_assoc left, List.cons_append, cutAt?_append hfront]
    rfl

theorem splitOn_eq_singleton_iff {cs : List Char} : cs.splitOn sep = [a] ↔ cs = a ∧ sep ∉ a := by
  constructor
  · intro h
    by_cases hmem : sep ∈ cs
    · obtain ⟨front, back, rfl, hfront⟩ := List.eq_append_cons_of_mem hmem
      rw [List.splitOn_append_cons_self_of_not_mem hfront] at h
      exact absurd (List.cons_eq_cons.mp h).2 (List.splitOn_ne_nil sep back)
    · rw [List.splitOn_eq_singleton hmem] at h
      obtain rfl := List.singleton_inj.mp h
      exact ⟨rfl, hmem⟩
  · rintro ⟨rfl, hmem⟩
    exact List.splitOn_eq_singleton hmem

theorem splitOn_eq_pair_iff {cs : List Char} :
    cs.splitOn sep = [a, b] ↔ cs = a ++ sep :: b ∧ sep ∉ a ∧ sep ∉ b := by
  constructor
  · intro h
    by_cases hmem : sep ∈ cs
    · obtain ⟨front, back, rfl, hfront⟩ := List.eq_append_cons_of_mem hmem
      rw [List.splitOn_append_cons_self_of_not_mem hfront] at h
      obtain ⟨rfl, hback⟩ := List.cons_eq_cons.mp h
      obtain ⟨rfl, hlast⟩ := splitOn_eq_singleton_iff.mp hback
      exact ⟨rfl, hfront, hlast⟩
    · rw [List.splitOn_eq_singleton hmem] at h
      cases h
  · rintro ⟨rfl, hfront, hlast⟩
    rw [List.splitOn_append_cons_self_of_not_mem hfront, List.splitOn_eq_singleton hlast]

theorem not_mem_of_mem_splitOn {cs part : List Char} (h : part ∈ cs.splitOn sep) : sep ∉ part := by
  induction cs generalizing part with
  | nil =>
    rw [List.splitOn_nil, List.mem_singleton] at h
    rw [h]
    exact List.not_mem_nil
  | cons c cs ih =>
    rw [List.splitOn_cons_eq_if_modifyHead] at h
    split at h
    · obtain rfl | h := List.mem_cons.mp h
      · exact List.not_mem_nil
      · exact ih h
    · next hc =>
      obtain ⟨head, parts, hparts⟩ := List.exists_cons_of_ne_nil (List.splitOn_ne_nil sep cs)
      rw [hparts, List.modifyHead_cons] at h
      rw [hparts] at ih
      obtain rfl | h := List.mem_cons.mp h
      · rw [List.mem_cons, not_or]
        exact ⟨fun hsep => hc (beq_iff_eq.mpr hsep.symm), ih List.mem_cons_self⟩
      · exact ih (List.mem_cons_of_mem head h)

/-- The parts with a separator before each of them are the text with one before it. -/
theorem flatMap_splitOn (sep : Char) (cs : List Char) :
    (cs.splitOn sep).flatMap (sep :: ·) = sep :: cs := by
  induction cs with
  | nil => rfl
  | cons c cs ih =>
    rw [List.splitOn_cons_eq_if_modifyHead]
    split
    · next hsep =>
      obtain rfl := eq_of_beq hsep
      rw [List.flatMap_cons, ih]
      rfl
    · obtain ⟨part, parts, hparts⟩ := List.exists_cons_of_ne_nil (List.splitOn_ne_nil sep cs)
      rw [hparts, List.flatMap_cons, List.cons_append, List.cons.injEq] at ih
      rw [hparts, List.modifyHead_cons, List.flatMap_cons, List.cons_append, List.cons_append, ih.2]

end LoginGateway.Text
