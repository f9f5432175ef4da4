namespace LoginGateway.Lists

section Cutting

variable {α : Type} {p : α → Bool} {xs ys : List α}

theorem dropWhile_eq_self (h : ∀ y ∈ ys.head?, p y = false) : ys.dropWhile p = ys := by
  cases ys with
  | nil => rfl
  | cons y ys => rw [List.dropWhile_cons_of_neg (by simp [h y rfl])]

theorem takeWhile_eq_nil (h : ∀ y ∈ ys.head?, p y = false) : ys.takeWhile p = [] := by
  cases ys with
  | nil => rfl
  | cons y ys => rw [List.takeWhile_cons_of_neg (by simp [h y rfl])]

theorem span_append (hxs : ∀ x ∈ xs, p x = true) (hys : ∀ y ∈ ys.head?, p y = false) :
    (xs ++ ys).takeWhile p = xs ∧ (xs ++ ys).dropWhile p = ys := by
  rw [List.takeWhile_append_of_pos hxs, List.dropWhile_append_of_pos hxs, takeWhile_eq_nil hys,
    dropWhile_eq_self hys, List.append_nil]
  exact ⟨rfl, rfl⟩

theorem forall_head?_append {q : α → Prop} (hxs : ∀ x ∈ xs.head?, q x) (hys : ∀ y ∈ ys.head?, q y) :
    ∀ z ∈ (xs ++ ys).head?, q z := by
  cases xs with
  | nil => exact hys
  | cons x xs => exact hxs

theorem eq_cons_or_of_mem {x : α} (h : x ∈ xs) :
    (∃ later, xs = x :: later) ∨ ∃ before y after, xs = before ++ y :: x :: after := by
  obtain ⟨before, after, rfl⟩ := List.append_of_mem h
  obtain rfl | ⟨front, y, rfl⟩ := List.eq_nil_or_concat before
  · exact .inl ⟨after, rfl⟩
  · refine .inr ⟨front, y, after, ?_⟩
    rw [List.concat_eq_append, List.append_assoc]
    rfl

end Cutting

variable {α β γ : Type} {f : β → Option γ} {g : α → β} {k : α → γ} {l : List α}

theorem mapM_map_eq_some (h : ∀ a ∈ l, f (g a) = some (k a)) : (l.map g).mapM f = some (l.map k) := by
  induction l with
  | nil => rfl
  | cons a l ih =>
    obtain ⟨ha, hl⟩ := List.forall_mem_cons.mp h
    rw [List.map_cons, List.mapM_cons, ha, ih hl]
    rfl

/-- Where each element is read as it should be, or not at all, so is the list. -/
theorem mapM_map_eq_some_or (h : ∀ a ∈ l, f (g a) = some (k a) ∨ f (g a) = none) :
    (l.map g).mapM f = some (l.map k) ∨ (l.map g).mapM f = none := by
  induction l with
  | nil => exact .inl rfl
  | cons a l ih =>
    obtain ⟨ha, hl⟩ := List.forall_mem_cons.mp h
    rw [List.map_cons, List.mapM_cons]
    obtain ha | ha := ha
    · obtain ih | ih := ih hl
      · refine .inl ?_
        rw [ha, ih]
        rfl
      · refine .inr ?_
        rw [ha, ih]
        rfl
    · refine .inr ?_
      rw [ha]
      rfl

theorem exists_of_mem_mapM {f : α → Option β} {l : List α} {bs : List β} (h : l.mapM f = some bs)
    {b : β} (hb : b ∈ bs) : ∃ a ∈ l, f a = some b := by
  induction l generalizing bs with
  | nil =>
    cases h
    cases hb
  | cons a l ih =>
    simp only [List.mapM_cons, Option.bind_eq_bind, Option.bind_eq_some_iff, Option.pure_def,
      Option.some.injEq] at h
    obtain ⟨c, hc, cs, hcs, rfl⟩ := h
    obtain rfl | hb := List.mem_cons.mp hb
    · exact ⟨a, List.mem_cons_self, hc⟩
    · obtain ⟨d, hd, hread⟩ := ih hcs hb
      exact ⟨d, List.mem_cons_of_mem a hd, hread⟩

theorem mem_intercalate {sep a : α} {ls : List (List α)} (h : a ∈ [sep].intercalate ls) :
    a = sep ∨ ∃ l ∈ ls, a ∈ l := by
  induction ls with
  | nil => cases h
  | cons l ls ih =>
    cases ls with
    | nil =>
      rw [List.intercalate_singleton] at h
      exact .inr ⟨l, List.mem_cons_self, h⟩
    | cons l' ls =>
      rw [List.intercalate_cons_cons] at h
      obtain h | h := List.mem_append.mp h
      · obtain h | h := List.mem_append.mp h
        · exact .inr ⟨l, List.mem_cons_self, h⟩
        · exact .inl (List.mem_singleton.mp h)
      · obtain hsep | ⟨m, hm, ha⟩ := ih h
        · exact .inl hsep
        · exact .inr ⟨m, List.mem_cons_of_mem l hm, ha⟩

end LoginGateway.Lists
