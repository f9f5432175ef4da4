import LoginGateway.Proofs.Lists
import LoginGateway.Text.Blank

namespace LoginGateway.Text

variable {p : Char → Bool}

theorem trimEndBy_eq_self {cs : List Char} (h : ∀ c ∈ cs.getLast?, p c = false) :
    trimEndBy p cs = cs := by
  have hreverse : ∀ c ∈ cs.reverse.head?, p c = false := by
    rw [List.head?_reverse]
    exact h
  rw [trimEndBy, Lists.dropWhile_eq_self hreverse, List.reverse_reverse]

/-- Where nothing is trimmed from the front, only the end is trimmed. -/
theorem trimBy_eq_trimEndBy {cs : List Char} (h : ∀ c ∈ cs.head?, p c = false) :
    trimBy p cs = trimEndBy p cs := by
  rw [trimBy, Lists.dropWhile_eq_self h, trimEndBy]

theorem trimBy_eq_self {cs : List Char} (hhead : ∀ c ∈ cs.head?, p c = false)
    (hlast : ∀ c ∈ cs.getLast?, p c = false) : trimBy p cs = cs := by
  rw [trimBy_eq_trimEndBy hhead, trimEndBy_eq_self hlast]

/-- Neither the first character nor the last one satisfies `p`. -/
structure Trimmed (p : Char → Bool) (cs : List Char) : Prop where
  head : ∀ c ∈ cs.head?, p c = false
  last : ∀ c ∈ cs.getLast?, p c = false

instance (p : Char → Bool) (cs : List Char) : Decidable (Trimmed p cs) :=
  decidable_of_iff ((cs.head?.all (!p ·) && cs.getLast?.all (!p ·)) = true) <| by
    rw [Bool.and_eq_true, Option.all_eq_true, Option.all_eq_true]
    simp only [Bool.not_eq_true']
    exact ⟨fun h => ⟨h.1, h.2⟩, fun h => ⟨h.head, h.last⟩⟩

theorem trimmed_nil : Trimmed p [] := ⟨by simp, by simp⟩

theorem trimmed_of_forall {cs : List Char} (h : ∀ c ∈ cs, p c = false) : Trimmed p cs where
  head := fun c hc => h c (List.mem_of_mem_head? hc)
  last := fun c hc => h c (List.mem_of_mem_getLast? hc)

theorem trimBy_of_forall {cs : List Char} (h : ∀ c ∈ cs, p c = false) : trimBy p cs = cs :=
  trimBy_eq_self (trimmed_of_forall h).head (trimmed_of_forall h).last

theorem trimEndBy_append {front : List Char} (h : ∀ c ∈ front.getLast?, p c = false)
    (back : List Char) : trimEndBy p (front ++ back) = front ++ trimEndBy p back := by
  have hfront : front.reverse.dropWhile p = front.reverse := by
    apply Lists.dropWhile_eq_self
    rw [List.head?_reverse]
    exact h
  rw [trimEndBy, trimEndBy, List.reverse_append, List.dropWhile_append]
  split
  · next hempty =>
    rw [List.isEmpty_iff.mp hempty, hfront, List.reverse_reverse, List.reverse_nil, List.append_nil]
  · rw [List.reverse_append, List.reverse_reverse]

theorem trimEndBy_append_of_mem {back : List Char} {c : Char} (hmem : c ∈ back) (hc : p c = false)
    (front : List Char) : trimEndBy p (front ++ back) = front ++ trimEndBy p back := by
  obtain ⟨left, right, rfl⟩ := List.append_of_mem hmem
  have hcut (cs : List Char) :
      trimEndBy p (cs ++ (left ++ c :: right)) = cs ++ (left ++ [c]) ++ trimEndBy p right := by
    have hlast : ∀ d ∈ (cs ++ (left ++ [c])).getLast?, p d = false := by
      simp [hc]
    rw [← trimEndBy_append hlast]
    simp
  have hback := hcut []
  rw [List.nil_append, List.nil_append] at hback
  rw [hcut, hback, List.append_assoc]

theorem trimEndBy_append_eq (p : Char → Bool) (cs : List Char) :
    ∃ back, trimEndBy p cs ++ back = cs := by
  obtain ⟨back, hback⟩ := List.dropWhile_suffix (l := cs.reverse) p
  refine ⟨back.reverse, ?_⟩
  rw [trimEndBy, ← List.reverse_append, hback, List.reverse_reverse]

theorem head?_trimEndBy {cs : List Char} {c : Char} (h : c ∈ (trimEndBy p cs).head?) : c ∈ cs.head? := by
  obtain ⟨back, hback⟩ := trimEndBy_append_eq p cs
  rw [← hback, List.head?_append, Option.mem_def.mp h]
  rfl

theorem last_trimEndBy (p : Char → Bool) (cs : List Char) :
    ∀ c ∈ (trimEndBy p cs).getLast?, p c = false := by
  intro c hc
  have hstop := List.head?_dropWhile_not p cs.reverse
  rw [trimEndBy, List.getLast?_reverse] at hc
  rw [Option.mem_def.mp hc] at hstop
  exact hstop

theorem trimEndBy_eq_self_iff {cs : List Char} :
    trimEndBy p cs = cs ↔ ∀ c ∈ cs.getLast?, p c = false := by
  constructor
  · intro h
    rw [← h]
    exact last_trimEndBy p cs
  · exact trimEndBy_eq_self

theorem trimmed_trimBy (p : Char → Bool) (cs : List Char) : Trimmed p (trimBy p cs) where
  head := by
    intro c hc
    have hstop := List.head?_dropWhile_not p cs
    rw [Option.mem_def.mp (head?_trimEndBy hc)] at hstop
    exact hstop
  last := last_trimEndBy p (cs.dropWhile p)

theorem length_trimBy_le (p : Char → Bool) (cs : List Char) : (trimBy p cs).length ≤ cs.length := by
  rw [trimBy, List.length_reverse]
  refine Nat.le_trans (List.dropWhile_suffix p).length_le ?_
  rw [List.length_reverse]
  exact (List.dropWhile_suffix p).length_le

theorem mem_trimEndBy {cs : List Char} {c : Char} (h : c ∈ cs) (hc : p c = false) :
    c ∈ trimEndBy p cs := by
  rw [trimEndBy, List.mem_reverse]
  rw [← List.mem_reverse, ← List.takeWhile_append_dropWhile (p := p) (l := cs.reverse)] at h
  obtain hfront | hback := List.mem_append.mp h
  · rw [List.all_eq_true.mp List.all_takeWhile c hfront] at hc
    cases hc
  · exact hback

theorem mem_of_mem_trimEndBy {cs : List Char} {c : Char} (h : c ∈ trimEndBy p cs) : c ∈ cs := by
  obtain ⟨back, hback⟩ := trimEndBy_append_eq p cs
  rw [← hback]
  exact List.mem_append_left back h

theorem exists_trimBy (p : Char → Bool) (cs : List Char) : ∃ left right,
    cs = left ++ (trimBy p cs ++ right) ∧ (∀ c ∈ left, p c = true) ∧ ∀ c ∈ right, p c = true := by
  refine ⟨cs.takeWhile p, ((cs.dropWhile p).reverse.takeWhile p).reverse, ?_, ?_, ?_⟩
  · rw [trimBy, ← List.reverse_append, List.takeWhile_append_dropWhile, List.reverse_reverse,
      List.takeWhile_append_dropWhile]
  · exact List.all_eq_true.mp List.all_takeWhile
  · intro c hc
    exact List.all_eq_true.mp List.all_takeWhile c (List.mem_reverse.mp hc)

theorem trimBy_append_left {left : List Char} (h : ∀ c ∈ left, p c = true) (cs : List Char) :
    trimBy p (left ++ cs) = trimBy p cs := by
  rw [trimBy, trimBy, List.dropWhile_append_of_pos h]

theorem trimEndBy_append_right {right : List Char} (h : ∀ c ∈ right, p c = true) (cs : List Char) :
    trimEndBy p (cs ++ right) = trimEndBy p cs := by
  have hreverse : ∀ c ∈ right.reverse, p c = true := fun c hc => h c (List.mem_reverse.mp hc)
  rw [trimEndBy, trimEndBy, List.reverse_append, List.dropWhile_append_of_pos hreverse]

theorem trimBy_append_right {right : List Char} (h : ∀ c ∈ right, p c = true) (cs : List Char) :
    trimBy p (cs ++ right) = trimBy p cs := by
  have htrim (ds : List Char) : trimBy p ds = trimEndBy p (ds.dropWhile p) := rfl
  rw [htrim, htrim, List.dropWhile_append]
  split
  · next hempty =>
    rw [List.isEmpty_iff.mp hempty, ← List.append_nil right, List.dropWhile_append_of_pos h,
      List.dropWhile_nil]
  · exact trimEndBy_append_right h _

theorem Trimmed.trimBy_padded {left right cs : List Char} (h : Trimmed p cs)
    (hleft : ∀ c ∈ left, p c = true)
    (hright : ∀ c ∈ right, p c = true) : trimBy p (left ++ (cs ++ right)) = cs := by
  rw [trimBy_append_left hleft, trimBy_append_right hright, trimBy_eq_self h.head h.last]

theorem trimBy_eq_nil_iff {cs : List Char} : trimBy p cs = [] ↔ ∀ c ∈ cs, p c = true := by
  constructor
  · intro h
    obtain ⟨left, right, hcs, hleft, hright⟩ := exists_trimBy p cs
    rw [h, List.nil_append] at hcs
    rw [hcs]
    exact List.forall_mem_append.mpr ⟨hleft, hright⟩
  · intro h
    rw [← List.append_nil cs, trimBy_append_left h]
    rfl

end LoginGateway.Text
