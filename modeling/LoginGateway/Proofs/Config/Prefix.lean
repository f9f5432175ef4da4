import LoginGateway.Proofs.Config
import LoginGateway.Proofs.Text.Blank

namespace LoginGateway.Config

open Text

/-- What is left of a path without the blanks around it and without the slashes around the rest. -/
def core (path : String) : List Char := trimBy (· == '/') (trimBlank path.toList)

/-- `inner` stands in `path` between slashes, and there are only blanks outside of these. -/
def Encloses (path inner : List Char) : Prop :=
  ∃ left front back right, path = left ++ ((front ++ (inner ++ back)) ++ right) ∧
    (∀ c ∈ left ++ right, isBlank c = true) ∧ (∀ c ∈ front ++ back, c = '/') ∧
    Trimmed isBlank (front ++ (inner ++ back)) ∧ Trimmed (· == '/') inner

section Form

variable {path : String}

theorem toList_normalPrefix (path : String) :
    (normalPrefix path).toList = if core path = [] then [] else '/' :: core path := by
  rw [normalPrefix, ← core]
  split
  · next hcore => rw [hcore, if_pos rfl, String.toList_empty]
  · next hcore => rw [String.toList_ofList, if_neg hcore]

theorem normalPrefix_eq_empty_iff : normalPrefix path = "" ↔ core path = [] := by
  rw [← String.toList_inj, toList_normalPrefix, String.toList_empty]
  by_cases hcore : core path = [] <;> simp [hcore]

theorem normalPrefix_inj {other : String} :
    normalPrefix path = normalPrefix other ↔ core path = core other := by
  rw [← String.toList_inj, toList_normalPrefix, toList_normalPrefix]
  by_cases hpath : core path = []
  · by_cases hother : core other = []
    · simp [hpath, hother]
    · simp [hpath, hother, Ne.symm hother]
  · by_cases hother : core other = [] <;> simp [hpath, hother]

theorem unslashed_core (path : String) : Trimmed (· == '/') (core path) := trimmed_trimBy _ _

theorem encloses_iff {inner : List Char} : Encloses path.toList inner ↔ inner = core path := by
  constructor
  · rintro ⟨left, front, back, right, hpath, hblank, hslash, htrimmed, hinner⟩
    rw [List.forall_mem_append] at hblank hslash
    have hfront : ∀ c ∈ front, (c == '/') = true := fun c hc => beq_iff_eq.mpr (hslash.1 c hc)
    have hback : ∀ c ∈ back, (c == '/') = true := fun c hc => beq_iff_eq.mpr (hslash.2 c hc)
    have hblanks : trimBlank path.toList = front ++ (inner ++ back) := by
      rw [hpath, trimBlank, trimBy_append_left hblank.1, trimBy_append_right hblank.2,
        trimBy_eq_self htrimmed.head htrimmed.last]
    rw [core, hblanks, trimBy_append_left hfront, trimBy_append_right hback,
      trimBy_eq_self hinner.head hinner.last]
  · rintro rfl
    obtain ⟨left, right, hpath, hleft, hright⟩ := exists_trimBy isBlank path.toList
    obtain ⟨front, back, hrest, hfront, hback⟩ := exists_trimBy (· == '/') (trimBlank path.toList)
    have htrimmed : Trimmed isBlank (front ++ (core path ++ back)) := by
      rw [core, ← hrest]
      exact trimmed_trimBy isBlank path.toList
    refine ⟨left, front, back, right, ?_, List.forall_mem_append.mpr ⟨hleft, hright⟩,
      List.forall_mem_append.mpr ⟨fun c hc => beq_iff_eq.mp (hfront c hc),
        fun c hc => beq_iff_eq.mp (hback c hc)⟩, htrimmed, unslashed_core path⟩
    rw [core, ← hrest]
    exact hpath

theorem mem_of_mem_core {c : Char} (h : c ∈ core path) : c ∈ path.toList := by
  obtain ⟨left, front, back, right, hpath, -⟩ := encloses_iff.mpr (rfl : core path = core path)
  rw [hpath]
  simp [h]

end Form

section Again

variable {path : String}

/-- The second time, blanks are trimmed at the end only: a slash stands before those at the front. -/
theorem core_normalPrefix (path : String) :
    core (normalPrefix path) = trimBy (· == '/') (trimEndBy isBlank (core path)) := by
  rw [core, toList_normalPrefix, trimBlank]
  by_cases hcore : core path = []
  · rw [if_pos hcore, hcore]
    rfl
  · have hslash : ∀ c ∈ ['/'], (c == '/') = true := by simp
    have hkept : isBlank '/' = false := by decide
    have hfront : trimBy isBlank ('/' :: core path) = trimEndBy isBlank ('/' :: core path) :=
      trimBy_eq_trimEndBy (by simp [hkept])
    have hend : trimEndBy isBlank (['/'] ++ core path) = ['/'] ++ trimEndBy isBlank (core path) :=
      trimEndBy_append (by simp [hkept]) (core path)
    rw [if_neg hcore]
    calc trimBy (· == '/') (trimBy isBlank ('/' :: core path))
        = trimBy (· == '/') (['/'] ++ trimEndBy isBlank (core path)) := congrArg _ (hfront.trans hend)
      _ = trimBy (· == '/') (trimEndBy isBlank (core path)) := trimBy_append_left hslash _

theorem normalPrefix_normalPrefix_iff :
    normalPrefix (normalPrefix path) = normalPrefix path ↔
      ∀ c ∈ (core path).getLast?, isBlank c = false := by
  rw [normalPrefix_inj, core_normalPrefix, ← trimEndBy_eq_self_iff]
  have hslashes : trimBy (· == '/') (core path) = core path :=
    trimBy_eq_self (unslashed_core path).head (unslashed_core path).last
  constructor
  · intro hsame
    -- nothing can be missing at the end, since the second trim only shortens what is left
    obtain ⟨back, hback⟩ := trimEndBy_append_eq isBlank (core path)
    have hshort := length_trimBy_le (· == '/') (trimEndBy isBlank (core path))
    have hlength := congrArg List.length hback
    rw [hsame] at hshort
    rw [List.length_append] at hlength
    have hnone : back = [] := List.eq_nil_of_length_eq_zero (by omega)
    rw [hnone, List.append_nil] at hback
    exact hback
  · intro hsame
    rw [hsame, hslashes]

end Again

/-- What a normal form has to be, said of the form in which `path` is kept. -/
structure Settled (path : String) : Prop where
  form : normalPrefix path = "" ∨ ∃ inner, (normalPrefix path).toList = '/' :: inner ∧ inner ≠ [] ∧
    Trimmed (fun c => c == '/' || isBlank c) inner
  empty : (∀ c ∈ path.toList, c = '/' ∨ isBlank c = true) → normalPrefix path = ""
  again : normalPrefix (normalPrefix path) = normalPrefix path

section Settled

variable {path : String}

theorem Settled.trimmed_core (h : Settled path) : Trimmed isBlank (core path) := by
  obtain hempty | ⟨inner, hinner, -, hends⟩ := h.form
  · rw [normalPrefix_eq_empty_iff.mp hempty]
    exact trimmed_nil
  · rw [toList_normalPrefix] at hinner
    by_cases hcore : core path = []
    · rw [hcore]
      exact trimmed_nil
    · rw [if_neg hcore] at hinner
      obtain rfl := List.tail_eq_of_cons_eq hinner
      exact ⟨fun c hc => (Bool.or_eq_false_iff.mp (hends.head c hc)).2,
        fun c hc => (Bool.or_eq_false_iff.mp (hends.last c hc)).2⟩

theorem settled_of_trimmed_core (h : Trimmed isBlank (core path)) : Settled path where
  form := by
    by_cases hcore : core path = []
    · exact .inl (normalPrefix_eq_empty_iff.mpr hcore)
    · have hslash := unslashed_core path
      refine .inr ⟨core path, ?_, hcore, ?_, ?_⟩
      · rw [toList_normalPrefix, if_neg hcore]
      · exact fun c hc => Bool.or_eq_false_iff.mpr ⟨hslash.head c hc, h.head c hc⟩
      · exact fun c hc => Bool.or_eq_false_iff.mpr ⟨hslash.last c hc, h.last c hc⟩
  empty := by
    intro hall
    rw [normalPrefix_eq_empty_iff]
    have hslash := unslashed_core path
    cases hcore : core path with
    | nil => rfl
    | cons c cs =>
      have hmem : c ∈ path.toList := mem_of_mem_core (by simp [hcore])
      rw [hcore] at h hslash
      have hfirst := hslash.head c rfl
      have hblank := h.head c rfl
      obtain rfl | hc := hall c hmem
      · cases hfirst
      · rw [hc] at hblank
        cases hblank
  again := normalPrefix_normalPrefix_iff.mpr h.last

end Settled

/-- Every path has one text between the slashes at its ends, and the form in which the path is kept is a
slash and that text, or nothing if it is empty. To bring this form into form again changes nothing
exactly if the text does not end with a blank; and it is all that a normal form has to be exactly if the
text does not begin with one either. -/
theorem settled_iff_unblanked (path : String) :
    ∃ inner, (∀ other, Encloses path.toList other ↔ other = inner) ∧
      (normalPrefix path).toList = (if inner = [] then [] else '/' :: inner) ∧
      (normalPrefix (normalPrefix path) = normalPrefix path ↔ ∀ c ∈ inner.getLast?, isBlank c = false) ∧
      (Settled path ↔ Trimmed isBlank inner) :=
  ⟨core path, fun _ => encloses_iff, toList_normalPrefix path, normalPrefix_normalPrefix_iff,
    Settled.trimmed_core, settled_of_trimmed_core⟩

/-- A blank between two slashes is kept, behind a slash, and is gone the second time. -/
theorem not_settled_of_blank : ¬ ∀ path, Settled path := by
  intro h
  have hfirst : normalPrefix "/ /" = "/ " := by decide +kernel
  have hsecond : normalPrefix "/ " = "" := by decide +kernel
  have hagain := (h "/ /").again
  rw [hfirst, hsecond] at hagain
  exact absurd hagain (by decide)

end LoginGateway.Config
