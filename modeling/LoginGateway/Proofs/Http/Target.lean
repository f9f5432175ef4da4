import LoginGateway.Http.Target
import LoginGateway.Proofs.Lists
import Mathlib.Data.Bool.AllAny

namespace LoginGateway.Http.Target

section Chars

variable {c : Char}

theorem of_isPathChar (h : isPathChar c = true) : 32 < c.toNat ∧ c ≠ '?' ∧ c ≠ '#' := by
  refine ⟨?_, ?_, ?_⟩
  · rw [isPathChar, Bool.or_eq_true, Bool.and_eq_true, Bool.and_eq_true, decide_eq_true_eq,
      decide_eq_true_eq] at h
    omega
  · rintro rfl
    exact absurd h (by decide)
  · rintro rfl
    exact absurd h (by decide)

theorem of_isQueryChar (h : isQueryChar c = true) : 32 < c.toNat ∧ c ≠ '#' := by
  refine ⟨?_, ?_⟩
  · rw [isQueryChar, Bool.or_eq_true, Bool.and_eq_true, Bool.and_eq_true, decide_eq_true_eq,
      decide_eq_true_eq] at h
    omega
  · rintro rfl
    exact absurd h (by decide)

end Chars

/-- The path and the query hold no blanks, and nothing that would end them. -/
structure Clean (target : Target) : Prop where
  path : ∀ c ∈ target.path.toList, 32 < c.toNat ∧ c ≠ '?' ∧ c ≠ '#'
  query : ∀ query, target.query = some query → ∀ c ∈ query.toList, 32 < c.toNat ∧ c ≠ '#'

section Reading

variable {target : Target}

theorem clean_of_pathAndQuery {cs : List Char} (h : pathAndQuery cs = .ok target) : target.Clean := by
  unfold pathAndQuery at h
  dsimp only at h
  split at h
  · next hchars =>
    rw [Bool.and_eq_true, List.all_eq_true, List.all_eq_true] at hchars
    obtain ⟨hpath, hquery⟩ := hchars
    cases h
    refine ⟨?_, ?_⟩
    · intro c hc
      dsimp only at hc
      split at hc
      · rw [List.mem_singleton.mp hc]
        decide
      · rw [String.toList_ofList] at hc
        exact of_isPathChar (hpath c hc)
    · intro query hsome c hc
      obtain ⟨text, htext, rfl⟩ := Option.map_eq_some_iff.mp hsome
      rw [String.toList_ofList] at hc
      rw [htext] at hquery
      exact of_isQueryChar (hquery c hc)
  · cases h

theorem clean_of_parse {text : String} (h : parse text = .ok target) : target.Clean := by
  unfold parse at h
  dsimp only at h
  split at h
  · cases h
  split at h
  · cases h
  · cases h
    exact ⟨List.all_iff_forall_prop.mp (by decide), fun query hnone => by cases hnone⟩
  · exact clean_of_pathAndQuery h
  · generalize afterScheme? text.toList = after at h
    obtain fault | (_ | _ | ⟨c, cs⟩) := after
    · cases h
    · dsimp only [bind, Except.bind] at h
      split at h
      · cases h
      split at h
      · cases h
      · cases h
        exact ⟨List.all_iff_forall_prop.mp (by decide), fun query hnone => by cases hnone⟩
    · cases h
    · dsimp only [bind, Except.bind] at h
      split at h
      · cases h
      split at h
      · cases h
      · exact clean_of_pathAndQuery h

theorem pathAndQuery_append {path fragment : List Char} {query : Option (List Char)}
    (hpath : ∀ c ∈ path, isPathChar c = true)
    (hquery : ∀ text, query = some text → ∀ c ∈ text, isQueryChar c = true)
    (hfragment : ∀ c ∈ fragment.head?, c = '#') :
    ∃ target, pathAndQuery (path ++ (query.elim [] ('?' :: ·) ++ fragment)) = .ok target := by
  have hbefore : ∀ c ∈ path ++ query.elim [] ('?' :: ·), (c != '#') = true := by
    intro c hc
    rw [bne_iff_ne]
    obtain hc | hc := List.mem_append.mp hc
    · exact (of_isPathChar (hpath c hc)).2.2
    · cases query with
      | none => cases hc
      | some text =>
        obtain rfl | hc := List.mem_cons.mp hc
        · decide
        · exact (of_isQueryChar (hquery text rfl c hc)).2
  have hstop : ∀ c ∈ fragment.head?, (c != '#') = false := by
    intro c hc
    rw [hfragment c hc, bne_self_eq_false]
  have hplain : ∀ c ∈ path, (c != '?') = true := fun c hc =>
    bne_iff_ne.mpr (of_isPathChar (hpath c hc)).2.1
  have hmark : ∀ c ∈ (query.elim [] ('?' :: ·)).head?, (c != '?') = false := by
    cases query with
    | none => rintro c ⟨⟩
    | some text =>
      rintro c ⟨⟩
      rfl
  have hfront := (Lists.span_append hbefore hstop).1
  obtain ⟨hpathText, hqueryText⟩ := Lists.span_append hplain hmark
  have htail : (query.elim [] ('?' :: ·)).tail? = query := by
    cases query <;> rfl
  have hchars : (path.all isPathChar && (query.getD []).all isQueryChar) = true := by
    rw [Bool.and_eq_true, List.all_eq_true, List.all_eq_true]
    refine ⟨hpath, ?_⟩
    cases query with
    | none => exact List.forall_mem_nil _
    | some text => exact hquery text rfl
  rw [← List.append_assoc, pathAndQuery, hfront, hpathText, hqueryText, htail, if_pos hchars]
  exact ⟨_, rfl⟩

end Reading

end LoginGateway.Http.Target
