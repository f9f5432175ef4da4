import LoginGateway.Proofs.Url.Web

namespace LoginGateway.Url

open Text

variable {url url' : Url} {a : Authority} {d : UInt16} {scheme : String} {middle rest tail : List Char}

theorem query_of_afterSlashes (hkind : SchemeKind.ofScheme scheme = .special d) {cs : List Char}
    (h : afterSlashes scheme cs = .ok url) :
    url.query = (suffix (.special d) (cs.dropWhile (!endsMain ·))).1 := by
  rw [afterSlashes_special hkind] at h
  generalize readAuthority _ _ _ = parts at h
  cases parts with
  | error fault => cases h
  | ok parts =>
    cases h
    rfl

theorem query_of_parse_mounted (h : url.IsWeb a d)
    (hurl : parse (url.mounted middle rest tail) = .ok url') :
    ∃ more, url'.query =
      (suffix (.special d)
        ((significant (trimEndBy (· == '/') url.beyond ++ middle) ++ more).dropWhile
          (!endsMain ·))).1 := by
  have hslash : ∀ c ∈ (trimEndBy (· == '/') url.beyond ++ middle ++ ['/']).getLast?,
      decide (c.toNat ≤ 32) = false := by
    rw [List.getLast?_concat]
    rintro c ⟨⟩
    rfl
  have hsplit : trimEndBy (· == '/') url.beyond ++ (middle ++ '/' :: (rest ++ tail)) =
      trimEndBy (· == '/') url.beyond ++ middle ++ ['/'] ++ (rest ++ tail) := by
    simp only [List.append_assoc, List.cons_append, List.nil_append]
  have hplain : ∀ c ∈ a.text.toList, (!endsMain c) = true := by
    intro c hc
    rw [endsMain_of_isAuthorityChar (isAuthorityChar_of_mem h.wellFormed c hc)]
    rfl
  rw [mounted_eq h, parse_web h.scheme (isAuthorityChar_of_mem h.wellFormed) (text_ne_nil h.wellFormed),
    hsplit, trimEndBy_append hslash] at hurl
  refine ⟨significant (['/'] ++ trimEndBy (·.toNat ≤ 32) (rest ++ tail)), ?_⟩
  rw [query_of_afterSlashes h.kind hurl, List.dropWhile_append_of_pos hplain, significant, significant,
    significant, ← List.filter_append, List.append_assoc]

theorem suffix_query_eq_none_iff (kind : SchemeKind) {c : Char} (hc : endsMain c = true) (cs : List Char) :
    (suffix kind (c :: cs)).1 = none ↔ c = '#' := by
  rw [endsMain, Bool.or_eq_true, beq_iff_eq, beq_iff_eq] at hc
  obtain rfl | rfl := hc
  · exact iff_of_false (Option.some_ne_none _) (by decide)
  · exact iff_of_true rfl rfl

/-- If there is a mark before the path, it says whether there is a query, whatever follows. -/
theorem query_of_marked (h : url.IsWeb a d) {c : Char}
    (hmem : c ∈ trimEndBy (· == '/') url.beyond ++ middle) (hc : endsMain c = true) :
    (∀ rest tail url', parse (url.mounted middle rest tail) = .ok url' → url'.query ≠ none) ∨
      ∀ rest tail url', parse (url.mounted middle rest tail) = .ok url' → url'.query = none := by
  have hbreak : (!isBreak c) = true := by
    rw [endsMain, Bool.or_eq_true, beq_iff_eq, beq_iff_eq] at hc
    obtain rfl | rfl := hc <;> rfl
  have hmem : c ∈ significant (trimEndBy (· == '/') url.beyond ++ middle) :=
    List.mem_filter.mpr ⟨hmem, hbreak⟩
  obtain ⟨mark, more, hfirst⟩ : ∃ mark more,
      (significant (trimEndBy (· == '/') url.beyond ++ middle)).dropWhile (!endsMain ·) =
        mark :: more := by
    refine List.exists_cons_of_ne_nil fun hnil => ?_
    have hnone := List.dropWhile_eq_nil_iff.mp hnil c hmem
    rw [hc] at hnone
    cases hnone
  have hmark : endsMain mark = true := by
    have hhead := List.head?_dropWhile_not (!endsMain ·)
      (significant (trimEndBy (· == '/') url.beyond ++ middle))
    rw [hfirst] at hhead
    simpa using hhead
  have hquery {rest tail : List Char} {url' : Url}
      (hurl : parse (url.mounted middle rest tail) = .ok url') :
      url'.query = none ↔ mark = '#' := by
    obtain ⟨behind, hquery⟩ := query_of_parse_mounted h hurl
    rw [hquery, List.dropWhile_append, hfirst, List.isEmpty_cons, if_neg Bool.false_ne_true]
    exact suffix_query_eq_none_iff _ hmark _
  by_cases hhash : mark = '#'
  · exact .inr fun rest tail url' hurl => (hquery hurl).mpr hhash
  · exact .inl fun rest tail url' hurl => mt (hquery hurl).mp hhash

theorem unmarked_of_forall
    (hplain : ∀ c ∈ trimEndBy (· == '/') url.beyond ++ middle, endsMain c = false) :
    url.query = none ∧ url.fragment = none ∧ ∀ c ∈ middle, c ≠ '?' ∧ c ≠ '#' := by
  have hbeyond : ∀ c, (c == '/') = false → endsMain c = true → c ∉ url.beyond := by
    intro c hslash hmark hc
    have hfalse := hplain c (List.mem_append_left _ (mem_trimEndBy hc hslash))
    rw [hmark] at hfalse
    cases hfalse
  refine ⟨?_, ?_, fun c hc => endsMain_eq_false_iff.mp (hplain c (List.mem_append_right _ hc))⟩
  · by_contra hsome
    obtain ⟨query, hquery⟩ := Option.ne_none_iff_exists'.mp hsome
    refine hbeyond '?' rfl rfl ?_
    simp [beyond, target, hquery]
  · by_contra hsome
    obtain ⟨fragment, hfragment⟩ := Option.ne_none_iff_exists'.mp hsome
    refine hbeyond '#' rfl rfl ?_
    simp [beyond, hfragment]

end LoginGateway.Url
