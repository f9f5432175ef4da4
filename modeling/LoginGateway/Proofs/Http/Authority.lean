import LoginGateway.Http.Target
import LoginGateway.Proofs.Lists

namespace LoginGateway.Http.Target

variable {c : Char} {cs rest : List Char} {scan : AuthorityScan}

theorem ne_of_isPlainAuthorityChar (h : isPlainAuthorityChar c = true) :
    c ≠ ':' ∧ c ≠ '[' ∧ c ≠ ']' ∧ c ≠ '@' ∧ c ≠ '%' := by
  refine ⟨?_, ?_, ?_, ?_, ?_⟩ <;> rintro rfl <;> exact absurd h (by decide)

theorem foldlM_cons_of_step {next : AuthorityScan} (h : scan.step c = .ok next) :
    (c :: cs).foldlM AuthorityScan.step scan = cs.foldlM AuthorityScan.step next := by
  rw [List.foldlM_cons, h]
  rfl

theorem foldlM_append_of_eq {next : AuthorityScan} (h : cs.foldlM AuthorityScan.step scan = .ok next) :
    (cs ++ rest).foldlM AuthorityScan.step scan = rest.foldlM AuthorityScan.step next := by
  rw [List.foldlM_append, h]
  rfl

section Steps

theorem step_plain (h : isPlainAuthorityChar c = true) (scan : AuthorityScan) :
    scan.step c = .ok { scan with atEnd := false } := by
  obtain ⟨hcolon, hopen, hclose, hat, hpercent⟩ := ne_of_isPlainAuthorityChar h
  simp only [AuthorityScan.step, if_neg hcolon, if_neg hopen, if_neg hclose, if_neg hat,
    if_neg hpercent, h, if_true]

theorem step_colon (h : scan.colons < 8) :
    scan.step ':' = .ok { scan with colons := scan.colons + 1, atEnd := false } :=
  if_neg (Nat.not_le.mpr h)

theorem step_percent (scan : AuthorityScan) :
    scan.step '%' = .ok { scan with percent := true, atEnd := false } := rfl

theorem step_open (hpercent : scan.percent = false) (hopened : scan.opened = false) :
    scan.step '[' = .ok { scan with opened := true, atEnd := false } := by
  have hfree : (scan.percent || scan.opened) = false := by
    rw [hpercent, hopened]
    rfl
  exact if_neg (ne_true_of_eq_false hfree)

theorem step_close (hopened : scan.opened = true) (hclosed : scan.closed = false) :
    scan.step ']' = .ok { scan with closed := true, colons := 0, percent := false, atEnd := false } := by
  have hfree : (!scan.opened || scan.closed) = false := by
    rw [hopened, hclosed]
    rfl
  exact if_neg (ne_true_of_eq_false hfree)

end Steps

theorem foldlM_escaped (h : ∀ c ∈ cs, isPlainAuthorityChar c = true ∨ c = '%') (scan : AuthorityScan) :
    ∃ percent atEnd, cs.foldlM AuthorityScan.step scan = .ok { scan with percent, atEnd } := by
  induction cs generalizing scan with
  | nil => exact ⟨scan.percent, scan.atEnd, rfl⟩
  | cons c cs ih =>
    obtain ⟨hc, hcs⟩ := List.forall_mem_cons.mp h
    obtain hplain | rfl := hc
    · obtain ⟨percent, atEnd, hread⟩ := ih hcs { scan with atEnd := false }
      exact ⟨percent, atEnd, (foldlM_cons_of_step (step_plain hplain scan)).trans hread⟩
    · obtain ⟨percent, atEnd, hread⟩ := ih hcs { scan with percent := true, atEnd := false }
      exact ⟨percent, atEnd, (foldlM_cons_of_step (step_percent scan)).trans hread⟩

theorem foldlM_colons (h : ∀ c ∈ cs, isPlainAuthorityChar c = true ∨ c = ':') (scan : AuthorityScan)
    (hcount : scan.colons + cs.count ':' ≤ 8) :
    cs.foldlM AuthorityScan.step scan =
      .ok { scan with colons := scan.colons + cs.count ':', atEnd := scan.atEnd && cs.isEmpty } := by
  induction cs generalizing scan with
  | nil => simp [pure, Except.pure]
  | cons c cs ih =>
    obtain ⟨hc, hcs⟩ := List.forall_mem_cons.mp h
    rw [List.isEmpty_cons, Bool.and_false]
    obtain hplain | rfl := hc
    · have hskip : (c :: cs).count ':' = cs.count ':' :=
        List.count_cons_of_ne (ne_of_isPlainAuthorityChar hplain).1
      rw [hskip] at hcount ⊢
      rw [foldlM_cons_of_step (step_plain hplain scan), ih hcs { scan with atEnd := false } hcount,
        Bool.false_and]
    · rw [List.count_cons_self] at hcount ⊢
      rw [foldlM_cons_of_step (step_colon (by omega)), ih hcs _ (by dsimp only; omega), Bool.false_and]
      dsimp only
      rw [Nat.add_assoc, Nat.add_comm 1]

theorem foldlM_of_mem (h : c ∈ cs) (hc : ∀ scan : AuthorityScan, scan.step c = .error .invalidChar)
    (scan : AuthorityScan) : ∃ fault, cs.foldlM AuthorityScan.step scan = .error fault := by
  induction cs generalizing scan with
  | nil => cases h
  | cons d cs ih =>
    obtain rfl | hmem := List.mem_cons.mp h
    · refine ⟨.invalidChar, ?_⟩
      rw [List.foldlM_cons, hc]
      rfl
    · cases hstep : scan.step d with
      | error fault =>
        refine ⟨fault, ?_⟩
        rw [List.foldlM_cons, hstep]
        rfl
      | ok next =>
        rw [foldlM_cons_of_step hstep]
        exact ih hmem next

/-- An authority passes once its brackets are closed, if it does not end with its user and has one port at
most. -/
theorem checkAuthority_of_foldlM {next : AuthorityScan}
    (h : cs.foldlM AuthorityScan.step {} = .ok next) (hbrackets : next.opened = next.closed)
    (hcolons : next.colons ≤ 1) (hend : next.atEnd = false) (hpercent : next.percent = false) :
    checkAuthority cs = .ok () := by
  rw [checkAuthority, h]
  refine if_neg ?_
  rw [hbrackets, hend, hpercent]
  simpa using hcolons

section Reading

variable {scheme text : String} {authority : List Char}

theorem afterScheme?_web (h : scheme = "http" ∨ scheme = "https") (cs : List Char) :
    afterScheme? (scheme.toList ++ ':' :: '/' :: '/' :: cs) = .ok (some cs) := by
  obtain rfl | rfl := h
  · rfl
  · rfl

theorem parse_of_too_long (h : 65534 < text.utf8ByteSize) : parse text = .error .tooLong := if_pos h

theorem parse_web (hscheme : scheme = "http" ∨ scheme = "https") (hsize : text.utf8ByteSize ≤ 65534)
    (htext : text.toList = scheme.toList ++ ':' :: '/' :: '/' :: (authority ++ rest))
    (hauthority : ∀ c ∈ authority, endsAuthority c = false) (hne : authority ≠ [])
    (hrest : ∀ c ∈ rest.head?, endsAuthority c = true) :
    parse text = (checkAuthority authority).bind fun _ => pathAndQuery rest := by
  have hplain : ∀ c ∈ authority, (!endsAuthority c) = true := by
    intro c hc
    rw [hauthority c hc, Bool.not_false]
  have hstop : ∀ c ∈ rest.head?, (!endsAuthority c) = false := by
    intro c hc
    rw [hrest c hc, Bool.not_true]
  have hletter : ∃ more, text.toList = 'h' :: 't' :: more := by
    obtain rfl | rfl := hscheme
    · exact ⟨_, htext⟩
    · exact ⟨_, htext⟩
  have hafter := afterScheme?_web hscheme (authority ++ rest)
  rw [← htext] at hafter
  obtain ⟨hfront, hback⟩ := Lists.span_append hplain hstop
  obtain ⟨more, hmore⟩ := hletter
  obtain ⟨c, cs, rfl⟩ := List.exists_cons_of_ne_nil hne
  rw [List.cons_append] at hafter hfront hback
  rw [parse, if_neg (Nat.not_lt.mpr hsize)]
  split
  · next hnil =>
    rw [hmore] at hnil
    cases hnil
  · next hstar =>
    rw [hmore] at hstar
    cases hstar
  · next hslash =>
    rw [hmore] at hslash
    cases hslash
  · rw [hafter]
    dsimp only [bind, Except.bind]
    rw [hfront, hback]
    rfl

end Reading

end LoginGateway.Http.Target
