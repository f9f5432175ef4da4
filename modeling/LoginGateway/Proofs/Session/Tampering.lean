import LoginGateway.Proofs.Session.Codec

namespace LoginGateway

namespace Text

/-- One character of the text is replaced, one is put in, or one is taken out. -/
inductive Changed : List Char → List Char → Prop
  | replaced (front : List Char) (c d : Char) (back : List Char) :
      Changed (front ++ c :: back) (front ++ d :: back)
  | inserted (front : List Char) (d : Char) (back : List Char) :
      Changed (front ++ back) (front ++ d :: back)
  | removed (front : List Char) (c : Char) (back : List Char) :
      Changed (front ++ c :: back) (front ++ back)

variable {sep : Char} {a b c d cs ds : List Char}

theorem Changed.cons (d : Char) (cs : List Char) : Changed cs (d :: cs) := .inserted [] d cs

theorem Changed.exists_common (h : Changed cs ds) : ∃ front old new back,
    cs = front ++ (old ++ back) ∧ ds = front ++ (new ++ back) ∧ old.length ≤ 1 := by
  cases h with
  | replaced front x y back => exact ⟨front, [x], [y], back, rfl, rfl, Nat.le_refl 1⟩
  | inserted front y back => exact ⟨front, [], [y], back, rfl, rfl, Nat.zero_le 1⟩
  | removed front x back => exact ⟨front, [x], [], back, rfl, rfl, Nat.le_refl 1⟩

/-- One change does not reach both sides of a separator: what stands before the first one is the same,
or what stands behind it, if that has kept its length. -/
theorem Changed.eq_or_eq (h : Changed (a ++ sep :: b) (c ++ sep :: d)) (ha : sep ∉ a) (hc : sep ∉ c)
    (hlength : b.length = d.length) : a = c ∨ b = d := by
  obtain ⟨front, old, new, back, hcs, hds, hold⟩ := h.exists_common
  obtain hshort | hlong := Nat.lt_or_ge a.length front.length
  · -- the change is behind the separator
    have hfront : a ++ [sep] <+: a ++ sep :: b := ⟨b, by rw [List.append_assoc, List.singleton_append]⟩
    obtain ⟨more, rfl⟩ : a ++ [sep] <+: front := by
      refine List.prefix_of_prefix_length_le hfront ⟨old ++ back, hcs.symm⟩ ?_
      rw [List.length_append, List.length_singleton]
      exact hshort
    rw [List.append_assoc, List.append_assoc, List.singleton_append] at hds
    have hcut := cutAt?_append (b := d) hc
    rw [hds, cutAt?_append ha] at hcut
    exact .inl (Prod.mk.inj (Option.some.inj hcut)).1
  · -- the change is before the separator, or takes it away
    have hback : b.length ≤ back.length := by
      have hcount := congrArg List.length hcs
      simp only [List.length_append, List.length_cons] at hcount
      omega
    have hsuffix (front back : List Char) : back <:+ front ++ sep :: back := ⟨front ++ [sep], by simp⟩
    have hb : b <:+ back :=
      List.suffix_of_suffix_length_le (hsuffix a b) ⟨front ++ old, by rw [hcs, List.append_assoc]⟩ hback
    have hd : d <:+ back :=
      List.suffix_of_suffix_length_le (hsuffix c d) ⟨front ++ new, by rw [hds, List.append_assoc]⟩
        (hlength ▸ hback)
    exact .inr (List.IsSuffix.eq_of_length (List.suffix_of_suffix_length_le hb hd
      (Nat.le_of_eq hlength)) hlength)

end Text

namespace Session.Codec

open Text

variable (codec : Codec)

def HasPayload (token : String) (payload : List Char) : Prop :=
  ∃ signature issued, token.toList = payload ++ '.' :: signature ∧ Numeral.Denotes payload issued ∧
    issued < UInt64.size

theorem HasPayload.unique {token : String} {payload payload' : List Char} (h : HasPayload token payload)
    (h' : HasPayload token payload') : payload = payload' := by
  obtain ⟨signature, issued, htext, hdenotes, -⟩ := h
  obtain ⟨signature', issued', htext', hdenotes', -⟩ := h'
  have hcut := cutAt?_append (b := signature) (point_not_mem_of_denotes hdenotes)
  rw [← htext, htext', cutAt?_append (point_not_mem_of_denotes hdenotes')] at hcut
  exact (Prod.mk.inj (Option.some.inj hcut)).1.symm

theorem Stamped.hasPayload {token : String} {payload : List Char} {issued : Nat}
    (h : codec.Stamped token payload issued) : HasPayload token payload := by
  obtain ⟨signature, htext, -⟩ := h.signed
  exact ⟨signature, issued, htext, h.denotes, h.lt⟩

theorem digest_eq_of_sign_eq {payload payload' : List Char}
    (h : codec.sign payload = codec.sign payload') :
    codec.digest payload = codec.digest payload' := by
  rw [sign_eq, sign_eq] at h
  have hread := Hex.decode?_encode (codec.digest payload).toList
  rw [h, Hex.decode?_encode] at hread
  exact Vector.toList_inj.mp (Option.some.inj hread).symm

/-- No text that one change makes of a good token is good at the same time, as long as the change makes
no other numeral with the same digest of the one in the token. -/
theorem verify_changed {token changed : String} {now : Duration} (hgood : codec.verify now token = true)
    (hchanged : Changed token.toList changed.toList) (hne : changed ≠ token)
    (hdigest : ∀ payload payload', HasPayload token payload → HasPayload changed payload' →
      payload' ≠ payload →
      codec.digest payload' ≠ codec.digest payload) : codec.verify now changed = false := by
  rw [← Bool.not_eq_true]
  intro hagain
  obtain ⟨payload, issued, hstamped, -⟩ := codec.verify_eq_true_iff.mp hgood
  obtain ⟨payload', issued', hstamped', -⟩ := codec.verify_eq_true_iff.mp hagain
  obtain ⟨signature, htext, hsigns⟩ := hstamped.signed
  obtain ⟨signature', htext', hsigns'⟩ := hstamped'.signed
  rw [htext, htext'] at hchanged
  -- the numeral has stayed, and its signature with it; or two numerals have one signature
  have hpayload : payload' = payload := by
    obtain heq | hsignature := hchanged.eq_or_eq (point_not_mem_of_denotes hstamped.denotes)
      (point_not_mem_of_denotes hstamped'.denotes) (hsigns.length.trans hsigns'.length.symm)
    · exact heq.symm
    · rw [codec.signs_iff.mp hsigns, codec.signs_iff.mp hsigns'] at hsignature
      refine Classical.byContradiction fun hother => ?_
      exact hdigest payload payload' hstamped.hasPayload hstamped'.hasPayload hother
        (codec.digest_eq_of_sign_eq hsignature).symm
  refine hne (String.toList_inj.mp ?_)
  rw [htext, htext', codec.signs_iff.mp hsigns, codec.signs_iff.mp hsigns', hpayload]

def small : Codec := ⟨"s", .ofSeconds 60, by decide⟩

/-- A plus sign before the numeral leaves its number as it is, and not its signature. -/
theorem verify_plus : small.verify .zero (small.issue .zero) = true ∧
    small.verify .zero (String.ofList ('+' :: (small.issue .zero).toList)) = false := by
  have hgood : small.verify .zero (small.issue .zero) = true :=
    (small.verify_issue .zero .zero).mpr (Nat.zero_le _)
  have hpayload : HasPayload (small.issue .zero) ['0'] := (small.stamped_issue .zero).hasPayload
  have hpayload' : HasPayload (String.ofList ('+' :: (small.issue .zero).toList)) ['+', '0'] := by
    have hdenotes : Numeral.Denotes ['+', '0'] 0 :=
      ⟨['+'], ['0'], rfl, .inr rfl, List.cons_ne_nil _ _, List.forall_mem_singleton.mpr rfl, rfl⟩
    refine ⟨small.sign ['0'], 0, ?_, hdenotes, by decide⟩
    rw [String.toList_ofList, toList_issue]
    rfl
  have hne : String.ofList ('+' :: (small.issue .zero).toList) ≠ small.issue .zero := by
    intro heq
    have hlength := congrArg List.length (congrArg String.toList heq)
    rw [String.toList_ofList, List.length_cons] at hlength
    omega
  refine ⟨hgood, small.verify_changed hgood ?_ hne ?_⟩
  · rw [String.toList_ofList]
    exact .cons '+' _
  · intro payload payload' h h' _
    obtain rfl := h.unique hpayload
    obtain rfl := h'.unique hpayload'
    decide +kernel

end Session.Codec

end LoginGateway
