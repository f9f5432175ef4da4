import LoginGateway.Proofs.Text.Ascii
import LoginGateway.Proofs.Text.Cut
import LoginGateway.Proofs.Text.Utf8
import LoginGateway.Proofs.Url.Percent
import LoginGateway.Url.Path

namespace LoginGateway.Url.Path

/-- The ways to write a point in a path. -/
def dotForms : List (List Char) := [".".toList, "%2e".toList, "%2E".toList]

/-- One point or two, however they are written. -/
def IsDotSegment (segment : List Char) : Prop :=
  segment ∈ dotForms ∨ ∃ a ∈ dotForms, ∃ b ∈ dotForms, segment = a ++ b

theorem mem_of_isDotSegment {segment : List Char} (h : IsDotSegment segment) :
    '.' ∈ segment ∨ '%' ∈ segment := by
  have hform : ∀ form ∈ dotForms, '.' ∈ form ∨ '%' ∈ form := by decide
  obtain hone | ⟨a, ha, b, -, rfl⟩ := h
  · exact hform segment hone
  · exact (hform a ha).imp (List.mem_append_left b) (List.mem_append_left b)

def lowerDotForms : List (List Char) := [".".toList, "%2e".toList]

theorem toLower_eq_e_iff {c : Char} : c.toLower = 'e' ↔ c = 'e' ∨ c = 'E' := by
  simp only [← Char.toNat_inj, Text.toNat_toLower, Char.reduceToNat]
  split <;> omega

theorem map_toLower_mem_iff {cs : List Char} :
    cs.map Char.toLower ∈ lowerDotForms ↔ cs ∈ dotForms := by
  have hpoint (c : Char) : c.toLower = '.' ↔ c = '.' := Text.toLower_eq_iff (by decide) (by decide)
  have hpercent (c : Char) : c.toLower = '%' ↔ c = '%' := Text.toLower_eq_iff (by decide) (by decide)
  have htwo (c : Char) : c.toLower = '2' ↔ c = '2' := Text.toLower_eq_iff (by decide) (by decide)
  match cs with
  | [] => decide
  | [a] => simp [lowerDotForms, dotForms, hpoint]
  | [a, b] => simp [lowerDotForms, dotForms]
  | [a, b, c] => simp [lowerDotForms, dotForms, hpercent, htwo, toLower_eq_e_iff, and_or_left]
  | a :: b :: c :: d :: ds => simp [lowerDotForms, dotForms]

theorem isDot_iff {segment : List Char} : isDot segment = true ↔ segment ∈ dotForms := by
  rw [isDot, List.contains_iff_mem]
  exact map_toLower_mem_iff

theorem isDoubleDot_iff {segment : List Char} :
    isDoubleDot segment = true ↔ ∃ a ∈ dotForms, ∃ b ∈ dotForms, segment = a ++ b := by
  have hforms : ["..".toList, ".%2e".toList, "%2e.".toList, "%2e%2e".toList] =
      lowerDotForms.flatMap fun a => lowerDotForms.map (a ++ ·) := by
    decide
  rw [isDoubleDot, List.contains_iff_mem, hforms, List.mem_flatMap]
  constructor
  · rintro ⟨a, ha, hmem⟩
    obtain ⟨b, hb, heq⟩ := List.mem_map.mp hmem
    obtain ⟨cs, ds, rfl, rfl, rfl⟩ := List.map_eq_append_iff.mp heq.symm
    exact ⟨cs, map_toLower_mem_iff.mp ha, ds, map_toLower_mem_iff.mp hb, rfl⟩
  · rintro ⟨cs, hcs, ds, hds, rfl⟩
    refine ⟨_, map_toLower_mem_iff.mpr hcs, List.mem_map.mpr ⟨_, map_toLower_mem_iff.mpr hds, ?_⟩⟩
    exact List.map_append.symm

section Encoding

open Percent

theorem encode_cons (c : Char) (cs : List Char) :
    encode .path (c :: cs) = encodeChar .path c ++ encode .path cs := List.flatMap_cons

theorem upperHex_eq_two {n : Nat} (h : upperHex n = '2') : n % 16 = 2 := by
  have key : ∀ k < 16, (Nat.digitChar k).toUpper = '2' → k = 2 := by
    decide
  exact key (n % 16) (Nat.mod_lt n (by decide)) h

theorem upperHex_eq_e {n : Nat} (h : upperHex n = 'e' ∨ upperHex n = 'E') : n % 16 = 14 := by
  have key : ∀ k < 16, (Nat.digitChar k).toUpper = 'e' ∨ (Nat.digitChar k).toUpper = 'E' →
      k = 14 := by
    decide
  exact key (n % 16) (Nat.mod_lt n (by decide)) h

theorem encodeChar_eq_cons {c : Char} (h : ¬ Kept .path c) : ∃ a b more,
    encodeChar .path c = '%' :: a :: b :: more ∧ ¬ (a = '2' ∧ (b = 'e' ∨ b = 'E')) := by
  obtain ⟨o, os, hoctets, ho⟩ := Text.Utf8.utf8EncodeChar_eq_cons c
  refine ⟨upperHex (o.toNat / 16), upperHex o.toNat, os.flatMap octet, ?_, ?_⟩
  · rw [encodeChar_of_not_kept h, hoctets, List.flatMap_cons, octet]
    rfl
  · rintro ⟨hhigh, hlow⟩
    have h1 := upperHex_eq_two hhigh
    have h2 := upperHex_eq_e hlow
    have hlt := o.toNat_lt
    have hc : c.toNat = '.'.toNat := by
      simp only [Char.reduceToNat]
      omega
    rw [Char.toNat_inj] at hc
    subst hc
    exact h (by decide)

theorem of_encode_eq_cons {cs t : List Char} {d : Char} (hd : d ≠ '%')
    (h : encode .path cs = d :: t) : ∃ rest, cs = d :: rest ∧ encode .path rest = t := by
  cases cs with
  | nil => cases h
  | cons c cs =>
    rw [encode_cons] at h
    by_cases hc : Kept .path c
    · rw [encodeChar_of_kept hc] at h
      obtain ⟨rfl, rfl⟩ := List.cons_eq_cons.mp h
      exact ⟨cs, rfl, rfl⟩
    · obtain ⟨a, b, more, heq, -⟩ := encodeChar_eq_cons hc
      rw [heq] at h
      exact absurd (List.cons_eq_cons.mp h).1.symm hd

/-- A text whose encoded form begins with a point, in any way to write it, begins with the same. -/
theorem of_encode_eq_append {cs form t : List Char} (hform : form ∈ dotForms)
    (h : encode .path cs = form ++ t) : ∃ rest, cs = form ++ rest ∧ encode .path rest = t := by
  have hescaped : ∀ e, e = 'e' ∨ e = 'E' → encode .path cs = '%' :: '2' :: e :: t →
      ∃ rest, cs = '%' :: '2' :: e :: rest ∧ encode .path rest = t := by
    intro e he h
    cases cs with
    | nil => cases h
    | cons c cs =>
      rw [encode_cons] at h
      by_cases hc : Kept .path c
      · rw [encodeChar_of_kept hc] at h
        obtain ⟨rfl, htwo⟩ := List.cons_eq_cons.mp h
        obtain ⟨ds, rfl, hlast⟩ := of_encode_eq_cons (d := '2') (by decide) htwo
        have hplain : e ≠ '%' := by
          obtain rfl | rfl := he <;> decide
        obtain ⟨rest, rfl, hrest⟩ := of_encode_eq_cons hplain hlast
        exact ⟨rest, rfl, hrest⟩
      · obtain ⟨a, b, more, heq, hnot⟩ := encodeChar_eq_cons hc
        rw [heq] at h
        simp only [List.cons_append, List.cons.injEq, true_and] at h
        obtain ⟨rfl, rfl, -⟩ := h
        exact absurd ⟨rfl, he⟩ hnot
  simp only [dotForms, List.mem_cons, List.not_mem_nil, or_false] at hform
  obtain rfl | rfl | rfl := hform
  · exact of_encode_eq_cons (by decide) h
  · exact hescaped 'e' (.inl rfl) h
  · exact hescaped 'E' (.inr rfl) h

theorem isDotSegment_of_encode {segment : List Char} (h : IsDotSegment (encode .path segment)) :
    IsDotSegment segment := by
  have hnil (cs : List Char) (hcs : encode .path cs = []) : cs = [] := by
    by_contra hne
    exact encode_ne_nil hne hcs
  obtain hone | ⟨a, ha, b, hb, htwo⟩ := h
  · obtain ⟨rest, hsegment, hrest⟩ := of_encode_eq_append hone (List.append_nil _).symm
    rw [hnil rest hrest, List.append_nil] at hsegment
    exact .inl (hsegment ▸ hone)
  · obtain ⟨rest, rfl, hrest⟩ := of_encode_eq_append ha htwo
    obtain ⟨last, rfl, hlast⟩ := of_encode_eq_append hb (hrest.trans (List.append_nil b).symm)
    rw [hnil last hlast, List.append_nil]
    exact .inr ⟨a, ha, b, hb, rfl⟩

end Encoding

section Resolving

def IsPlain (segment : String) : Prop := ¬ IsDotSegment segment.toList

theorem isDoubleDot_of_isPlain {segment : String} (h : IsPlain segment) :
    isDoubleDot segment.toList = false := by
  rw [← Bool.not_eq_true]
  exact fun hdouble => h (.inr (isDoubleDot_iff.mp hdouble))

theorem isDot_of_isPlain {segment : String} (h : IsPlain segment) :
    isDot segment.toList = false := by
  rw [← Bool.not_eq_true]
  exact fun hdot => h (.inl (isDot_iff.mp hdot))

theorem resolve_cons_of_isPlain {segment : String} (h : IsPlain segment) (reversed rest : List String) :
    resolve reversed (segment :: rest) = resolve (segment :: reversed) rest := by
  cases rest <;> simp only [resolve, isDoubleDot_of_isPlain h, isDot_of_isPlain h, Bool.false_eq_true,
    if_false]

theorem resolve_of_isPlain {segments : List String} (h : ∀ s ∈ segments, IsPlain s)
    (reversed : List String) : resolve reversed segments = segments.reverse ++ reversed := by
  induction segments generalizing reversed with
  | nil => simp only [resolve, List.reverse_nil, List.nil_append]
  | cons segment rest ih =>
    obtain ⟨hsegment, hrest⟩ := List.forall_mem_cons.mp h
    rw [resolve_cons_of_isPlain hsegment, ih hrest, List.reverse_cons, List.append_assoc]
    rfl

def descend (reversed : List String) (segment : String) : List String :=
  if isDoubleDot segment.toList then up reversed
  else if isDot segment.toList then reversed
  else segment :: reversed

theorem resolve_append (reversed front : List String) {segments : List String} (h : segments ≠ []) :
    resolve reversed (front ++ segments) = resolve (front.foldl descend reversed) segments := by
  -- since segments follow, no segment of the front is the last one, which leaves an empty one behind
  induction front generalizing reversed with
  | nil => rfl
  | cons segment front ih =>
    obtain ⟨next, rest, hnext⟩ := List.exists_cons_of_ne_nil (List.append_ne_nil_of_right_ne_nil front h)
    rw [List.foldl_cons, ← ih, List.cons_append, hnext, resolve, descend]
    · split
      · rfl
      · split <;> rfl
    · simp

theorem isPlain_encodeSegment {segment : List Char} (h : ¬ IsDotSegment segment) :
    IsPlain (encodeSegment segment) := by
  rw [IsPlain, encodeSegment, String.toList_ofList]
  exact mt isDotSegment_of_encode h

theorem isPlain_of_mem_map {segments : List (List Char)} (h : ∀ s ∈ segments, ¬ IsDotSegment s) :
    ∀ s ∈ segments.map encodeSegment, IsPlain s := by
  intro s hs
  obtain ⟨segment, hsegment, rfl⟩ := List.mem_map.mp hs
  exact isPlain_encodeSegment (h segment hsegment)

theorem below_of_isPlain (base : List String) {rest : List Char}
    (h : ∀ segment ∈ segmentsOf true rest, ¬ IsDotSegment segment) :
    below true base rest = .rooted (base ++ (segmentsOf true rest).map encodeSegment) := by
  rw [below, resolve_of_isPlain (isPlain_of_mem_map h), List.reverse_append, List.reverse_reverse,
    List.reverse_reverse]

theorem segmentsOf_append {slash : Char} (hslash : slash = '/' ∨ slash = '\\') (front rest : List Char) :
    segmentsOf true (front ++ slash :: rest) = segmentsOf true front ++ segmentsOf true rest := by
  apply List.splitOnP_append_cons
  obtain rfl | rfl := hslash <;> rfl

theorem segmentsOf_eq_splitOn {cs : List Char} (h : '\\' ∉ cs) : segmentsOf true cs = cs.splitOn '/' := by
  rw [segmentsOf]
  induction cs with
  | nil => rfl
  | cons c cs ih =>
    obtain ⟨hc, hcs⟩ := List.ne_and_not_mem_of_not_mem_cons h
    have hslash : (c == '/' || (true && c == '\\')) = (c == '/') := by
      rw [Bool.true_and, beq_eq_false_iff_ne.mpr hc.symm, Bool.or_false]
    rw [List.splitOnP_cons_eq_if_modifyHead, List.splitOn_cons_eq_if_modifyHead, hslash, ih hcs]

/-- Segments that are no dot segments stand one by one after what is before their slash. -/
theorem below_append {slash : Char} (hslash : slash = '/' ∨ slash = '\\') (base : List String)
    (front : List Char) :
    ∃ above, ∀ rest, (∀ segment ∈ segmentsOf true rest, ¬ IsDotSegment segment) →
      below true base (front ++ slash :: rest) =
        .rooted (above ++ (segmentsOf true rest).map encodeSegment) := by
  refine ⟨(((segmentsOf true front).map encodeSegment).foldl descend base.reverse).reverse, ?_⟩
  intro rest hrest
  have hne : (segmentsOf true rest).map encodeSegment ≠ [] := by
    rw [ne_eq, List.map_eq_nil_iff]
    exact List.splitOnP_ne_nil _ _
  rw [below, segmentsOf_append hslash, List.map_append, resolve_append _ _ hne,
    resolve_of_isPlain (isPlain_of_mem_map hrest), List.reverse_append, List.reverse_reverse]

end Resolving

section Text

variable {s : String} {c : Char}

theorem mem_of_mem_up {reversed : List String} (h : s ∈ up reversed) : s ∈ reversed := by
  cases reversed with
  | nil => exact h
  | cons t reversed =>
    rw [up] at h
    split at h
    · exact h
    · exact List.mem_cons_of_mem t h

theorem mem_of_mem_resolve {reversed segments : List String} (h : s ∈ resolve reversed segments) :
    s = "" ∨ s ∈ reversed ∨ s ∈ segments := by
  fun_induction resolve reversed segments with
  | case1 reversed => exact .inr (.inl h)
  | case2 reversed t _ =>
    obtain rfl | hup := List.mem_cons.mp h
    · exact .inl rfl
    · exact .inr (.inl (mem_of_mem_up hup))
  | case3 reversed t _ _ =>
    obtain rfl | hold := List.mem_cons.mp h
    · exact .inl rfl
    · exact .inr (.inl hold)
  | case4 reversed t _ _ =>
    obtain rfl | hold := List.mem_cons.mp h
    · exact .inr (.inr List.mem_cons_self)
    · exact .inr (.inl hold)
  | case5 reversed t rest _ _ ih =>
    obtain hempty | hup | hrest := ih h
    · exact .inl hempty
    · exact .inr (.inl (mem_of_mem_up hup))
    · exact .inr (.inr (List.mem_cons_of_mem t hrest))
  | case6 reversed t rest _ _ _ ih =>
    obtain hempty | hold | hrest := ih h
    · exact .inl hempty
    · exact .inr (.inl hold)
    · exact .inr (.inr (List.mem_cons_of_mem t hrest))
  | case7 reversed t rest _ _ _ ih =>
    obtain hempty | hold | hrest := ih h
    · exact .inl hempty
    · obtain rfl | hold := List.mem_cons.mp hold
      · exact .inr (.inr List.mem_cons_self)
      · exact .inr (.inl hold)
    · exact .inr (.inr (List.mem_cons_of_mem t hrest))

theorem mem_text {segments : List String} (h : c ∈ (rooted segments).text.toList) :
    c = '/' ∨ ∃ s ∈ segments, c ∈ s.toList := by
  rw [text, String.toList_join] at h
  obtain ⟨t, ht, hc⟩ := List.mem_flatMap.mp h
  obtain ⟨s, hs, rfl⟩ := List.mem_map.mp ht
  rw [String.toList_append] at hc
  obtain hslash | hsegment := List.mem_append.mp hc
  · exact .inl (List.mem_singleton.mp hslash)
  · exact .inr ⟨s, hs, hsegment⟩

theorem head?_text {segments : List String} : ∀ c ∈ (rooted segments).text.toList.head?, c = '/' := by
  intro c hc
  rw [text, String.toList_join] at hc
  cases segments with
  | nil => cases hc
  | cons s segments =>
    rw [List.map_cons, List.flatMap_cons, String.toList_append] at hc
    cases hc
    rfl

theorem kept_of_mem_text {special : Bool} {cs : List Char}
    (h : c ∈ (below special [] cs).text.toList) : c = '/' ∨ Percent.Kept .path c := by
  obtain hslash | ⟨s, hs, hc⟩ := mem_text h
  · exact .inl hslash
  · refine .inr ?_
    obtain rfl | hold | hnew := mem_of_mem_resolve (List.mem_reverse.mp hs)
    · cases hc
    · cases hold
    · obtain ⟨segment, -, rfl⟩ := List.mem_map.mp hnew
      rw [encodeSegment, String.toList_ofList] at hc
      exact Percent.kept_of_mem_encode Percent.kept_path_of_mark hc

theorem toList_text_append (above segments : List String) :
    (rooted (above ++ segments)).text.toList =
      (rooted above).text.toList ++ (rooted segments).text.toList := by
  simp only [text, String.toList_join, List.map_append, List.flatMap_append]

theorem toList_text_splitOn {cs : List Char} (h : ∀ c ∈ cs, Percent.Kept .path c) :
    (rooted ((cs.splitOn '/').map encodeSegment)).text.toList = '/' :: cs := by
  have hkept : ∀ segment ∈ cs.splitOn '/', Percent.encode .path segment = segment := by
    intro segment hsegment
    refine Percent.encode_of_kept fun c hc => ?_
    have hmem : c ∈ '/' :: cs := by
      rw [← Text.flatMap_splitOn]
      exact List.mem_flatMap.mpr ⟨segment, hsegment, List.mem_cons_of_mem '/' hc⟩
    obtain rfl | hmem := List.mem_cons.mp hmem
    · decide
    · exact h c hmem
  rw [text, String.toList_join, List.map_map, List.flatMap_map, ← Text.flatMap_splitOn]
  refine List.flatMap_congr ?_
  intro segment hsegment
  rw [Function.comp_apply, encodeSegment, hkept segment hsegment, String.toList_append]
  exact congrArg ('/' :: ·) String.toList_ofList

end Text

end LoginGateway.Url.Path
