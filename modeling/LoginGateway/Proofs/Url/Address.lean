import LoginGateway.Proofs.Lists
import LoginGateway.Proofs.Text.Numeral
import LoginGateway.Url.Address

namespace LoginGateway.Url

open Text

namespace Ipv4

theorem ofDigits?_snoc {b : Nat} (hb : b ≤ 16) {k : Nat} (hk : k < b) (cs : List Char) :
    ofDigits? b (cs ++ [Nat.digitChar k]) = (ofDigits? b cs).map (b * · + k) := by
  rw [ofDigits?, List.foldlM_append, ← ofDigits?]
  cases ofDigits? b cs with
  | none => rfl
  | some n =>
    simp only [List.foldlM_cons, List.foldlM_nil, Hex.value?_digitChar (Nat.lt_of_lt_of_le hk hb),
      Option.bind_eq_bind, Option.bind_some, if_pos hk, Option.map_some, Option.pure_def]

theorem ofDigits?_toDigits {b : Nat} (hb : 1 < b) (hb' : b ≤ 16) (n : Nat) :
    ofDigits? b (Nat.toDigits b n) = some n := by
  induction n using Nat.base_induction b hb with
  | single m hm =>
    rw [Nat.toDigits_of_lt_base hm]
    have hnone : ofDigits? b [] = some 0 := rfl
    have h := ofDigits?_snoc hb' hm []
    rwa [List.nil_append, hnone, Option.map_some, Nat.mul_zero, Nat.zero_add] at h
  | digit m k hk hm ih =>
    rw [toDigits_snoc hb hm hk, ofDigits?_snoc hb' hk, ih, Option.map_some]

theorem part?_decimal (n : Nat) : part? (Numeral.decimal n) = some n := by
  have hread : ofDigits? 10 (Numeral.decimal n) = some n :=
    ofDigits?_toDigits (by decide) (by decide) n
  obtain rfl | hn := Nat.eq_zero_or_pos n
  · rfl
  · obtain ⟨c, cs, h⟩ := List.exists_cons_of_ne_nil (Numeral.decimal_ne_nil n)
    have hc : c ≠ '0' := by
      rintro rfl
      exact toDigits_ne_zero_cons (by decide) hn cs h
    rw [h] at hread ⊢
    rw [part?]
    · exact hread
    · simp
    · rintro cs' heq
      exact hc (List.cons_eq_cons.mp heq).1
    · rintro cs' heq
      exact hc (List.cons_eq_cons.mp heq).1
    · rintro d cs' heq
      exact hc (List.cons_eq_cons.mp heq).1

def octets (a : Ipv4) : List Nat := [24, 16, 8, 0].map fun shift => (a >>> shift).toNat % 256

theorem text_eq (a : Ipv4) : text a = ['.'].intercalate (a.octets.map Numeral.decimal) := rfl

theorem forall_mem_text {p : Char → Prop} (hpoint : p '.') (hdigit : ∀ k < 10, p (Nat.digitChar k))
    (a : Ipv4) : ∀ c ∈ text a, p c := by
  intro c hc
  rw [text_eq] at hc
  obtain rfl | ⟨numeral, hnumeral, hc⟩ := Lists.mem_intercalate hc
  · exact hpoint
  · obtain ⟨n, -, rfl⟩ := List.mem_map.mp hnumeral
    obtain ⟨k, hk, rfl⟩ := mem_toDigits (by decide) hc
    exact hdigit k hk

theorem splitOn_text (a : Ipv4) : (text a).splitOn '.' = a.octets.map Numeral.decimal := by
  rw [text_eq]
  apply List.splitOn_intercalate
  · intro numeral hnumeral hpoint
    obtain ⟨n, -, rfl⟩ := List.mem_map.mp hnumeral
    exact absurd (Numeral.isDigit_of_mem_decimal hpoint) (by decide)
  · exact List.cons_ne_nil _ _

theorem getLast?_numerals (a : Ipv4) :
    (a.octets.map Numeral.decimal).getLast? = some (Numeral.decimal (a.toNat % 256)) := rfl

theorem parts_text (a : Ipv4) : parts (text a) = a.octets.map Numeral.decimal := by
  rw [parts, splitOn_text, getLast?_numerals, if_neg]
  exact fun h => Numeral.decimal_ne_nil _ (Option.some.inj h)

theorem looksNumeric_text (a : Ipv4) : looksNumeric (text a) = true := by
  have hdigits : (Numeral.decimal (a.toNat % 256)).all Char.isDigit = true :=
    List.all_eq_true.mpr fun _ => Numeral.isDigit_of_mem_decimal
  have hne : (Numeral.decimal (a.toNat % 256)).isEmpty = false :=
    List.isEmpty_eq_false_iff.mpr (Numeral.decimal_ne_nil _)
  rw [looksNumeric, parts_text, getLast?_numerals]
  simp only [hdigits, hne, Bool.not_false, Bool.and_self, Bool.true_or]

theorem mapM_part? (ns : List Nat) : (ns.map Numeral.decimal).mapM part? = some ns := by
  rw [Lists.mapM_map_eq_some fun n _ => part?_decimal n, List.map_id']

theorem le_of_mem_octets {a : Ipv4} {n : Nat} (h : n ∈ a.octets) : n ≤ 255 := by
  obtain ⟨shift, -, rfl⟩ := List.mem_map.mp h
  exact Nat.le_of_lt_succ (Nat.mod_lt _ (by decide))

theorem ofNat_octets (a : Ipv4) :
    BitVec.ofNat 32 (a.octets.dropLast.foldl (256 * · + ·) 0 * 256 + a.toNat % 256) = a := by
  have hlt := a.isLt
  apply BitVec.eq_of_toNat_eq
  simp only [octets, List.map_cons, List.map_nil, List.dropLast_cons_cons, List.dropLast_singleton,
    List.foldl_cons, List.foldl_nil, BitVec.toNat_ushiftRight, Nat.shiftRight_eq_div_pow,
    BitVec.toNat_ofNat]
  omega

theorem parse?_text (a : Ipv4) : parse? (text a) = some a := by
  have hlast : a.octets.getLast? = some (a.toNat % 256) := rfl
  have hfront : a.octets.dropLast.all (· ≤ 255) = true := by
    rw [List.all_eq_true]
    intro n hn
    exact decide_eq_true (le_of_mem_octets (List.dropLast_subset _ hn))
  have hroom : room (4 - a.octets.dropLast.length) = 256 := rfl
  rw [parse?, parts_text, mapM_part?, Option.bind_eq_bind, Option.bind_some, hlast]
  simp only [Option.bind_eq_bind, Option.bind_some, hroom, hfront]
  rw [if_pos, ofNat_octets]
  exact decide_eq_true (Nat.mod_lt _ (by decide))

end Ipv4

namespace Ipv6

theorem hex_ne_nil (g : UInt16) : hex g ≠ [] := Nat.toDigits_ne_nil

theorem not_mem_hex {c : Char} (hc : ∀ k < 16, Nat.digitChar k ≠ c) (g : UInt16) : c ∉ hex g := by
  intro h
  obtain ⟨k, hk, heq⟩ := mem_toDigits (by decide) h
  exact hc k hk heq.symm

theorem colon_not_mem_hex (g : UInt16) : ':' ∉ hex g := not_mem_hex (by decide) g

theorem point_not_mem_hex (g : UInt16) : '.' ∉ hex g := not_mem_hex (by decide) g

theorem group?_hex (g : UInt16) : group? (hex g) = some g.toNat := by
  have hpos : 1 ≤ (hex g).length := List.length_pos_iff.mpr (hex_ne_nil g)
  have hlength : (hex g).length ≤ 4 :=
    (Nat.length_toDigits_le_iff (by decide) (by decide)).mpr g.toNat_lt
  rw [group?, decide_eq_true hpos, decide_eq_true hlength]
  exact Ipv4.ofDigits?_toDigits (by decide) (by decide) g.toNat

theorem mapM_group? (gs : List UInt16) : (gs.map hex).mapM group? = some (gs.map UInt16.toNat) :=
  Lists.mapM_map_eq_some fun g _ => group?_hex g

theorem joined_cons_cons (g h : UInt16) (gs : List UInt16) :
    joined (g :: h :: gs) = hex g ++ ':' :: joined (h :: gs) := by
  simp [joined]

theorem joined_eq_append (g : UInt16) (gs : List UInt16) : ∃ cs, joined (g :: gs) = hex g ++ cs := by
  cases gs with
  | nil => exact ⟨[], by simp [joined]⟩
  | cons h gs => exact ⟨':' :: joined (h :: gs), joined_cons_cons g h gs⟩

theorem exists_joined_eq_cons (g : UInt16) (gs : List UInt16) :
    ∃ d ds, joined (g :: gs) = d :: ds ∧ d ≠ ':' := by
  obtain ⟨cs, hcs⟩ := joined_eq_append g gs
  obtain ⟨d, ds, hds⟩ := List.exists_cons_of_ne_nil (hex_ne_nil g)
  refine ⟨d, ds ++ cs, by rw [hcs, hds, List.cons_append], ?_⟩
  rintro rfl
  exact colon_not_mem_hex g (hds ▸ List.mem_cons_self)

theorem splitOn_joined {gs : List UInt16} (h : gs ≠ []) : (joined gs).splitOn ':' = gs.map hex := by
  apply List.splitOn_intercalate
  · intro group hgroup
    obtain ⟨g, -, rfl⟩ := List.mem_map.mp hgroup
    exact colon_not_mem_hex g
  · rw [ne_eq, List.map_eq_nil_iff]
    exact h

theorem groups?_joined (mayEndDotted : Bool) (gs : List UInt16) :
    groups? mayEndDotted (joined gs) = some (gs.map UInt16.toNat) := by
  cases gs with
  | nil => rfl
  | cons g gs =>
    have hempty : (joined (g :: gs)).isEmpty = false := by
      obtain ⟨d, ds, hds, -⟩ := exists_joined_eq_cons g gs
      rw [hds, List.isEmpty_cons]
    have hlast : (((g :: gs).map hex).getLastD []).contains '.' = false := by
      have hne : (g :: gs).map hex ≠ [] := List.cons_ne_nil _ _
      obtain ⟨h, -, heq⟩ := List.mem_map.mp (List.getLast_mem hne)
      rw [List.getLastD_eq_getLast?, List.getLast?_eq_some_getLast hne, Option.getD_some, ← heq,
        ← Bool.not_eq_true, List.contains_iff_mem]
      exact point_not_mem_hex h
    simp only [groups?, hempty, Bool.false_eq_true, if_false, splitOn_joined (List.cons_ne_nil g gs),
      hlast, Bool.and_false]
    exact mapM_group? (g :: gs)

theorem cutAtGap?_append {xs : List Char} (h : ':' ∉ xs) (cs : List Char) :
    cutAtGap? (xs ++ cs) = (cutAtGap? cs).map fun (a, b) => (xs ++ a, b) := by
  induction xs with
  | nil => exact Option.map_id'.symm
  | cons x xs ih =>
    obtain ⟨hx, hxs⟩ := List.ne_and_not_mem_of_not_mem_cons h
    rw [List.cons_append, cutAtGap?, ih hxs, Option.map_map]
    · rfl
    · rintro ds heq -
      exact hx heq.symm

theorem cutAtGap?_colon {d : Char} (h : d ≠ ':') (cs : List Char) :
    cutAtGap? (':' :: d :: cs) = (cutAtGap? (d :: cs)).map fun (a, b) => (':' :: a, b) := by
  rw [cutAtGap?]
  rintro ds - heq
  exact h (List.cons_eq_cons.mp heq).1

theorem cutAtGap?_joined (gs : List UInt16) (tail : List Char) :
    cutAtGap? (joined gs ++ tail) = (cutAtGap? tail).map fun (a, b) => (joined gs ++ a, b) := by
  match gs with
  | [] => exact Option.map_id'.symm
  | [g] =>
    have hjoined : joined [g] = hex g := by simp [joined]
    rw [hjoined]
    exact cutAtGap?_append (colon_not_mem_hex g) tail
  | g :: h :: gs =>
    obtain ⟨d, ds, hds, hd⟩ := exists_joined_eq_cons h gs
    have ih := cutAtGap?_joined (h :: gs) tail
    rw [hds] at ih
    rw [joined_cons_cons, List.append_assoc, cutAtGap?_append (colon_not_mem_hex g), List.cons_append,
      hds, List.cons_append, cutAtGap?_colon hd, ← List.cons_append, ih, Option.map_map, Option.map_map]
    simp [Function.comp_def]

theorem ofGroups?_toNat (a : Ipv6) : ofGroups? (a.toList.map UInt16.toNat) = some a := by
  have hwords : ((a.toList.map UInt16.toNat).map UInt16.ofNat).toArray = a.toArray := by
    have hid : UInt16.ofNat ∘ UInt16.toNat = id := funext fun _ => UInt16.ofNat_toNat
    rw [List.map_map, hid, List.map_id]
    exact Array.toArray_toList
  have hsize : ((a.toList.map UInt16.toNat).map UInt16.ofNat).toArray.size = 8 := by
    rw [hwords, a.size_toArray]
  rw [ofGroups?, dif_pos hsize]
  exact congrArg some (Vector.toArray_inj.mp hwords)

theorem gap?_eq_some {gs : List UInt16} {i n : Nat} (h : gap? gs = some (i, n)) :
    2 ≤ n ∧ n = zeros (gs.drop i) := by
  have key : ∀ gap, gap? gs = some gap → 2 ≤ gap.2 ∧ gap.2 = zeros (gs.drop gap.1) := by
    rw [gap?]
    refine List.foldlRecOn (motive := fun best => ∀ gap : Nat × Nat, best = some gap →
      2 ≤ gap.2 ∧ gap.2 = zeros (gs.drop gap.1)) _ _ ?_ ?_
    · intro gap hgap
      cases hgap
    · intro best hbest i _ gap hgap
      dsimp only at hgap
      split at hgap
      · next hlong =>
        cases hgap
        exact ⟨of_decide_eq_true (Bool.and_eq_true_iff.mp hlong).1, rfl⟩
      · exact hbest gap hgap
  exact key (i, n) h

theorem eq_replicate_append (gs : List UInt16) :
    gs = List.replicate (zeros gs) 0 ++ gs.drop (zeros gs) := by
  induction gs with
  | nil => rfl
  | cons g gs ih =>
    by_cases hg : g = 0
    · subst hg
      have hzeros : zeros (0 :: gs) = zeros gs + 1 := rfl
      rw [hzeros, List.replicate_succ, List.drop_succ_cons, List.cons_append, ← ih]
    · have hzeros : zeros (g :: gs) = 0 := by
        rw [zeros, List.takeWhile_cons, if_neg (by simpa using hg), List.length_nil]
      rw [hzeros, List.replicate_zero, List.nil_append, List.drop_zero]

theorem add_le_length_of_gap {gs : List UInt16} {i n : Nat} (h : gap? gs = some (i, n)) :
    i + n ≤ gs.length := by
  obtain ⟨htwo, hzeros⟩ := gap?_eq_some h
  have hle : zeros (gs.drop i) ≤ (gs.drop i).length := (List.takeWhile_prefix _).length_le
  rw [List.length_drop] at hle
  omega

theorem map_toNat_of_gap {gs : List UInt16} {i n : Nat} (h : gap? gs = some (i, n)) :
    (gs.take i).map UInt16.toNat ++ List.replicate n 0 ++ (gs.drop (i + n)).map UInt16.toNat =
      gs.map UInt16.toNat := by
  obtain ⟨-, hzeros⟩ := gap?_eq_some h
  have hdrop := eq_replicate_append (gs.drop i)
  rw [← hzeros, List.drop_drop] at hdrop
  have hgs := List.take_append_drop i gs
  rw [hdrop, ← List.append_assoc] at hgs
  have hmap := congrArg (List.map UInt16.toNat) hgs
  rwa [List.map_append, List.map_append, List.map_replicate] at hmap

theorem forall_mem_text {p : Char → Prop} (hcolon : p ':') (hdigit : ∀ k < 16, p (Nat.digitChar k))
    (a : Ipv6) : ∀ c ∈ text a, p c := by
  have hjoined (gs : List UInt16) : ∀ c ∈ joined gs, p c := by
    intro c hc
    obtain rfl | ⟨group, hgroup, hc⟩ := Lists.mem_intercalate hc
    · exact hcolon
    · obtain ⟨g, -, rfl⟩ := List.mem_map.mp hgroup
      obtain ⟨k, hk, rfl⟩ := mem_toDigits (by decide) hc
      exact hdigit k hk
  intro c hc
  rw [text] at hc
  split at hc
  · exact hjoined _ c hc
  · obtain hc | hc := List.mem_append.mp hc
    · obtain hc | hc := List.mem_append.mp hc
      · exact hjoined _ c hc
      · rw [List.eq_of_mem_replicate (n := 2) hc]
        exact hcolon
    · exact hjoined _ c hc

theorem parse?_text (a : Ipv6) : parse? (text a) = some a := by
  rw [text]
  cases hgap : gap? a.toList with
  | none =>
    have hcut : cutAtGap? (joined a.toList) = none := by
      rw [← List.append_nil (joined a.toList), cutAtGap?_joined]
      rfl
    simp only [parse?, hcut, groups?_joined, Option.bind_eq_bind, Option.bind_some]
    exact ofGroups?_toNat a
  | some gap =>
    obtain ⟨i, n⟩ := gap
    have htwo := (gap?_eq_some hgap).1
    have hlength := add_le_length_of_gap hgap
    have hcut : cutAtGap? (joined (a.toList.take i) ++ "::".toList ++ joined (a.toList.drop (i + n))) =
        some (joined (a.toList.take i), joined (a.toList.drop (i + n))) := by
      rw [List.append_assoc, cutAtGap?_joined]
      exact congrArg (fun front => some (front, _)) (List.append_nil _)
    simp only [parse?, hcut, groups?_joined, Option.bind_eq_bind, Option.bind_some]
    rw [Vector.length_toList] at hlength
    rw [if_pos]
    · -- as many zeros are put back as the gap leaves out
      have hzeros : 8 - ((a.toList.take i).map UInt16.toNat).length -
          ((a.toList.drop (i + n)).map UInt16.toNat).length = n := by
        simp only [List.length_map, List.length_take, List.length_drop, Vector.length_toList]
        omega
      rw [hzeros, map_toNat_of_gap hgap]
      exact ofGroups?_toNat a
    · simp only [List.length_map, List.length_take, List.length_drop, Vector.length_toList]
      omega

end Ipv6

end LoginGateway.Url
