import LoginGateway.Text.Composition
import Mathlib.Data.List.SplitBy

namespace LoginGateway.Text

theorem exists_ofNat_of_ascii {c : Char} (h : c.toNat < 128) : ∃ n < 128, c = Char.ofNat n :=
  ⟨c.toNat, h, (Char.ofNat_toNat c).symm⟩

theorem isUpper_iff_toNat {c : Char} : c.isUpper = true ↔ 65 ≤ c.toNat ∧ c.toNat ≤ 90 := by
  delta Char.isUpper
  rw [decide_eq_true_eq, ge_iff_le, UInt32.le_iff_toNat_le, UInt32.le_iff_toNat_le]
  rfl

theorem isLower_iff_toNat {c : Char} : c.isLower = true ↔ 97 ≤ c.toNat ∧ c.toNat ≤ 122 := by
  delta Char.isLower
  rw [Bool.and_eq_true, decide_eq_true_eq, decide_eq_true_eq, ge_iff_le, UInt32.le_iff_toNat_le,
    UInt32.le_iff_toNat_le]
  rfl

theorem ascii_of_isAlphanum {c : Char} (h : c.isAlphanum = true) : c.toNat < 128 := by
  delta Char.isAlphanum Char.isAlpha at h
  rw [Bool.or_eq_true, Bool.or_eq_true, isUpper_iff_toNat, isLower_iff_toNat,
    Char.isDigit_iff_toNat] at h
  simp only [Char.reduceToNat] at h
  omega

theorem toNat_toLower (c : Char) :
    c.toLower.toNat = if 65 ≤ c.toNat ∧ c.toNat ≤ 90 then c.toNat + 32 else c.toNat := by
  delta Char.toLower
  split
  · next h =>
    have hrange : 65 ≤ c.toNat ∧ c.toNat ≤ 90 :=
      ⟨UInt32.le_iff_toNat_le.mp h.1, UInt32.le_iff_toNat_le.mp h.2⟩
    have hsum : (c.val + ('a'.val - 'A'.val)).toNat = (c.toNat + 32) % 4294967296 :=
      UInt32.toNat_add c.val 32
    rw [Nat.mod_eq_of_lt (by omega)] at hsum
    rw [if_pos hrange]
    exact hsum
  · next h =>
    rw [if_neg]
    rintro ⟨hlow, hhigh⟩
    exact h ⟨UInt32.le_iff_toNat_le.mpr hlow, UInt32.le_iff_toNat_le.mpr hhigh⟩

theorem toLower_eq_iff {c d : Char} (h : ¬ (65 ≤ d.toNat ∧ d.toNat ≤ 90))
    (h' : ¬ (97 ≤ d.toNat ∧ d.toNat ≤ 122)) : c.toLower = d ↔ c = d := by
  rw [← Char.toNat_inj, ← Char.toNat_inj, toNat_toLower]
  split <;> omega

theorem toLower_eq_self {c : Char} (h : c.isUpper = false) : c.toLower = c := by
  rw [← Char.toNat_inj, toNat_toLower, if_neg]
  rw [← isUpper_iff_toNat, h]
  exact Bool.false_ne_true

namespace Composition

variable {cs : List Char}

theorem decompose_of_ascii {c : Char} (h : c.toNat < 128) : decompose c = [c] := by
  have hparts : parts? c = none := if_pos (Nat.lt_trans h (by decide))
  rw [decompose, expand, hparts]

theorem flatMap_decompose_of_ascii (h : ∀ c ∈ cs, c.toNat < 128) : cs.flatMap decompose = cs := by
  induction cs with
  | nil => rfl
  | cons c cs ih =>
    obtain ⟨hc, hcs⟩ := List.forall_mem_cons.mp h
    rw [List.flatMap_cons, decompose_of_ascii hc, ih hcs]
    rfl

theorem markClass_of_ascii {c : Char} (h : c.toNat < 128) : markClass c = 0 :=
  if_pos (Nat.lt_trans h (by decide))

theorem order_of_ascii (h : ∀ c ∈ cs, c.toNat < 128) : order cs = cs := by
  have hsorted : ∀ cluster ∈ clusters cs,
      cluster.mergeSort (fun c d => markClass c ≤ markClass d) = cluster := by
    intro cluster hcluster
    apply List.mergeSort_of_pairwise
    apply List.pairwise_of_forall_mem_list
    intro c hc d hd
    have hmem : c ∈ cs := by
      rw [← List.flatten_splitBy (fun _ c => 0 < markClass c) cs]
      exact List.mem_flatten.mpr ⟨cluster, hcluster, hc⟩
    rw [markClass_of_ascii (h c hmem)]
    exact decide_eq_true (Nat.zero_le _)
  rw [order, List.flatMap_def, List.map_congr_left hsorted, List.map_id']
  exact List.flatten_splitBy _ cs

theorem compose?_of_ascii (a : Char) {b : Char} (h : b.toNat < 128) : compose? a b = none :=
  if_pos (Nat.lt_trans h (by decide))

theorem finish_push {draft : Draft} (hmarks : draft.letter = none → draft.marks = []) {c : Char}
    (hc : c.toNat < 128) :
    (draft.push c).finish = c :: draft.finish ∧ (draft.push c).letter = some c := by
  obtain ⟨done, letter, marks⟩ := draft
  cases letter with
  | none =>
    obtain rfl := hmarks rfl
    rw [Draft.push, markClass_of_ascii hc]
    exact ⟨rfl, rfl⟩
  | some letter =>
    have hkeep : (if Draft.isBlocked ⟨done, some letter, marks⟩ c then none else compose? letter c) =
        none := by
      rw [compose?_of_ascii letter hc, ite_self]
    simp only [Draft.push, hkeep, markClass_of_ascii hc, if_true]
    exact ⟨rfl, trivial⟩

theorem finish_foldl_push (h : ∀ c ∈ cs, c.toNat < 128) (draft : Draft)
    (hmarks : draft.letter = none → draft.marks = []) :
    (cs.foldl Draft.push draft).finish = cs.reverse ++ draft.finish := by
  induction cs generalizing draft with
  | nil => rfl
  | cons c cs ih =>
    obtain ⟨hc, hcs⟩ := List.forall_mem_cons.mp h
    obtain ⟨hfinish, hletter⟩ := finish_push hmarks hc
    rw [List.foldl_cons, ih hcs _ (by simp [hletter]), hfinish, List.reverse_cons, List.append_assoc]
    rfl

theorem normalize_of_ascii (h : ∀ c ∈ cs, c.toNat < 128) : normalize cs = cs := by
  rw [normalize, flatMap_decompose_of_ascii h, order_of_ascii h, finish_foldl_push h {} fun _ => rfl]
  simp [Draft.finish]

end Composition

end LoginGateway.Text
