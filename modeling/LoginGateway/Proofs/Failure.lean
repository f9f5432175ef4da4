import LoginGateway.Failure
import Mathlib.Order.Bounds.Basic

namespace LoginGateway.Failure

def longestWait : Duration := .ofSeconds 18446744073709551615

/-- The least whole number of seconds, but at least one, that is not shorter than the wait. -/
def LeastSeconds (wait : Duration) (n : Nat) : Prop :=
  IsLeast {k | 1 ≤ k ∧ wait.nanos ≤ k * 1000000000} n

def roundedUp (wait : Duration) : Nat :=
  if wait.subsecNanos = 0 then max wait.seconds 1 else wait.seconds + 1

variable {wait : Duration}

theorem le_longestWait_iff : wait ≤ longestWait ↔ wait.nanos ≤ 18446744073709551615 * 1000000000 := Iff.rfl

theorem leastSeconds_roundedUp (wait : Duration) : LeastSeconds wait (roundedUp wait) := by
  have hparts := wait.seconds_subsecNanos
  have hsubsec := wait.subsecNanos_lt
  rw [roundedUp]
  split
  · constructor
    · exact ⟨by omega, by omega⟩
    · rintro k ⟨hpos, hcovers⟩
      omega
  · constructor
    · exact ⟨by omega, by omega⟩
    · rintro k ⟨hpos, hcovers⟩
      omega

theorem roundedUp_le (wait : Duration) : roundedUp wait ≤ 18446744073709551616 := by
  have hseconds := wait.seconds_lt
  rw [roundedUp]
  split <;> omega

theorem roundedUp_lt_iff : roundedUp wait < 18446744073709551616 ↔ wait ≤ longestWait := by
  have hparts := wait.seconds_subsecNanos
  have hsubsec := wait.subsecNanos_lt
  have hseconds := wait.seconds_lt
  rw [le_longestWait_iff, roundedUp]
  split <;> omega

theorem toNat_max (a b : UInt64) : (max a b).toNat = max a.toNat b.toNat := by
  have hdef : max a b = if a ≤ b then b else a := rfl
  rw [hdef]
  split
  · next hle =>
    rw [UInt64.le_iff_toNat_le] at hle
    exact (Nat.max_eq_right hle).symm
  · next hnot =>
    rw [UInt64.le_iff_toNat_le] at hnot
    exact (Nat.max_eq_left (Nat.le_of_not_le hnot)).symm

theorem toNat_retrySeconds (wait : Duration) :
    (retrySeconds wait).toNat = roundedUp wait % 18446744073709551616 := by
  have hseconds : (UInt64.ofNat wait.seconds).toNat = wait.seconds :=
    UInt64.toNat_ofNat_of_lt' wait.seconds_lt
  have hone : (1 : UInt64).toNat = 1 := rfl
  rw [retrySeconds, roundedUp]
  split
  · have hfits : max wait.seconds 1 < 18446744073709551616 := Nat.max_lt.mpr ⟨wait.seconds_lt, by decide⟩
    rw [toNat_max, hseconds, hone, Nat.mod_eq_of_lt hfits]
  · rw [UInt64.toNat_add, hseconds, hone]

theorem retrySeconds_of_le (h : wait ≤ longestWait) : (retrySeconds wait).toNat = roundedUp wait := by
  rw [toNat_retrySeconds, Nat.mod_eq_of_lt (roundedUp_lt_iff.mpr h)]

theorem retrySeconds_of_not_le (h : ¬ wait ≤ longestWait) : (retrySeconds wait).toNat = 0 := by
  have hbound := roundedUp_le wait
  rw [← roundedUp_lt_iff] at h
  rw [toNat_retrySeconds, Nat.le_antisymm hbound (Nat.not_lt.mp h)]

theorem leastSeconds_retrySeconds (h : wait ≤ longestWait) :
    LeastSeconds wait (retrySeconds wait).toNat := by
  rw [retrySeconds_of_le h]
  exact leastSeconds_roundedUp wait

theorem nanos_le_retrySeconds (h : wait.nanos ≤ 18446744073709551615 * 1000000000) :
    wait.nanos ≤ (retrySeconds wait).toNat * 1000000000 :=
  (leastSeconds_retrySeconds (le_longestWait_iff.mpr h)).1.2

end LoginGateway.Failure
