import LoginGateway.Proofs.Attempts.Run

namespace LoginGateway.Attempts

namespace Policy

/-- What one window allows. The attempt that opens a window is allowed whatever the policy says. -/
def capacity (policy : Policy) : Nat := max 1 policy.maxAttempts.toNat

theorem capacity_pos (policy : Policy) : 1 ≤ policy.capacity := Nat.le_max_left 1 _

end Policy

abbrev Timeline := List (Duration × Decision)

def allowedFrom (policy : Policy) (a : Duration) (e : Duration × Decision) : Bool :=
  e.2.isAllowed && decide (a ≤ e.1 ∧ e.1.nanos ≤ a.nanos + policy.window.nanos)

namespace Tracker

variable (policy : Policy) (source : String)

def answeredTo (tracker : Tracker) : Action → Timeline
  | .attempt s => if source = s then [(tracker.now, tracker.decision policy source)] else []
  | .reset _ | .sweep | .moveTo _ => []

def timeline : Tracker → List Action → Timeline
  | _, [] => []
  | tracker, action :: actions =>
    tracker.answeredTo policy source action ++ timeline (tracker.step policy action) actions

end Tracker

section Quota

variable {policy : Policy} {a now : Duration} {record : Option Record}

/-- A record counts the attempt that opened its window, and no more than a window allows. -/
def Counted (policy : Policy) (record : Option Record) : Prop :=
  ∀ r, record = some r → 1 ≤ r.count.toNat ∧ r.count.toNat ≤ policy.capacity

/-- How many attempts can still be allowed within one window of time from `a` on. If the window that
is open began before `a`, another one can follow it; if it began later, none can. -/
def quota (policy : Policy) (a now : Duration) (record : Option Record) : Nat :=
  if a.nanos + policy.window.nanos < now.nanos then 0
  else if now < a then 2 * policy.capacity - 1
  else match record with
    | none => policy.capacity
    | some r =>
      if a ≤ r.windowStart then policy.capacity - r.count.toNat
      else 2 * policy.capacity - r.count.toNat

theorem counted_opened : Counted policy (some ⟨1, now⟩) := by
  intro r hr
  cases hr
  exact ⟨Nat.le_refl 1, policy.capacity_pos⟩

theorem Counted.attempt (h : Counted policy record) :
    Counted policy (some (Record.attempt policy now record).2) := by
  cases record with
  | none => exact counted_opened
  | some r =>
    by_cases hexp : r.Expired policy now
    · rw [Record.attempt_of_expired hexp]
      exact counted_opened
    · rw [Record.attempt_of_not_expired hexp]
      by_cases hlt : r.count < policy.maxAttempts
      · rw [if_pos hlt]
        intro s hs
        cases hs
        have hsucc := Record.toNat_count_succ hlt
        rw [UInt32.lt_iff_toNat_lt] at hlt
        simp only [Policy.capacity, hsucc]
        omega
      · rw [if_neg hlt]
        exact h

theorem Counted.filter (h : Counted policy record) (p : Record → Bool) :
    Counted policy (record.filter p) :=
  fun r hr => h r (Option.filter_eq_some_iff.mp hr).1

theorem Counted.step (h : Counted policy record) (source : String) (action : Action) :
    Counted policy (Tracker.recordAfter policy source now record action) := by
  cases action with
  | attempt s =>
    rw [Tracker.recordAfter]
    split
    · exact h.attempt
    · exact h
  | reset s =>
    rw [Tracker.recordAfter]
    split
    · rintro r ⟨⟩
    · exact h
  | sweep => exact h.filter _
  | moveTo time => exact h

/-- A window that opens takes no more than was left. If the one before it began at `a` or later, the
time from `a` on is over. -/
theorem quota_opened_le (hopens : ∀ r, record = some r → r.Expired policy now)
    (h : Counted policy record) :
    (if allowedFrom policy a (now, .allowed) then 1 else 0) + quota policy a now (some ⟨1, now⟩) ≤
      quota policy a now record := by
  have hcap := policy.capacity_pos
  have hone : (1 : UInt32).toNat = 1 := rfl
  simp only [allowedFrom, quota, Decision.isAllowed, Bool.true_and, decide_eq_true_eq,
    Duration.le_def, Duration.lt_def, hone]
  cases record with
  | none => grind
  | some r =>
    obtain ⟨hpos, hle⟩ := h r rfl
    have hexp := hopens r rfl
    simp only [Record.Expired, Duration.lt_def, Duration.nanos_since] at hexp
    by_cases hstart : a.nanos ≤ r.windowStart.nanos
    · have hover : a.nanos + policy.window.nanos < now.nanos := by omega
      have hlate : ¬ now.nanos ≤ a.nanos + policy.window.nanos := by omega
      simp only [hover, hlate, and_false, if_true, if_false, Nat.le_refl]
    · grind

theorem quota_attempt_le (h : Counted policy record) :
    (if allowedFrom policy a (now, (Record.attempt policy now record).1) then 1 else 0) +
        quota policy a now (some (Record.attempt policy now record).2) ≤
      quota policy a now record := by
  cases record with
  | none => exact quota_opened_le (fun r hr => by cases hr) h
  | some r =>
    by_cases hexp : r.Expired policy now
    · rw [Record.attempt_of_expired hexp]
      exact quota_opened_le (fun s hs => by cases hs; exact hexp) h
    · rw [Record.attempt_of_not_expired hexp]
      by_cases hlt : r.count < policy.maxAttempts
      · rw [if_pos hlt]
        have hsucc := Record.toNat_count_succ hlt
        rw [UInt32.lt_iff_toNat_lt] at hlt
        have hcap : r.count.toNat + 1 ≤ policy.capacity := by
          rw [Policy.capacity]
          omega
        simp only [allowedFrom, quota, Decision.isAllowed, Bool.true_and, decide_eq_true_eq,
          Duration.le_def, Duration.lt_def, hsucc]
        grind
      · rw [if_neg hlt]
        simp only [allowedFrom, Decision.isAllowed, Bool.false_and, Bool.false_eq_true, if_false,
          Nat.zero_add, Nat.le_refl]

/-- A sweep takes nothing away that a window of time from `a` on could still need. -/
theorem quota_sweep_le (h : Counted policy record) :
    quota policy a now (record.filter fun r => !decide (r.Expired policy now)) ≤
      quota policy a now record := by
  cases record with
  | none => exact Nat.le_refl _
  | some r =>
    by_cases hexp : r.Expired policy now
    · have hnone : (some r).filter (fun r => !decide (r.Expired policy now)) = none := by
        simp [Option.filter, hexp]
      obtain ⟨hpos, hle⟩ := h r rfl
      simp only [Record.Expired, Duration.lt_def, Duration.nanos_since] at hexp
      rw [hnone]
      simp only [quota, Duration.le_def, Duration.lt_def]
      grind
    · have hkept : (some r).filter (fun r => !decide (r.Expired policy now)) = some r := by
        simp [Option.filter, hexp]
      exact Nat.le_of_eq (congrArg (quota policy a now) hkept)

theorem quota_moveTo_le (h : Counted policy record) {time : Duration} (htime : now ≤ time) :
    quota policy a time record ≤ quota policy a now record := by
  have hcap := policy.capacity_pos
  rw [Duration.le_def] at htime
  cases record with
  | none =>
    simp only [quota, Duration.lt_def]
    grind
  | some r =>
    obtain ⟨hpos, hle⟩ := h r rfl
    simp only [quota, Duration.le_def, Duration.lt_def]
    grind

end Quota

section Runs

open Tracker

variable {policy : Policy} {source : String}

theorem quota_step_le (a : Duration) (tracker : Tracker) (action : Action)
    (h : Counted policy (tracker.ledger.find? source))
    (hforward : tracker.now ≤ clockAfter tracker.now action) (hreset : action ≠ .reset source) :
    (tracker.answeredTo policy source action).countP (allowedFrom policy a) +
        quota policy a (tracker.step policy action).now
          ((tracker.step policy action).ledger.find? source) ≤
      quota policy a tracker.now (tracker.ledger.find? source) := by
  rw [find?_step, now_step]
  cases action with
  | attempt s =>
    rw [answeredTo, recordAfter, clockAfter]
    by_cases hs : source = s
    · rw [if_pos hs, if_pos hs, List.countP_singleton, decision_eq]
      exact quota_attempt_le h
    · refine Nat.le_of_eq ?_
      rw [if_neg hs, if_neg hs, List.countP_nil, Nat.zero_add]
  | reset s =>
    have hs : source ≠ s := fun hs => hreset (congrArg Action.reset hs.symm)
    refine Nat.le_of_eq ?_
    rw [answeredTo, recordAfter, clockAfter, if_neg hs, List.countP_nil, Nat.zero_add]
  | sweep =>
    rw [answeredTo, recordAfter, clockAfter, List.countP_nil, Nat.zero_add]
    exact quota_sweep_le h
  | moveTo time =>
    rw [answeredTo, recordAfter, clockAfter, List.countP_nil, Nat.zero_add]
    exact quota_moveTo_le h hforward

theorem allowed_run_le (a : Duration) (tracker : Tracker) (actions : List Action)
    (h : Counted policy (tracker.ledger.find? source)) (hforward : Forward tracker.now actions)
    (hreset : .reset source ∉ actions) :
    (tracker.timeline policy source actions).countP (allowedFrom policy a) ≤
      quota policy a tracker.now (tracker.ledger.find? source) := by
  induction actions generalizing tracker with
  | nil => exact Nat.zero_le _
  | cons action actions ih =>
    obtain ⟨hnow, hlater⟩ := hforward
    obtain ⟨hne, hrest⟩ := List.ne_and_not_mem_of_not_mem_cons hreset
    have hcounted : Counted policy ((tracker.step policy action).ledger.find? source) := by
      rw [find?_step]
      exact h.step source action
    have hstep := quota_step_le a tracker action h hnow hne.symm
    have hrun := ih (tracker.step policy action) hcounted (by rw [now_step]; exact hlater) hrest
    rw [timeline, List.countP_append]
    omega

theorem quota_start_le (a start : Duration) : quota policy a start none ≤ 2 * policy.capacity - 1 := by
  have hcap := policy.capacity_pos
  rw [quota]
  grind

/-- However a window of time lies, a source that is not reset is allowed less than twice as many
attempts in it as one window allows. -/
theorem allowed_within_window_le (policy : Policy) (start : Duration) (actions : List Action)
    (hforward : Forward start actions) {source : String} (hreset : .reset source ∉ actions)
    (a : Duration) :
    (timeline policy source ⟨start, .empty⟩ actions).countP (allowedFrom policy a) ≤
      2 * max 1 policy.maxAttempts.toNat - 1 := by
  have hnone : Counted policy (Ledger.empty.find? source) := by
    rintro r ⟨⟩
  exact Nat.le_trans (allowed_run_le a ⟨start, .empty⟩ actions hnone hforward hreset)
    (quota_start_le a start)

/-- The bound is reached: the last attempt of one window and all of the next one. -/
theorem allowed_within_window_le_of_two_windows :
    let policy : Policy := { maxAttempts := 2, window := .ofSeconds 10 }
    let actions : List Action :=
      [.attempt "a", .moveTo (.ofSeconds 10), .attempt "a", .attempt "a", .moveTo (.ofSeconds 11),
        .sweep, .attempt "a", .attempt "b", .moveTo (.ofSeconds 20), .attempt "a", .attempt "a"]
    Forward .zero actions ∧ .reset "a" ∉ actions ∧
      (timeline policy "a" ⟨.zero, .empty⟩ actions).countP (allowedFrom policy (.ofSeconds 10)) = 3 ∧
      (timeline policy "a" ⟨.zero, .empty⟩ actions).countP (allowedFrom policy (.ofSeconds 10)) ≤
        2 * max 1 policy.maxAttempts.toNat - 1 := by
  intro policy actions
  have hforward : Forward .zero actions := by decide
  have hreset : .reset "a" ∉ actions := by decide
  exact ⟨hforward, hreset, by decide,
    allowed_within_window_le policy .zero actions hforward hreset (.ofSeconds 10)⟩

end Runs

end LoginGateway.Attempts
