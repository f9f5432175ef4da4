import LoginGateway.Attempts.Ledger

namespace LoginGateway.Attempts

namespace Record

variable {policy : Policy} {now : Duration} {record : Record}

theorem attempt_of_expired (h : record.Expired policy now) :
    attempt policy now (some record) = (.allowed, ⟨1, now⟩) := if_pos h

theorem attempt_of_not_expired (h : ¬ record.Expired policy now) :
    attempt policy now (some record) =
      if record.count < policy.maxAttempts then (.allowed, { record with count := record.count + 1 })
      else (.limited (policy.window.since (now.since record.windowStart)), record) := if_neg h

theorem not_expired_at_start (h : record.windowStart = now) : ¬ record.Expired policy now := by
  rw [Expired, Duration.lt_def, Duration.nanos_since, h, Nat.sub_self]
  exact Nat.not_lt_zero _

theorem toNat_count_succ (h : record.count < policy.maxAttempts) :
    (record.count + 1).toNat = record.count.toNat + 1 := by
  have hmax := policy.maxAttempts.toNat_lt
  rw [UInt32.lt_iff_toNat_lt] at h
  rw [UInt32.toNat_add]
  simp only [UInt32.reduceToNat]
  omega

theorem attempt_eq_limited_iff {before : Option Record} {wait : Duration} :
    attempt policy now before = (.limited wait, record) ↔
      before = some record ∧ ¬ record.Expired policy now ∧ ¬ record.count < policy.maxAttempts ∧
        wait = policy.window.since (now.since record.windowStart) := by
  cases before with
  | none =>
    refine iff_of_false ?_ ?_
    · rintro ⟨⟩
    · rintro ⟨⟨⟩, -⟩
  | some r =>
    by_cases hexp : r.Expired policy now
    · rw [attempt_of_expired hexp]
      refine iff_of_false ?_ ?_
      · rintro ⟨⟩
      · rintro ⟨⟨⟩, hopen, -⟩
        exact hopen hexp
    · rw [attempt_of_not_expired hexp]
      by_cases hlt : r.count < policy.maxAttempts
      · rw [if_pos hlt]
        refine iff_of_false ?_ ?_
        · rintro ⟨⟩
        · rintro ⟨⟨⟩, -, hfull, -⟩
          exact hfull hlt
      · rw [if_neg hlt]
        constructor
        · rintro ⟨⟩
          exact ⟨rfl, hexp, hlt, rfl⟩
        · rintro ⟨⟨⟩, -, -, rfl⟩
          rfl

theorem windowStart_attempt (policy : Policy) (now : Duration) (before : Option Record) :
    (attempt policy now before).2.windowStart = now ∨
      ∃ r, before = some r ∧ (attempt policy now before).2.windowStart = r.windowStart := by
  cases before with
  | none => exact .inl rfl
  | some r =>
    by_cases hexp : r.Expired policy now
    · rw [attempt_of_expired hexp]
      exact .inl rfl
    · rw [attempt_of_not_expired hexp]
      refine .inr ⟨r, rfl, ?_⟩
      split <;> rfl

end Record

namespace Ledger

variable {ledger : Ledger} {source : String} {record : Record}

/-- All windows have opened at times of which `p` holds. -/
def Opened (p : Duration → Prop) (ledger : Ledger) : Prop :=
  ∀ source record, ledger.find? source = some record → p record.windowStart

section Opened

variable {p q : Duration → Prop}

theorem opened_empty (p : Duration → Prop) : empty.Opened p := by
  rintro source record ⟨⟩

theorem Opened.mono (h : ledger.Opened p) (himp : ∀ time, p time → q time) : ledger.Opened q :=
  fun source record hfound => himp _ (h source record hfound)

theorem Opened.keep (h : ledger.Opened p) (f : String → Record → Bool) : (ledger.keep f).Opened p := by
  intro source record hfound
  rw [find?_keep] at hfound
  exact h source record (Option.filter_eq_some_iff.mp hfound).1

theorem Opened.sweep (h : ledger.Opened p) (policy : Policy) (now : Duration) :
    (ledger.sweep policy now).Opened fun time => p time ∧ ¬ policy.window < now.since time := by
  intro source record hfound
  rw [find?_sweep] at hfound
  obtain ⟨hbefore, hopen⟩ := Option.filter_eq_some_iff.mp hfound
  rw [Bool.not_eq_true', decide_eq_false_iff_not] at hopen
  exact ⟨h source record hbefore, hopen⟩

theorem Opened.check {now : Duration} (h : ledger.Opened p) (hnow : p now) (policy : Policy)
    (source : String) : (ledger.check policy now source).2.Opened p := by
  intro other record hfound
  rw [find?_check] at hfound
  split at hfound
  · cases hfound
    obtain hstart | ⟨r, hr, hstart⟩ := Record.windowStart_attempt policy now (ledger.find? source)
    · rw [hstart]
      exact hnow
    · rw [hstart]
      exact h source r hr
  · exact h other record hfound

end Opened

theorem putEntry_of_lookup {entries : List (String × Record)} (h : entries.lookup source = some record) :
    putEntry source record entries = entries := by
  induction entries with
  | nil => cases h
  | cons e entries ih =>
    obtain ⟨s, r⟩ := e
    rw [lookup_cons_eq] at h
    rw [putEntry]
    by_cases hs : source = s
    · rw [if_pos hs] at h
      cases h
      rw [if_pos hs.symm, hs]
    · rw [if_neg hs] at h
      rw [if_neg (Ne.symm hs), ih h]

theorem put_of_find? (h : ledger.find? source = some record) : ledger.put source record = ledger :=
  ext_entries (putEntry_of_lookup h)

theorem exists_of_limited {policy : Policy} {now wait : Duration}
    (h : (ledger.check policy now source).1 = .limited wait) :
    ∃ record, ledger.find? source = some record ∧
      Record.attempt policy now (ledger.find? source) = (.limited wait, record) :=
  have hattempt : Record.attempt policy now (ledger.find? source) = (.limited wait, _) := Prod.ext h rfl
  ⟨_, (Record.attempt_eq_limited_iff.mp hattempt).1, hattempt⟩

theorem wait_le_window {policy : Policy} {now wait : Duration}
    (h : (ledger.check policy now source).1 = .limited wait) : wait ≤ policy.window := by
  obtain ⟨record, -, hattempt⟩ := exists_of_limited h
  obtain ⟨-, -, -, hwait⟩ := Record.attempt_eq_limited_iff.mp hattempt
  rw [hwait, Duration.le_def, Duration.nanos_since]
  exact Nat.sub_le _ _

/-- A refused attempt leaves no trace. -/
theorem check_eq_limited {policy : Policy} {now wait : Duration}
    (h : (ledger.check policy now source).1 = .limited wait) :
    ledger.check policy now source = (.limited wait, ledger) := by
  obtain ⟨record, hfound, hattempt⟩ := exists_of_limited h
  rw [check, hattempt]
  exact congrArg (Decision.limited wait, ·) (put_of_find? hfound)

end Ledger

inductive Action where
  | attempt (source : String)
  | reset (source : String)
  | sweep
  | moveTo (time : Duration)
  deriving DecidableEq

def Action.isSweep : Action → Bool
  | sweep => true
  | _ => false

/-- A ledger with the clock that is read for it. -/
structure Tracker where
  now : Duration
  ledger : Ledger := .empty

namespace Tracker

variable (policy : Policy)

def decision (tracker : Tracker) (source : String) : Decision :=
  (tracker.ledger.check policy tracker.now source).1

def step (tracker : Tracker) : Action → Tracker
  | .attempt source =>
    { tracker with ledger := (tracker.ledger.check policy tracker.now source).2 }
  | .reset source => { tracker with ledger := tracker.ledger.reset source }
  | .sweep => { tracker with ledger := tracker.ledger.sweep policy tracker.now }
  | .moveTo time => { tracker with now := time }

def run (tracker : Tracker) (actions : List Action) : Tracker := actions.foldl (step policy) tracker

def decided (tracker : Tracker) : Action → List Decision
  | .attempt source => [tracker.decision policy source]
  | .reset _ | .sweep | .moveTo _ => []

/-- The decisions on the attempts of a run, in their order. -/
def decisions : Tracker → List Action → List Decision
  | _, [] => []
  | tracker, action :: actions =>
    tracker.decided policy action ++ decisions (tracker.step policy action) actions

def clockAfter (now : Duration) : Action → Duration
  | .moveTo time => time
  | .attempt _ | .reset _ | .sweep => now

/-- The clock, which shows `now` at first, never goes back. -/
def Forward : Duration → List Action → Prop
  | _, [] => True
  | now, action :: actions => now ≤ clockAfter now action ∧ Forward (clockAfter now action) actions

instance : (now : Duration) → (actions : List Action) → Decidable (Forward now actions)
  | _, [] => isTrue trivial
  | now, action :: actions =>
    have := instDecidableForward (clockAfter now action) actions
    inferInstanceAs (Decidable (_ ∧ _))

@[simp] theorem run_nil (tracker : Tracker) : tracker.run policy [] = tracker := rfl

@[simp] theorem run_cons (tracker : Tracker) (action : Action) (actions : List Action) :
    tracker.run policy (action :: actions) = (tracker.step policy action).run policy actions := rfl

theorem now_step (tracker : Tracker) (action : Action) :
    (tracker.step policy action).now = clockAfter tracker.now action := by
  cases action <;> rfl

theorem now_run (tracker : Tracker) (actions : List Action) :
    (tracker.run policy actions).now = actions.foldl clockAfter tracker.now := by
  induction actions generalizing tracker with
  | nil => rfl
  | cons action actions ih => rw [run_cons, ih, now_step, List.foldl_cons]

theorem run_append (tracker : Tracker) (before actions : List Action) :
    tracker.run policy (before ++ actions) = (tracker.run policy before).run policy actions :=
  List.foldl_append

theorem forward_of_append {now : Duration} {before actions : List Action}
    (h : Forward now (before ++ actions)) : Forward now before := by
  induction before generalizing now with
  | nil => trivial
  | cons action before ih => exact ⟨h.1, ih h.2⟩

theorem forward_filter (now : Duration) (actions : List Action) :
    Forward now (actions.filter (!·.isSweep)) ↔ Forward now actions := by
  induction actions generalizing now with
  | nil => rfl
  | cons action actions ih =>
    cases action with
    | sweep =>
      rw [List.filter_cons_of_neg (by simp [Action.isSweep]), ih]
      exact ⟨fun h => ⟨Nat.le_refl _, h⟩, And.right⟩
    | attempt | reset | moveTo =>
      rw [List.filter_cons_of_pos (by simp [Action.isSweep])]
      exact and_congr_right fun _ => ih _

def recordAfter (source : String) (now : Duration) (record : Option Record) :
    Action → Option Record
  | .attempt s => if source = s then some (Record.attempt policy now record).2 else record
  | .reset s => if source = s then none else record
  | .sweep => record.filter fun r => !decide (r.Expired policy now)
  | .moveTo _ => record

theorem find?_step (tracker : Tracker) (source : String) (action : Action) :
    (tracker.step policy action).ledger.find? source =
      recordAfter policy source tracker.now (tracker.ledger.find? source) action := by
  cases action with
  | attempt s =>
    rw [step, Ledger.find?_check, recordAfter]
    by_cases h : source = s
    · subst h
      rfl
    · rw [if_neg h, if_neg h]
  | reset s => exact Ledger.find?_reset ..
  | sweep => exact Ledger.find?_sweep ..
  | moveTo time => rfl

theorem decision_eq (tracker : Tracker) (source : String) :
    tracker.decision policy source =
      (Record.attempt policy tracker.now (tracker.ledger.find? source)).1 := rfl

end Tracker

end LoginGateway.Attempts
