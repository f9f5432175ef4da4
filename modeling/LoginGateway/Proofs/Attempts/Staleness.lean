import LoginGateway.Attempts.Sweeper
import LoginGateway.Proofs.Attempts.Run

namespace LoginGateway

namespace Duration

def next? (d : Duration) : Option Duration :=
  if h : d.nanos + 1 < 18446744073709551616 * 1000000000 then some ⟨d.nanos + 1, h⟩ else none

theorem nanos_of_next? {d later : Duration} (h : d.next? = some later) : later.nanos = d.nanos + 1 := by
  unfold next? at h
  split at h
  · cases h
    rfl
  · cases h

end Duration

namespace Attempts

namespace Sweeper

def nanosecond : Duration := ⟨1, by decide⟩

variable {interval : Duration} {sweeper : Sweeper} {start : Nat}

@[simp] theorem started_sleep (span : Duration) :
    (sweeper.sleep interval span).2.started = sweeper.started := rfl

@[simp] theorem elapsed_sleep (span : Duration) :
    (sweeper.sleep interval span).2.elapsed = sweeper.elapsed + span.nanos := rfl

/-- A task that runs sweeps when a whole number of intervals has passed since its start. -/
theorem sleep_nanosecond_iff (hstarted : sweeper.started = some start)
    (hpast : start ≤ sweeper.elapsed) :
    (sweeper.sleep interval nanosecond).1 = true ↔ interval.nanos ∣ sweeper.elapsed - start + 1 := by
  have hlater : sweeper.elapsed + nanosecond.nanos - start = sweeper.elapsed - start + 1 := by
    have hone : nanosecond.nanos = 1 := rfl
    omega
  rw [sleep, hstarted]
  dsimp only
  rw [decide_eq_true_eq, sweepsBy, sweepsBy, hlater, Nat.succ_div]
  split
  · next hdvd => exact iff_of_true (Nat.lt_succ_self _) hdvd
  · next hdvd => exact iff_of_false (Nat.lt_irrefl _) hdvd

end Sweeper

inductive Deed where
  | attempt (source : String)
  | reset (source : String)

def Deed.action : Deed → Action
  | attempt source => .attempt source
  | reset source => .reset source

/-- A piece of a run: a deed, or the coming of the next instant. Some deeds may be done at that instant
before the sweep that is due then. -/
inductive Turn where
  | deed (deed : Deed)
  | instant (early : List Deed)

namespace Tracker

variable (policy : Policy)

def arrive (tracker : Tracker) (later : Duration) (early : List Deed) : Tracker :=
  tracker.run policy (.moveTo later :: early.map Deed.action)

def sweepIf (due : Bool) (tracker : Tracker) : Tracker :=
  if due then tracker.step policy .sweep else tracker

end Tracker

theorem mod_succ_of_not_dvd {n m : Nat} (h : ¬ m ∣ n + 1) : (n + 1) % m = n % m + 1 := by
  have hdiv := Nat.div_add_mod n m
  have hdiv' := Nat.div_add_mod (n + 1) m
  rw [Nat.succ_div_of_not_dvd h] at hdiv'
  omega

/-- A tracker with the task that sweeps it. -/
structure Tended where
  tracker : Tracker
  task : Sweeper

namespace Tended

def spawn (time : Duration) (elapsed : Nat) : Tended := ⟨⟨time, .empty⟩, Sweeper.start { elapsed }⟩

variable (policy : Policy)

def step (tended : Tended) : Turn → Tended
  | .deed deed => { tended with tracker := tended.tracker.step policy deed.action }
  | .instant early =>
    match tended.tracker.now.next? with
    | none => tended
    | some later =>
      let (due, task) := tended.task.sleep policy.sweepInterval Sweeper.nanosecond
      ⟨(tended.tracker.arrive policy later early).sweepIf policy due, task⟩

def run (tended : Tended) (turns : List Turn) : Tended := turns.foldl (step policy) tended

end Tended

/-- The window opened at most `age` nanoseconds before `now`, and not after it. -/
def Within (now : Duration) (age : Nat) (opened : Duration) : Prop :=
  opened ≤ now ∧ now.nanos ≤ opened.nanos + age

section Within

variable {now later opened : Duration} {age : Nat}

theorem within_now (now : Duration) (age : Nat) : Within now age now :=
  ⟨Nat.le_refl _, Nat.le_add_right _ _⟩

theorem Within.next (h : Within now age opened) (hlater : now.next? = some later) :
    Within later (age + 1) opened := by
  have hnext := Duration.nanos_of_next? hlater
  obtain ⟨hopened, hage⟩ := h
  rw [Duration.le_def] at hopened
  exact ⟨by rw [Duration.le_def]; omega, by omega⟩

theorem Within.of_open {policy : Policy} (h : Within now age opened)
    (hopen : ¬ policy.window < now.since opened) : Within now policy.window.nanos opened := by
  rw [Duration.lt_def, Duration.nanos_since] at hopen
  exact ⟨h.1, by omega⟩

end Within

namespace Tracker

variable (policy : Policy) {tracker : Tracker} {p : Duration → Prop}

theorem now_deed (tracker : Tracker) (deed : Deed) :
    (tracker.step policy deed.action).now = tracker.now := by
  cases deed <;> rfl

theorem opened_deed (h : tracker.ledger.Opened p) (hnow : p tracker.now) (deed : Deed) :
    (tracker.step policy deed.action).ledger.Opened p := by
  cases deed with
  | attempt source => exact h.check hnow policy source
  | reset source => exact h.keep _

theorem run_deeds (h : tracker.ledger.Opened p) (hnow : p tracker.now) (deeds : List Deed) :
    (tracker.run policy (deeds.map Deed.action)).now = tracker.now ∧
      (tracker.run policy (deeds.map Deed.action)).ledger.Opened p := by
  induction deeds generalizing tracker with
  | nil => exact ⟨rfl, h⟩
  | cons deed deeds ih =>
    have hsame := now_deed policy tracker deed
    rw [List.map_cons, run_cons, ← hsame]
    exact ih (opened_deed policy h hnow deed) (hsame ▸ hnow)

/-- In a nanosecond all windows get a nanosecond older, and those that open at its end are new. -/
theorem arrive_within {age : Nat} {later : Duration} (h : tracker.ledger.Opened (Within tracker.now age))
    (hlater : tracker.now.next? = some later) (early : List Deed) :
    (tracker.arrive policy later early).now = later ∧
      (tracker.arrive policy later early).ledger.Opened (Within later (age + 1)) := by
  have hmoved : (tracker.step policy (.moveTo later)).ledger.Opened (Within later (age + 1)) :=
    h.mono fun _ hwithin => hwithin.next hlater
  exact run_deeds policy hmoved (within_now later _) early

variable {policy}

theorem now_sweepIf (due : Bool) : (tracker.sweepIf policy due).now = tracker.now := by
  cases due <;> rfl

theorem within_sweep {now : Duration} {age : Nat} (hnow : tracker.now = now)
    (h : tracker.ledger.Opened (Within now age)) :
    (tracker.step policy .sweep).ledger.Opened (Within now policy.window.nanos) := by
  subst hnow
  exact (h.sweep policy tracker.now).mono fun _ hopened => hopened.1.of_open hopened.2

theorem find?_sweepIf {now : Duration} {source : String} {record : Record} (hnow : tracker.now = now)
    (hfound : tracker.ledger.find? source = some record) (due : Bool) :
    (tracker.sweepIf policy due).ledger.find? source =
      if due = true ∧ record.Expired policy now then none else some record := by
  subst hnow
  cases due with
  | false => rw [sweepIf, if_neg Bool.false_ne_true, if_neg (fun h => Bool.false_ne_true h.1), hfound]
  | true =>
    rw [sweepIf, if_pos rfl, find?_step, recordAfter, hfound]
    by_cases hexp : record.Expired policy tracker.now
    · rw [if_pos ⟨rfl, hexp⟩]
      simp [Option.filter, hexp]
    · rw [if_neg (fun h => hexp h.2)]
      simp [Option.filter, hexp]

end Tracker

namespace Tended

variable {policy : Policy} {spawned : Duration} {start : Nat} {tended : Tended}

/-- Nanoseconds since the last moment that the task was to sweep at, or since its start. -/
def phase (policy : Policy) (start : Nat) (tended : Tended) : Nat :=
  (tended.task.elapsed - start) % policy.sweepInterval.nanos

/-- The task runs since `spawned` by the clock, which is `start` by the timer, and what it has not swept
away yet is no older than a window was when it could last sweep. -/
structure Fresh (policy : Policy) (spawned : Duration) (start : Nat) (tended : Tended) : Prop where
  started : tended.task.started = some start
  past : start ≤ tended.task.elapsed
  together : tended.tracker.now.nanos + start = spawned.nanos + tended.task.elapsed
  opened : tended.tracker.ledger.Opened
    (Within tended.tracker.now (policy.window.nanos + tended.phase policy start))

theorem fresh_spawn (policy : Policy) (time : Duration) (elapsed : Nat) :
    Fresh policy time elapsed (spawn time elapsed) where
  started := rfl
  past := Nat.le_refl _
  together := rfl
  opened := Ledger.opened_empty _

theorem step_instant {later : Duration} (hlater : tended.tracker.now.next? = some later)
    (early : List Deed) :
    tended.step policy (.instant early) =
      ⟨(tended.tracker.arrive policy later early).sweepIf policy
          (tended.task.sleep policy.sweepInterval Sweeper.nanosecond).1,
        (tended.task.sleep policy.sweepInterval Sweeper.nanosecond).2⟩ := by
  rw [step, hlater]

theorem step_instant_of_last (hlast : tended.tracker.now.next? = none) (early : List Deed) :
    tended.step policy (.instant early) = tended := by
  rw [step, hlast]

namespace Fresh

variable (h : Fresh policy spawned start tended)
include h

theorem due_iff {later : Duration} (hlater : tended.tracker.now.next? = some later) :
    (tended.task.sleep policy.sweepInterval Sweeper.nanosecond).1 = true ↔
      ∃ k, 1 ≤ k ∧ later.nanos = spawned.nanos + k * policy.sweepInterval.nanos := by
  have hnext := Duration.nanos_of_next? hlater
  have htogether := h.together
  have hpast := h.past
  rw [Sweeper.sleep_nanosecond_iff h.started hpast]
  constructor
  · rintro ⟨k, hk⟩
    refine ⟨k, Nat.one_le_iff_ne_zero.mpr ?_, ?_⟩
    · rintro rfl
      cases hk
    · rw [Nat.mul_comm] at hk
      omega
  · rintro ⟨k, -, hk⟩
    exact ⟨k, by rw [Nat.mul_comm]; omega⟩

theorem deed (deed : Deed) : Fresh policy spawned start (tended.step policy (.deed deed)) where
  started := h.started
  past := h.past
  together := by
    rw [step, Tracker.now_deed]
    exact h.together
  opened := by
    rw [step, Tracker.now_deed]
    exact Tracker.opened_deed policy h.opened (within_now _ _) deed

theorem instant (early : List Deed) :
    Fresh policy spawned start (tended.step policy (.instant early)) := by
  cases hlater : tended.tracker.now.next? with
  | none =>
    rw [step_instant_of_last hlater]
    exact h
  | some later =>
    have hnext := Duration.nanos_of_next? hlater
    have hpast := h.past
    have htogether := h.together
    have helapsed : tended.task.elapsed + Sweeper.nanosecond.nanos - start =
        tended.task.elapsed - start + 1 := by
      have hone : Sweeper.nanosecond.nanos = 1 := rfl
      omega
    obtain ⟨hnow, hwithin⟩ := Tracker.arrive_within policy h.opened hlater early
    rw [step_instant hlater]
    refine ⟨h.started, Nat.le_succ_of_le hpast, ?_, ?_⟩
    · rw [Tracker.now_sweepIf, hnow]
      dsimp only [Sweeper.elapsed_sleep]
      have hone : Sweeper.nanosecond.nanos = 1 := rfl
      omega
    · rw [Tracker.now_sweepIf, hnow, phase, Sweeper.elapsed_sleep, helapsed]
      by_cases hdvd : policy.sweepInterval.nanos ∣ tended.task.elapsed - start + 1
      · have hdue := (Sweeper.sleep_nanosecond_iff h.started hpast).mpr hdvd
        rw [hdue, Nat.mod_eq_zero_of_dvd hdvd, Nat.add_zero]
        exact Tracker.within_sweep hnow hwithin
      · have hdue := mt (Sweeper.sleep_nanosecond_iff h.started hpast).mp hdvd
        rw [Bool.eq_false_iff.mpr hdue, mod_succ_of_not_dvd hdvd]
        exact hwithin

theorem run (turns : List Turn) : Fresh policy spawned start (tended.run policy turns) := by
  induction turns generalizing tended with
  | nil => exact h
  | cons turn turns ih =>
    cases turn with
    | deed deed => exact ih (h.deed deed)
    | instant early => exact ih (h.instant early)

end Fresh

/-- A task that is started over an empty ledger, whatever the sources do and whenever they do it: nothing
that is tracked is older than a window and an interval, and with the next instant a record goes only if
the clock then shows a whole number of intervals since the start, and more than a window since the record
was opened. -/
theorem within_window_and_interval (policy : Policy) (hinterval : policy.sweepInterval.isZero = false)
    (spawned : Duration) (start : Nat) (turns : List Turn) :
    let tended := (spawn spawned start).run policy turns
    (∀ source record, tended.tracker.ledger.find? source = some record →
      record.windowStart ≤ tended.tracker.now ∧ tended.tracker.now.nanos ≤
        record.windowStart.nanos + policy.window.nanos + policy.sweepInterval.nanos) ∧
    ∀ later early, tended.tracker.now.next? = some later → ∀ source record,
      (tended.tracker.arrive policy later early).ledger.find? source = some record →
      let swept := (tended.step policy (.instant early)).tracker.ledger.find? source
      (swept = some record ∨ swept = none) ∧
      (swept = none ↔
        (∃ k, 1 ≤ k ∧ later.nanos = spawned.nanos + k * policy.sweepInterval.nanos) ∧
          record.windowStart.nanos + policy.window.nanos < later.nanos) := by
  intro tended
  have hfresh : Fresh policy spawned start tended := (fresh_spawn policy spawned start).run turns
  constructor
  · intro source record hfound
    have hpos : 0 < policy.sweepInterval.nanos := by
      rw [Duration.isZero, beq_eq_false_iff_ne] at hinterval
      exact Nat.pos_of_ne_zero hinterval
    have hphase : tended.phase policy start < policy.sweepInterval.nanos := Nat.mod_lt _ hpos
    obtain ⟨hopened, hage⟩ := hfresh.opened source record hfound
    exact ⟨hopened, by omega⟩
  · intro later early hlater source record hfound swept
    obtain ⟨hnow, -⟩ := Tracker.arrive_within policy hfresh.opened hlater early
    have hswept : swept =
        if (tended.task.sleep policy.sweepInterval Sweeper.nanosecond).1 = true ∧
          record.Expired policy later then none else some record := by
      rw [← Tracker.find?_sweepIf hnow hfound]
      exact congrArg (·.tracker.ledger.find? source) (step_instant hlater early)
    have hexpired : record.Expired policy later ↔
        record.windowStart.nanos + policy.window.nanos < later.nanos := by
      rw [Record.Expired, Duration.lt_def, Duration.nanos_since]
      omega
    rw [hswept, ← hfresh.due_iff hlater, ← hexpired]
    split
    · next hgone => exact ⟨.inr rfl, iff_of_true rfl hgone⟩
    · next hkept => exact ⟨.inl rfl, iff_of_false (Option.some_ne_none record) hkept⟩

theorem within_window_and_interval_of_five :
    let policy : Policy := ⟨1, ⟨2, by decide⟩, ⟨3, by decide⟩⟩
    let turns : List Turn :=
      [.instant [], .deed (.attempt "a"), .instant [], .instant [], .instant [], .instant []]
    let tended := (spawn .zero 0).run policy turns
    tended.tracker.ledger.find? "a" = some ⟨1, ⟨1, by decide⟩⟩ ∧
      (tended.step policy (.instant [])).tracker.ledger.find? "a" = none := by
  intro policy turns
  have hlater : ((spawn .zero 0).run policy turns).tracker.now.next? = some ⟨6, by decide⟩ := by
    decide +kernel
  have harrived :
      (((spawn .zero 0).run policy turns).tracker.arrive policy ⟨6, by decide⟩ []).ledger.find? "a" =
        some ⟨1, ⟨1, by decide⟩⟩ := by
    decide +kernel
  obtain ⟨-, -, hgone⟩ :=
    (within_window_and_interval policy rfl .zero 0 turns).2 _ [] hlater "a" _ harrived
  have hdue : ∃ k, 1 ≤ k ∧ 6 = 0 + k * policy.sweepInterval.nanos := ⟨2, by decide, by decide⟩
  have hover : 1 + policy.window.nanos < 6 := by
    decide
  have hnone := hgone ⟨hdue, hover⟩
  refine ⟨?_, hnone⟩
  decide +kernel

end Tended

end Attempts

end LoginGateway
