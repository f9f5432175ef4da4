import LoginGateway.Gateway.Auth
import LoginGateway.Proofs.Attempts.Run
import LoginGateway.Proofs.Config

namespace LoginGateway.Gateway.Interleaving

open Attempts

/-- Where a login stands. -/
inductive Stage where
  | arrived
  /-- The clock has been read, and the ledger is waited for. -/
  | timed (now : Duration)
  | admitted
  /-- The password was right, and the ledger is waited for. -/
  | matched
  | forgotten
  | answered (result : Except Failure Http.Response)

inductive Task where
  | login (headers : Http.Headers) (body : Http.Body) (stage : Stage)
  | sweepDue
  /-- The clock has been read for a sweep, and the ledger is waited for. -/
  | sweepTimed (now : Duration)
  | sweepDone

inductive Event where
  | read (now : Duration)
  | checked (source : String) (decision : Decision)
  | compared (source : String)
  | reset (source : String)
  | swept
  deriving DecidableEq

structure Outcome where
  task : Task
  gateway : Gateway
  events : List Event := []

/-- One step of a login, while the clock shows `clock`. -/
def loginStep (gateway : Gateway) (clock : Duration) (headers : Http.Headers) (body : Http.Body) :
    Stage → Outcome
  | .arrived => ⟨.login headers body (.timed clock), gateway, [.read clock]⟩
  | .timed now =>
    let source := Login.source headers
    match gateway.check now source with
    | (.allowed, gateway) => ⟨.login headers body .admitted, gateway, [.checked source .allowed]⟩
    | (.limited retryAfter, gateway) =>
      ⟨.login headers body (.answered (.error (.rateLimited retryAfter))), gateway,
        [.checked source (.limited retryAfter)]⟩
  | .admitted =>
    match givenPassword? body with
    | none => ⟨.login headers body (.answered (.error .badRequest)), gateway, []⟩
    | some password =>
      ⟨.login headers body (if password = gateway.config.password then .matched
        else .answered (.error .invalidPassword)), gateway, [.compared (Login.source headers)]⟩
  | .matched =>
    ⟨.login headers body .forgotten, gateway.reset (Login.source headers),
      [.reset (Login.source headers)]⟩
  | .forgotten => ⟨.login headers body (.answered (gateway.accepted clock)), gateway, []⟩
  | .answered result => ⟨.login headers body (.answered result), gateway, []⟩

def Task.step (gateway : Gateway) (clock : Duration) : Task → Outcome
  | .login headers body stage => loginStep gateway clock headers body stage
  | .sweepDue => ⟨.sweepTimed clock, gateway, [.read clock]⟩
  | .sweepTimed now => ⟨.sweepDone, gateway.sweep now, [.swept]⟩
  | .sweepDone => ⟨.sweepDone, gateway, []⟩

/-- A gateway, the tasks that run on it, and what was seen of them, the latest first. -/
structure System where
  gateway : Gateway
  tasks : List Task
  log : List Event := []

structure Turn where
  task : Nat
  clock : Duration

def System.step (system : System) (turn : Turn) : System :=
  match system.tasks[turn.task]? with
  | none => system
  | some task =>
    let outcome := task.step system.gateway turn.clock
    ⟨outcome.gateway, system.tasks.set turn.task outcome.task, outcome.events ++ system.log⟩

def System.run (system : System) (turns : List Turn) : System := turns.foldl System.step system

theorem step_single (gateway : Gateway) (task : Task) (log : List Event) (clock : Duration) :
    System.step ⟨gateway, [task], log⟩ ⟨0, clock⟩ =
      ⟨(task.step gateway clock).gateway, [(task.step gateway clock).task],
        (task.step gateway clock).events ++ log⟩ := rfl

theorem accepted_reset (gateway : Gateway) (source : String) (now : Duration) :
    (gateway.reset source).accepted now = gateway.accepted now := by
  have hconfig : (gateway.reset source).config = gateway.config := rfl
  have hcodec : (gateway.reset source).codec = gateway.codec := rfl
  rw [accepted, accepted, hconfig, hcodec]

/-- Five steps of a login with nothing between them. -/
theorem login_uninterrupted (gateway : Gateway) (now : Duration) (headers : Http.Headers)
    (body : Http.Body) :
    let system := System.run ⟨gateway, [.login headers body .arrived], []⟩
      (List.replicate 5 ⟨0, now⟩)
    system.gateway = (gateway.login now headers body).2 ∧
      system.tasks = [.login headers body (.answered (gateway.login now headers body).1)] := by
  simp only [System.run, List.replicate, List.foldl_cons, List.foldl_nil, step_single, Task.step,
    loginStep, Gateway.login]
  obtain ⟨decision, checked⟩ := gateway.check now (Login.source headers)
  cases decision with
  | limited retryAfter => exact ⟨rfl, rfl⟩
  | allowed =>
    cases hp : givenPassword? body with
    | none => simp only [hp, and_self]
    | some password =>
      by_cases hmatch : password = checked.config.password
      · simp only [hp, hmatch, if_true, accepted_reset, and_self]
      · simp only [hp, hmatch, if_false, and_self]

def Task.reading? : Task → Option Duration
  | .login _ _ (.timed now) => some now
  | .sweepTimed now => some now
  | _ => none

def Task.IsNew : Task → Prop
  | .login _ _ .arrived => True
  | .sweepDue => True
  | _ => False

def Task.isAdmitted (source : String) : Task → Bool
  | .login headers _ .admitted => Login.source headers == source
  | _ => false

section Counts

variable (source : String) (log : List Event)

def admissions : Nat := log.count (.checked source .allowed)

def comparisons : Nat := log.count (.compared source)

def resets : Nat := log.count (.reset source)

end Counts

/-- The readings of the clock lie within one window from `first` on. -/
def WithinWindow (window first now : Duration) : Prop := first ≤ now ∧ now.since first ≤ window

theorem not_expired {policy : Policy} {first now : Duration} {record : Record}
    (hnow : WithinWindow policy.window first now)
    (hstart : WithinWindow policy.window first record.windowStart) : ¬ record.Expired policy now := by
  obtain ⟨-, hlast⟩ := hnow
  obtain ⟨hfirst, -⟩ := hstart
  simp only [Record.Expired, Duration.lt_def, Duration.le_def, Duration.nanos_since] at *
  omega

instance (window first now : Duration) : Decidable (WithinWindow window first now) :=
  inferInstanceAs (Decidable (_ ∧ _))

/-- The record of a source lies within the window and has allowed no more than it may. -/
def Bounded (policy : Policy) (first : Duration) (record : Option Record) : Prop :=
  ∀ r, record = some r → WithinWindow policy.window first r.windowStart ∧ r.count ≤ policy.maxAttempts

def recorded (record : Option Record) : Nat := record.elim 0 fun r => r.count.toNat

/-- What has been allowed to `source` is paid for: by the resets, each with a whole window, and by the
record, which stays within its window. -/
structure Capped (policy : Policy) (source : String) (first : Duration) (system : System) : Prop where
  policy_eq : system.gateway.config.attempts = policy
  readings : ∀ task ∈ system.tasks, ∀ now, task.reading? = some now →
    WithinWindow policy.window first now
  record : Bounded policy first (system.gateway.ledger.find? source)
  paid : admissions source system.log ≤ policy.maxAttempts.toNat * resets source system.log +
    recorded (system.gateway.ledger.find? source)
  compared : comparisons source system.log + system.tasks.countP (·.isAdmitted source) ≤
    admissions source system.log

theorem countP_set {tasks : List Task} {i : Nat} {old : Task} (new : Task) (p : Task → Bool)
    (h : tasks[i]? = some old) :
    (tasks.set i new).countP p + (if p old then 1 else 0) =
      tasks.countP p + if p new then 1 else 0 := by
  obtain ⟨hi, hold⟩ := List.getElem?_eq_some_iff.mp h
  have hpos : p old = true → 0 < tasks.countP p := by
    intro hp
    exact List.countP_pos_iff.mpr ⟨old, List.mem_of_getElem? h, hp⟩
  rw [List.countP_set hi, hold]
  split <;> rename_i hp
  · have := hpos hp
    omega
  · omega

/-- A step that keeps within what is paid for. -/
structure Affordable (policy : Policy) (source : String) (first : Duration) (gateway : Gateway)
    (task : Task) (outcome : Outcome) : Prop where
  policy_eq : outcome.gateway.config.attempts = policy
  reading : ∀ now, outcome.task.reading? = some now → WithinWindow policy.window first now
  record : Bounded policy first (outcome.gateway.ledger.find? source)
  paid : admissions source outcome.events + recorded (gateway.ledger.find? source) ≤
    policy.maxAttempts.toNat * resets source outcome.events +
      recorded (outcome.gateway.ledger.find? source)
  compared : comparisons source outcome.events + (if outcome.task.isAdmitted source then 1 else 0) ≤
    admissions source outcome.events + if task.isAdmitted source then 1 else 0

theorem Capped.turn {policy : Policy} {source : String} {first : Duration} {system : System}
    (h : Capped policy source first system) {i : Nat} {task : Task}
    (htask : system.tasks[i]? = some task) {outcome : Outcome}
    (ho : Affordable policy source first system.gateway task outcome) :
    Capped policy source first
      ⟨outcome.gateway, system.tasks.set i outcome.task, outcome.events ++ system.log⟩ where
  policy_eq := ho.policy_eq
  readings := by
    intro t ht now hr
    obtain hold | rfl := List.mem_or_eq_of_mem_set ht
    · exact h.readings t hold now hr
    · exact ho.reading now hr
  record := ho.record
  paid := by
    have hbefore := h.paid
    have hstep := ho.paid
    simp only [admissions, resets, List.count_append, Nat.mul_add] at *
    omega
  compared := by
    have hbefore := h.compared
    have hstep := ho.compared
    have hset := countP_set outcome.task (·.isAdmitted source) htask
    simp only [admissions, comparisons, List.count_append] at *
    omega

section Steps

variable {policy : Policy} {source : String} {first : Duration} {gateway : Gateway}

theorem Affordable.quiet {task next : Task} {events : List Event}
    (hpolicy : gateway.config.attempts = policy)
    (hrecord : Bounded policy first (gateway.ledger.find? source))
    (hreading : ∀ now, next.reading? = some now → WithinWindow policy.window first now)
    (hadmissions : admissions source events = 0) (hresets : resets source events = 0)
    (hcompared : comparisons source events + (if next.isAdmitted source then 1 else 0) ≤
      if task.isAdmitted source then 1 else 0) :
    Affordable policy source first gateway task ⟨next, gateway, events⟩ := by
  refine ⟨hpolicy, hreading, hrecord, ?_, ?_⟩
  · apply Nat.le_of_eq
    rw [hadmissions, hresets, Nat.mul_zero]
  · rw [hadmissions, Nat.zero_add]
    exact hcompared

theorem Affordable.idle {task next : Task} (hpolicy : gateway.config.attempts = policy)
    (hrecord : Bounded policy first (gateway.ledger.find? source)) (hreading : next.reading? = none)
    (hadmitted : next.isAdmitted source = false) :
    Affordable policy source first gateway task ⟨next, gateway, []⟩ := by
  refine .quiet hpolicy hrecord ?_ rfl rfl ?_
  · intro now hr
    rw [hreading] at hr
    cases hr
  · rw [hadmitted, if_neg Bool.false_ne_true]
    exact Nat.zero_le _

theorem Affordable.read {task next : Task} {clock : Duration}
    (hpolicy : gateway.config.attempts = policy)
    (hrecord : Bounded policy first (gateway.ledger.find? source))
    (hreading : next.reading? = some clock) (hclock : WithinWindow policy.window first clock)
    (hadmitted : next.isAdmitted source = false) :
    Affordable policy source first gateway task ⟨next, gateway, [.read clock]⟩ := by
  refine .quiet hpolicy hrecord ?_ rfl rfl ?_
  · intro now hr
    rw [hreading] at hr
    cases hr
    exact hclock
  · rw [hadmitted, if_neg Bool.false_ne_true]
    exact Nat.zero_le _

theorem attempt_within {now : Duration} {record : Option Record} (hmax : policy.maxAttempts ≠ 0)
    (hnow : WithinWindow policy.window first now)
    (hrecord : Bounded policy first record) :
    WithinWindow policy.window first (Record.attempt policy now record).2.windowStart ∧
      (Record.attempt policy now record).2.count ≤ policy.maxAttempts ∧
      (if (Record.attempt policy now record).1 = .allowed then 1 else 0) + recorded record ≤
        (Record.attempt policy now record).2.count.toNat := by
  cases record with
  | none =>
    refine ⟨hnow, ?_, Nat.le_refl 1⟩
    have : policy.maxAttempts.toNat ≠ 0 := fun h => hmax (UInt32.toNat_inj.mp h)
    rw [UInt32.le_iff_toNat_le]
    exact Nat.one_le_iff_ne_zero.mpr this
  | some r =>
    obtain ⟨hstart, hcount⟩ := hrecord r rfl
    rw [Record.attempt_of_not_expired (not_expired hnow hstart)]
    by_cases hlt : r.count < policy.maxAttempts
    · have hsucc := Record.toNat_count_succ hlt
      rw [if_pos hlt]
      refine ⟨hstart, ?_, ?_⟩
      · rw [UInt32.le_iff_toNat_le, hsucc]
        exact UInt32.lt_iff_toNat_lt.mp hlt
      · rw [hsucc, if_pos rfl, Nat.add_comm]
        exact Nat.le_refl _
    · rw [if_neg hlt, if_neg (by simp), Nat.zero_add]
      exact ⟨hstart, hcount, Nat.le_refl _⟩

theorem check_eq (gateway : Gateway) (now : Duration) (s : String) :
    gateway.check now s =
      ((Record.attempt gateway.config.attempts now (gateway.ledger.find? s)).1,
        gateway.withLedger (gateway.ledger.put s
          (Record.attempt gateway.config.attempts now (gateway.ledger.find? s)).2)) := rfl

theorem affordable_check {now : Duration} (headers : Http.Headers) (body : Http.Body)
    (clock : Duration) (hpolicy : gateway.config.attempts = policy) (hmax : policy.maxAttempts ≠ 0)
    (hrecord : Bounded policy first (gateway.ledger.find? source))
    (hnow : WithinWindow policy.window first now) :
    Affordable policy source first gateway (.login headers body (.timed now))
      (loginStep gateway clock headers body (.timed now)) := by
  subst hpolicy
  have hwithin := fun hs : source = Login.source headers => attempt_within hmax hnow (hs ▸ hrecord)
  rw [loginStep, check_eq]
  generalize Record.attempt gateway.config.attempts now
    (gateway.ledger.find? (Login.source headers)) = attempted at hwithin
  obtain ⟨decision, record⟩ := attempted
  have hfind : (gateway.withLedger (gateway.ledger.put (Login.source headers) record)).ledger.find?
      source = if source = Login.source headers then some record else gateway.ledger.find? source :=
    Ledger.find?_put ..
  have hafter : Bounded gateway.config.attempts first
      ((gateway.withLedger (gateway.ledger.put (Login.source headers) record)).ledger.find? source) := by
    intro r hr
    rw [hfind] at hr
    split at hr
    · next hs =>
      cases hr
      exact ⟨(hwithin hs).1, (hwithin hs).2.1⟩
    · exact hrecord r hr
  have hpaid : (if Login.source headers = source ∧ decision = .allowed then 1 else 0) +
      recorded (gateway.ledger.find? source) ≤
        recorded ((gateway.withLedger (gateway.ledger.put (Login.source headers) record)).ledger.find?
          source) := by
    rw [hfind]
    by_cases hs : source = Login.source headers
    · simpa [hs, recorded] using (hwithin hs).2.2
    · simp [hs, Ne.symm hs]
  cases decision with
  | allowed =>
    refine ⟨rfl, ?_, hafter, ?_, ?_⟩
    · intro now hr
      cases hr
    · simpa [admissions, resets, List.count_singleton] using hpaid
    · simp [comparisons, admissions, Task.isAdmitted, List.count_singleton]
  | limited retryAfter =>
    refine ⟨rfl, ?_, hafter, ?_, ?_⟩
    · intro now hr
      cases hr
    · simpa [admissions, resets] using hpaid
    · simp [comparisons, Task.isAdmitted]

theorem affordable_reset (headers : Http.Headers) (body : Http.Body) (clock : Duration)
    (hpolicy : gateway.config.attempts = policy)
    (hrecord : Bounded policy first (gateway.ledger.find? source)) :
    Affordable policy source first gateway (.login headers body .matched)
      (loginStep gateway clock headers body .matched) := by
  have hfind : (gateway.reset (Login.source headers)).ledger.find? source =
      if source = Login.source headers then none else gateway.ledger.find? source :=
    Ledger.find?_reset ..
  refine ⟨hpolicy, ?_, ?_, ?_, ?_⟩
  · intro now hr
    cases hr
  · intro r hr
    rw [loginStep, hfind] at hr
    split at hr
    · cases hr
    · exact hrecord r hr
  · rw [loginStep, hfind]
    by_cases hs : source = Login.source headers
    · -- the attempts that the record forgets are no more than the reset pays for
      have hcount : recorded (gateway.ledger.find? source) ≤ policy.maxAttempts.toNat := by
        cases hr : gateway.ledger.find? source with
        | none => exact Nat.zero_le _
        | some r => exact UInt32.le_iff_toNat_le.mp (hrecord r hr).2
      simpa [admissions, resets, hs] using hs ▸ hcount
    · simp [admissions, resets, hs, Ne.symm hs]
  · simp [loginStep, comparisons, Task.isAdmitted]

/-- A sweep within the window forgets no record that counts. -/
theorem affordable_sweep {now : Duration} (hpolicy : gateway.config.attempts = policy)
    (hrecord : Bounded policy first (gateway.ledger.find? source))
    (hnow : WithinWindow policy.window first now) :
    Affordable policy source first gateway (.sweepTimed now)
      ⟨.sweepDone, gateway.sweep now, [.swept]⟩ := by
  have hfind : (gateway.sweep now).ledger.find? source = gateway.ledger.find? source := by
    rw [Gateway.sweep, Gateway.withLedger, Ledger.find?_sweep, hpolicy]
    cases hr : gateway.ledger.find? source with
    | none => rfl
    | some r =>
      have hopen := not_expired hnow (hrecord r hr).1
      simp [Option.filter, hopen]
  refine ⟨hpolicy, ?_, ?_, ?_, ?_⟩
  · intro now hr
    cases hr
  · intro r hr
    rw [hfind] at hr
    exact hrecord r hr
  · rw [hfind]
    simp [admissions, resets]
  · simp [comparisons, Task.isAdmitted]

theorem affordable_step (task : Task) (clock : Duration)
    (hpolicy : gateway.config.attempts = policy) (hmax : policy.maxAttempts ≠ 0)
    (hrecord : Bounded policy first (gateway.ledger.find? source))
    (hreading : ∀ now, task.reading? = some now → WithinWindow policy.window first now)
    (hclock : ∀ now, .read now ∈ (task.step gateway clock).events →
      WithinWindow policy.window first now) :
    Affordable policy source first gateway task (task.step gateway clock) := by
  cases task with
  | login headers body stage =>
    cases stage with
    | arrived => exact .read hpolicy hrecord rfl (hclock clock List.mem_cons_self) rfl
    | timed now => exact affordable_check headers body clock hpolicy hmax hrecord (hreading now rfl)
    | admitted =>
      simp only [Task.step, loginStep]
      split
      · exact .idle hpolicy hrecord rfl rfl
      · refine .quiet hpolicy hrecord ?_ rfl rfl ?_
        · intro now hr
          split at hr <;> cases hr
        · split <;> simp [comparisons, Task.isAdmitted, List.count_singleton]
    | matched => exact affordable_reset headers body clock hpolicy hrecord
    | forgotten => exact .idle hpolicy hrecord rfl rfl
    | answered => exact .idle hpolicy hrecord rfl rfl
  | sweepDue => exact .read hpolicy hrecord rfl (hclock clock List.mem_cons_self) rfl
  | sweepTimed now => exact affordable_sweep hpolicy hrecord (hreading now rfl)
  | sweepDone => exact .idle hpolicy hrecord rfl rfl

end Steps

theorem log_step (system : System) (turn : Turn) : system.log <:+ (system.step turn).log := by
  rw [System.step]
  split
  · exact List.suffix_rfl
  · exact List.suffix_append _ _

theorem log_run (system : System) (turns : List Turn) : system.log <:+ (system.run turns).log := by
  induction turns generalizing system with
  | nil => exact List.suffix_rfl
  | cons turn turns ih => exact (log_step system turn).trans (ih (system.step turn))

section Runs

variable {policy : Policy} {source : String} {first : Duration}

theorem capped_step {system : System} (h : Capped policy source first system)
    (hmax : policy.maxAttempts ≠ 0) (turn : Turn)
    (hclock : ∀ now, .read now ∈ (system.step turn).log → WithinWindow policy.window first now) :
    Capped policy source first (system.step turn) := by
  rw [System.step] at hclock ⊢
  split
  · exact h
  · next task htask =>
    rw [htask] at hclock
    refine h.turn htask (affordable_step task turn.clock h.policy_eq hmax h.record ?_ ?_)
    · exact h.readings task (List.mem_of_getElem? htask)
    · intro now hread
      exact hclock now (List.mem_append_left _ hread)

theorem capped_run {system : System} (h : Capped policy source first system)
    (hmax : policy.maxAttempts ≠ 0) (turns : List Turn)
    (hclock : ∀ now, .read now ∈ (system.run turns).log → WithinWindow policy.window first now) :
    Capped policy source first (system.run turns) := by
  -- the log only grows, so a reading of the first step is one of the whole run
  induction turns generalizing system with
  | nil => exact h
  | cons turn turns ih =>
    refine ih (capped_step h hmax turn ?_) hclock
    intro now hread
    exact hclock now ((log_run (system.step turn) turns).mem hread)

theorem capped_start {gateway : Gateway} {tasks : List Task} (first : Duration)
    (hnew : ∀ task ∈ tasks, task.IsNew) (hsource : gateway.ledger.find? source = none) :
    Capped gateway.config.attempts source first ⟨gateway, tasks, []⟩ where
  policy_eq := rfl
  readings := by
    intro task htask now hr
    have := hnew task htask
    unfold Task.reading? at hr
    split at hr
    · exact this.elim
    · exact this.elim
    · cases hr
  record := by
    intro r hr
    rw [hsource] at hr
    cases hr
  paid := Nat.zero_le _
  compared := by
    have hnone : tasks.countP (·.isAdmitted source) = 0 := by
      rw [List.countP_eq_zero]
      intro task htask hadmitted
      have := hnew task htask
      unfold Task.isAdmitted at hadmitted
      split at hadmitted
      · exact this.elim
      · cases hadmitted
    rw [hnone]
    exact Nat.le_refl 0

end Runs

/-- Logins and sweeps that begin while nothing is known of `source` interleave in any way, and read
the clock at times within one window. Then `source` is admitted at most as often as the greatest
number of attempts for each reset of it and once more, and no more passwords are compared for it. -/
theorem admissions_le (gateway : Gateway) (tasks : List Task) (turns : List Turn) (source : String)
    (first : Duration) (hnew : ∀ task ∈ tasks, task.IsNew)
    (hsource : gateway.ledger.find? source = none)
    (hclock : ∀ now, .read now ∈ (System.run ⟨gateway, tasks, []⟩ turns).log →
      WithinWindow gateway.config.attempts.window first now) :
    let log := (System.run ⟨gateway, tasks, []⟩ turns).log
    admissions source log ≤
        gateway.config.attempts.maxAttempts.toNat * (1 + resets source log) ∧
      comparisons source log ≤ admissions source log := by
  have hmax := (Config.fault?_eq_none_iff.mp gateway.valid).maxAttempts
  have h := capped_run (capped_start first hnew hsource) hmax turns hclock
  have hpaid := h.paid
  have hcompared := h.compared
  have hrecorded : recorded ((System.run ⟨gateway, tasks, []⟩ turns).gateway.ledger.find? source) ≤
      gateway.config.attempts.maxAttempts.toNat := by
    cases hr : (System.run ⟨gateway, tasks, []⟩ turns).gateway.ledger.find? source with
    | none => exact Nat.zero_le _
    | some r => exact UInt32.le_iff_toNat_le.mp (h.record r hr).2
  refine ⟨?_, by omega⟩
  rw [Nat.mul_add, Nat.mul_one]
  omega

def oneAttempt : Gateway where
  config := { Config.small with attempts := { maxAttempts := 1 } }
  valid := by decide +kernel
  ledger := .empty

/-- The second login reads a time at the end of the window, and is let in only after the first one
has been forgotten. -/
theorem admissions_le_of_stale_reading :
    let tasks : List Task := [.login [] ⟨"[\"p\"]".toUTF8, true⟩ .arrived,
      .login [] ⟨.empty, true⟩ .arrived, .sweepDue]
    let turns : List Turn := [⟨2, .zero⟩, ⟨1, .ofSeconds 900⟩, ⟨0, .zero⟩, ⟨0, .zero⟩, ⟨0, .zero⟩,
      ⟨0, .zero⟩, ⟨1, .zero⟩, ⟨2, .zero⟩]
    let log := (System.run ⟨oneAttempt, tasks, []⟩ turns).log
    log = [.swept, .checked Login.loopback .allowed, .reset Login.loopback, .compared Login.loopback,
      .checked Login.loopback .allowed, .read .zero, .read (.ofSeconds 900), .read .zero] ∧
    admissions Login.loopback log ≤ 1 * (1 + resets Login.loopback log) ∧
      comparisons Login.loopback log ≤ admissions Login.loopback log := by
  intro tasks turns log
  have hlog : log = [.swept, .checked Login.loopback .allowed, .reset Login.loopback,
      .compared Login.loopback, .checked Login.loopback .allowed, .read .zero, .read (.ofSeconds 900),
      .read .zero] := by
    decide +kernel
  refine ⟨hlog, admissions_le oneAttempt tasks turns Login.loopback .zero ?_ rfl ?_⟩
  · simp [tasks, Task.IsNew]
  · intro now hread
    have hread : .read now ∈ log := hread
    rw [hlog] at hread
    have hnow : now = .zero ∨ now = .ofSeconds 900 ∨ now = .zero := by simpa using hread
    obtain rfl | rfl | rfl := hnow <;> decide

end LoginGateway.Gateway.Interleaving
