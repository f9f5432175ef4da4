import LoginGateway.Proofs.Attempts.Isolation

namespace LoginGateway.Attempts

def Policy.withMaxAttempts (policy : Policy) (maxAttempts : UInt32) : Policy :=
  { policy with maxAttempts := maxAttempts }

theorem Record.expired_withMaxAttempts_iff (policy : Policy) (maxAttempts : UInt32) (now : Duration)
    {record raised : Record} (h : raised.windowStart = record.windowStart) :
    raised.Expired (policy.withMaxAttempts maxAttempts) now ↔ record.Expired policy now := by
  rw [Expired, Expired, h]
  rfl

/-- What a source has under a policy and under one that allows more: the same window, and the same count
as long as the lower number is not reached. -/
inductive Abreast (policy : Policy) : Option Record → Option Record → Prop
  | untracked : Abreast policy none none
  | tracked {record raised : Record} (window : raised.windowStart = record.windowStart)
      (count : record.count < policy.maxAttempts → raised.count = record.count) :
      Abreast policy (some record) (some raised)

namespace Abreast

variable {policy : Policy} {record raised : Option Record}

theorem refl (policy : Policy) : (record : Option Record) → Abreast policy record record
  | none => untracked
  | some _ => tracked rfl fun _ => rfl

theorem isSome_eq (h : Abreast policy record raised) : record.isSome = raised.isSome := by
  cases h <;> rfl

theorem sweep (h : Abreast policy record raised) (maxAttempts : UInt32) (now : Duration) :
    Abreast policy (record.filter fun r => !decide (r.Expired policy now))
      (raised.filter fun r => !decide (r.Expired (policy.withMaxAttempts maxAttempts) now)) := by
  cases h with
  | untracked => exact untracked
  | @tracked r r' hwindow hcount =>
    have hexp := Record.expired_withMaxAttempts_iff policy maxAttempts now hwindow
    by_cases hover : r.Expired policy now
    · simpa [Option.filter, hexp, hover] using untracked
    · simpa [Option.filter, hexp, hover] using tracked hwindow hcount

/-- One attempt keeps the records abreast. If it is refused under the higher number, it is refused under
the lower one, with the same wait. -/
theorem attempt {maxAttempts : UInt32} (h : Abreast policy record raised)
    (hmax : policy.maxAttempts ≤ maxAttempts) (now : Duration) :
    Abreast policy (some (Record.attempt policy now record).2)
        (some (Record.attempt (policy.withMaxAttempts maxAttempts) now raised).2) ∧
      ∀ wait, (Record.attempt (policy.withMaxAttempts maxAttempts) now raised).1 = .limited wait →
        (Record.attempt policy now record).1 = .limited wait := by
  cases h with
  | untracked => exact ⟨refl policy _, fun _ => id⟩
  | @tracked r r' hwindow hcount =>
    have hexp := Record.expired_withMaxAttempts_iff policy maxAttempts now hwindow
    by_cases hover : r.Expired policy now
    · rw [Record.attempt_of_expired hover, Record.attempt_of_expired (hexp.mpr hover)]
      exact ⟨refl policy _, fun _ => id⟩
    rw [Record.attempt_of_not_expired hover, Record.attempt_of_not_expired (mt hexp.mp hover)]
    by_cases hroom : r.count < policy.maxAttempts
    · have hroom' : r'.count < (policy.withMaxAttempts maxAttempts).maxAttempts := by
        rw [hcount hroom]
        exact UInt32.lt_of_lt_of_le hroom hmax
      rw [if_pos hroom, if_pos hroom']
      exact ⟨tracked hwindow fun _ => by rw [hcount hroom], fun _ => id⟩
    · rw [if_neg hroom]
      have hfull {n : UInt32} : r.count < policy.maxAttempts → n = r.count := (absurd · hroom)
      split
      · exact ⟨tracked hwindow hfull, by rintro wait ⟨⟩⟩
      · refine ⟨tracked hwindow hfull, fun wait hwait => ?_⟩
        rw [hwindow] at hwait
        exact hwait

end Abreast

namespace Ledger

theorem mem_sources_iff (ledger : Ledger) (source : String) :
    source ∈ ledger.entries.map Prod.fst ↔ (ledger.find? source).isSome = true := by
  rw [find?, List.lookup_isSome_iff, List.mem_map]
  refine exists_congr fun e => and_congr_right fun _ => ?_
  rw [beq_iff_eq, eq_comm]

theorem size_eq_of_isSome_eq {l m : Ledger}
    (h : ∀ source, (l.find? source).isSome = (m.find? source).isSome) : l.size = m.size := by
  have hperm : (l.entries.map Prod.fst).Perm (m.entries.map Prod.fst) := by
    rw [List.perm_ext_iff_of_nodup l.nodup m.nodup]
    intro source
    rw [mem_sources_iff, mem_sources_iff, h]
  simpa only [size, List.length_map] using hperm.length_eq

end Ledger

namespace Tracker

def swept (policy : Policy) (tracker : Tracker) : Nat :=
  tracker.ledger.size - (tracker.step policy .sweep).ledger.size

structure AllAbreast (policy : Policy) (tracker raised : Tracker) : Prop where
  now : raised.now = tracker.now
  records (source : String) :
    Abreast policy (tracker.ledger.find? source) (raised.ledger.find? source)

namespace AllAbreast

variable {policy : Policy} {maxAttempts : UInt32} {tracker raised : Tracker}

theorem tracks_eq (h : AllAbreast policy tracker raised) (source : String) :
    tracker.tracks source = raised.tracks source := (h.records source).isSome_eq

theorem size_eq (h : AllAbreast policy tracker raised) : tracker.ledger.size = raised.ledger.size :=
  Ledger.size_eq_of_isSome_eq h.tracks_eq

theorem step (h : AllAbreast policy tracker raised) (hmax : policy.maxAttempts ≤ maxAttempts)
    (action : Action) :
    AllAbreast policy (tracker.step policy action)
      (raised.step (policy.withMaxAttempts maxAttempts) action) := by
  refine ⟨by rw [now_step, now_step, h.now], fun source => ?_⟩
  have hsource := h.records source
  rw [find?_step, find?_step, h.now]
  cases action with
  | attempt s =>
    rw [recordAfter, recordAfter]
    split
    · exact (hsource.attempt hmax tracker.now).1
    · exact hsource
  | reset s =>
    rw [recordAfter, recordAfter]
    split
    · exact .untracked
    · exact hsource
  | sweep => exact hsource.sweep maxAttempts tracker.now
  | moveTo => exact hsource

theorem run (h : AllAbreast policy tracker raised) (hmax : policy.maxAttempts ≤ maxAttempts)
    (actions : List Action) :
    AllAbreast policy (tracker.run policy actions)
      (raised.run (policy.withMaxAttempts maxAttempts) actions) := by
  induction actions generalizing tracker raised with
  | nil => exact h
  | cons action actions ih => exact ih (h.step hmax action)

theorem swept_eq (h : AllAbreast policy tracker raised) (hmax : policy.maxAttempts ≤ maxAttempts) :
    tracker.swept policy = raised.swept (policy.withMaxAttempts maxAttempts) := by
  rw [swept, swept, h.size_eq, (h.step hmax .sweep).size_eq]

theorem limited (h : AllAbreast policy tracker raised) (hmax : policy.maxAttempts ≤ maxAttempts)
    {source : String} {wait : Duration}
    (hraised : raised.decision (policy.withMaxAttempts maxAttempts) source = .limited wait) :
    tracker.decision policy source = .limited wait := by
  rw [decision_eq, h.now] at hraised
  exact ((h.records source).attempt hmax tracker.now).2 wait hraised

theorem allowed (h : AllAbreast policy tracker raised) (hmax : policy.maxAttempts ≤ maxAttempts)
    {source : String} (hallowed : tracker.decision policy source = .allowed) :
    raised.decision (policy.withMaxAttempts maxAttempts) source = .allowed := by
  cases hraised : raised.decision (policy.withMaxAttempts maxAttempts) source with
  | allowed => rfl
  | limited wait =>
    rw [h.limited hmax hraised] at hallowed
    cases hallowed

end AllAbreast

/-- Nobody is locked out by a higher number of attempts: wherever a run has led, what is allowed stays
allowed, what is still refused is refused for as long, a sweep removes as many records, and the same
sources are tracked. -/
theorem raising_locks_nobody_out (policy : Policy) {maxAttempts : UInt32}
    (hmax : policy.maxAttempts ≤ maxAttempts) (start : Tracker) (actions : List Action) :
    let tracker := start.run policy actions
    let raised := start.run (policy.withMaxAttempts maxAttempts) actions
    (∀ source, tracker.decision policy source = .allowed →
        raised.decision (policy.withMaxAttempts maxAttempts) source = .allowed) ∧
      (∀ source wait, raised.decision (policy.withMaxAttempts maxAttempts) source = .limited wait →
        tracker.decision policy source = .limited wait) ∧
      tracker.swept policy = raised.swept (policy.withMaxAttempts maxAttempts) ∧
      ∀ source, tracker.tracks source = raised.tracks source := by
  have hstart : AllAbreast policy start start := ⟨rfl, fun _ => Abreast.refl policy _⟩
  have h := hstart.run hmax actions
  exact ⟨fun _ => h.allowed hmax, fun _ _ => h.limited hmax, h.swept_eq hmax, h.tracks_eq⟩

theorem raising_locks_nobody_out_of_two :
    let policy : Policy := { maxAttempts := 1, window := .ofSeconds 10 }
    let actions : List Action :=
      [.attempt "a", .attempt "a", .moveTo (.ofSeconds 12), .sweep, .attempt "a", .moveTo .zero,
        .attempt "b", .attempt "a", .moveTo (.ofSeconds 11)]
    let tracker := Tracker.run policy ⟨.zero, .empty⟩ actions
    let raised := Tracker.run (policy.withMaxAttempts 3) ⟨.zero, .empty⟩ actions
    policy.maxAttempts ≤ 3 ∧
      tracker.decision policy "a" = .limited (.ofSeconds 10) ∧
      raised.decision (policy.withMaxAttempts 3) "a" = .allowed ∧ tracker.swept policy = 1 ∧
      ((∀ source, tracker.decision policy source = .allowed →
          raised.decision (policy.withMaxAttempts 3) source = .allowed) ∧
        (∀ source wait, raised.decision (policy.withMaxAttempts 3) source = .limited wait →
          tracker.decision policy source = .limited wait) ∧
        tracker.swept policy = raised.swept (policy.withMaxAttempts 3) ∧
        ∀ source, tracker.tracks source = raised.tracks source) := by
  intro policy actions
  have hmax : policy.maxAttempts ≤ 3 := by decide
  exact ⟨hmax, by decide, by decide, by decide,
    raising_locks_nobody_out policy hmax ⟨.zero, .empty⟩ actions⟩

end Tracker

end LoginGateway.Attempts
