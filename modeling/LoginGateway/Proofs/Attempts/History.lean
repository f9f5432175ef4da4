import LoginGateway.Proofs.Attempts.Run

namespace LoginGateway.Attempts

inductive Event where
  | attempt (time : Duration)
  | reset
  deriving DecidableEq

/-- What `source` does by an action at `now`. -/
def eventOf (source : String) (now : Duration) : Action → List Event
  | .attempt s => if source = s then [.attempt now] else []
  | .reset s => if source = s then [.reset] else []
  | .sweep | .moveTo _ => []

def eventsOf (source : String) : Duration → List Action → List Event
  | _, [] => []
  | now, action :: actions =>
    eventOf source now action ++ eventsOf source (Tracker.clockAfter now action) actions

theorem eventsOf_append (source : String) (now : Duration) (before actions : List Action) :
    eventsOf source now (before ++ actions) =
      eventsOf source now before ++ eventsOf source (before.foldl Tracker.clockAfter now) actions := by
  induction before generalizing now with
  | nil => rfl
  | cons action before ih =>
    rw [List.cons_append, eventsOf, eventsOf, ih, List.append_assoc, List.foldl_cons]

/-- The attempts of a source since its last reset with the answers to them, the first one first. -/
abbrev History := List (Duration × Decision)

namespace History

def times (history : History) : List Duration := history.map Prod.fst

/-- The last of the windows of which the first one opens at `a`: the next one opens with the first
attempt made more than `window` after that, and so on. -/
def lastOpening (window a : Duration) : List Duration → Duration
  | [] => a
  | t :: later => if window < t.since a then lastOpening window t later else lastOpening window a later

def opening? (window : Duration) : List Duration → Option Duration
  | [] => none
  | a :: later => some (lastOpening window a later)

def allowedSince (a : Duration) (history : History) : Nat :=
  history.countP fun e => decide (a ≤ e.1) && e.2.isAllowed

variable (policy : Policy)

/-- The answer to an attempt at `t`. -/
def answer (history : History) (t : Duration) : Decision :=
  match opening? policy.window history.times with
  | none => .allowed
  | some a =>
    if policy.window < t.since a then .allowed
    else if allowedSince a history < max 1 policy.maxAttempts.toNat then .allowed
    else .limited (policy.window.since (t.since a))

def add (history : History) : Event → History
  | .attempt t => history ++ [(t, answer policy history t)]
  | .reset => []

def ofEvents (events : List Event) : History := events.foldl (add policy) []

theorem lastOpening_append (window a t : Duration) (later : List Duration) :
    lastOpening window a (later ++ [t]) =
      if window < t.since (lastOpening window a later) then t else lastOpening window a later := by
  induction later generalizing a with
  | nil => rfl
  | cons u later ih =>
    simp only [List.cons_append, lastOpening]
    split
    · exact ih u
    · exact ih a

theorem opening?_append (window t : Duration) (times : List Duration) :
    opening? window (times ++ [t]) =
      match opening? window times with
      | none => some t
      | some a => some (if window < t.since a then t else a) := by
  cases times with
  | nil => rfl
  | cons a later => exact congrArg some (lastOpening_append window a t later)

theorem allowedSince_append (a t : Duration) (d : Decision) (history : History) :
    allowedSince a (history ++ [(t, d)]) =
      allowedSince a history + if a ≤ t ∧ d.isAllowed then 1 else 0 := by
  simp [allowedSince, List.countP_append, List.countP_singleton]

end History

open History in
/-- The record that a ledger has of a source at `now` stands for the history of the source: it holds
the window that is open and its count, and it is missing only where no window is open. -/
structure Represents (policy : Policy) (now : Duration) (history : History) (record : Option Record) :
    Prop where
  past : ∀ a, opening? policy.window history.times = some a → a ≤ now
  inside : ∀ a, opening? policy.window history.times = some a →
    ∀ e ∈ history, ¬ policy.window < e.1.since a
  kept : ∀ r, record = some r → opening? policy.window history.times = some r.windowStart ∧
    r.count.toNat = allowedSince r.windowStart history ∧ 1 ≤ r.count.toNat
  dropped : record = none → ∀ a, opening? policy.window history.times = some a →
    policy.window < now.since a

namespace Represents

open History

variable {policy : Policy} {now : Duration} {history : History} {record : Option Record}

theorem nil : Represents policy now [] none where
  past _ h := by cases h
  inside _ h := by cases h
  kept _ h := by cases h
  dropped _ _ h := by cases h

theorem decision_eq (h : Represents policy now history record) :
    (Record.attempt policy now record).1 = answer policy history now := by
  cases record with
  | none =>
    rw [answer]
    split
    · rfl
    · next a ha =>
      rw [if_pos (h.dropped rfl a ha)]
      rfl
  | some r =>
    obtain ⟨ho, hc, hpos⟩ := h.kept r rfl
    have hlt : r.count < policy.maxAttempts ↔
        allowedSince r.windowStart history < max 1 policy.maxAttempts.toNat := by
      rw [UInt32.lt_iff_toNat_lt, ← hc]
      omega
    simp only [Record.attempt, Record.Expired, answer, ho, hlt]
    split
    · rfl
    · split <;> rfl

theorem opens (h : Represents policy now history record)
    (hopen : ∀ a, opening? policy.window history.times = some a → policy.window < now.since a) :
    Represents policy now (history ++ [(now, .allowed)]) (some ⟨1, now⟩) := by
  have hbefore : ∀ e ∈ history, e.1 < now := by
    intro e he
    cases ho : opening? policy.window history.times with
    | none =>
      cases history with
      | nil => cases he
      | cons => simp [times, opening?] at ho
    | some a =>
      have hin := h.inside a ho e he
      have hout := hopen a ho
      simp only [Duration.lt_def, Duration.nanos_since] at hin hout ⊢
      omega
  have hnew : opening? policy.window (times (history ++ [(now, .allowed)])) = some now := by
    rw [times, List.map_append, List.map_singleton, opening?_append]
    split
    · rfl
    · next a ha => rw [if_pos (hopen a ha)]
  have hnone : allowedSince now history = 0 := by
    rw [allowedSince, List.countP_eq_zero]
    intro e he
    have hlt := hbefore e he
    simp only [Duration.lt_def] at hlt
    simp only [Bool.and_eq_true, decide_eq_true_eq, Duration.le_def, not_and]
    omega
  constructor
  · intro a ha
    rw [hnew] at ha
    cases ha
    exact Nat.le_refl _
  · intro a ha e he
    rw [hnew] at ha
    cases ha
    have hle : e.1.nanos ≤ now.nanos := by
      obtain hold | hlast := List.mem_append.mp he
      · exact Nat.le_of_lt (hbefore e hold)
      · exact Nat.le_of_eq (congrArg (·.1.nanos) (List.mem_singleton.mp hlast))
    simp only [Duration.lt_def, Duration.nanos_since]
    omega
  · intro r hr
    cases hr
    refine ⟨hnew, ?_, Nat.le_refl 1⟩
    rw [allowedSince_append, hnone, if_pos ⟨Nat.le_refl _, rfl⟩]
    rfl
  · intro hr
    cases hr

theorem stays {r : Record} (h : Represents policy now history (some r))
    (hopen : ¬ policy.window < now.since r.windowStart) (d : Decision) (count : UInt32)
    (hcount : count.toNat = r.count.toNat + if d.isAllowed then 1 else 0) :
    Represents policy now (history ++ [(now, d)]) (some { r with count }) := by
  obtain ⟨ho, hc, hpos⟩ := h.kept r rfl
  have hsame : opening? policy.window (times (history ++ [(now, d)])) = some r.windowStart := by
    rw [times, List.map_append, List.map_singleton, opening?_append]
    rw [times] at ho
    rw [ho]
    exact congrArg some (if_neg hopen)
  constructor
  · intro a ha
    rw [hsame] at ha
    cases ha
    exact h.past _ ho
  · intro a ha e he
    rw [hsame] at ha
    cases ha
    obtain hold | hlast := List.mem_append.mp he
    · exact h.inside _ ho e hold
    · rw [List.mem_singleton.mp hlast]
      exact hopen
  · intro r' hr
    cases hr
    refine ⟨hsame, ?_, hcount ▸ Nat.le_add_right_of_le hpos⟩
    rw [allowedSince_append, hcount, hc]
    simp [h.past _ ho]
  · intro hr
    cases hr

theorem attempt (h : Represents policy now history record) :
    Represents policy now (add policy history (.attempt now))
      (some (Record.attempt policy now record).2) := by
  rw [add, ← h.decision_eq]
  cases record with
  -- the record may have been swept away, but then no window was open
  | none => exact h.opens (h.dropped rfl)
  | some r =>
    obtain ⟨ho, -, -⟩ := h.kept r rfl
    by_cases hexp : policy.window < now.since r.windowStart
    · have hopen : ∀ a, opening? policy.window history.times = some a →
          policy.window < now.since a := by
        intro a ha
        rw [ho] at ha
        cases ha
        exact hexp
      rw [Record.attempt_of_expired hexp]
      exact h.opens hopen
    · rw [Record.attempt_of_not_expired hexp]
      by_cases hlt : r.count < policy.maxAttempts
      · rw [if_pos hlt]
        exact h.stays hexp .allowed (r.count + 1) (Record.toNat_count_succ hlt)
      · rw [if_neg hlt]
        exact h.stays hexp (.limited (policy.window.since (now.since r.windowStart))) r.count rfl

theorem sweep (h : Represents policy now history record) :
    Represents policy now history (record.filter fun r => !decide (r.Expired policy now)) := by
  refine ⟨h.past, h.inside, ?_, ?_⟩
  · intro r hr
    exact h.kept r (Option.filter_eq_some_iff.mp hr).1
  · intro hr a ha
    cases record with
    | none => exact h.dropped rfl a ha
    | some r =>
      obtain ⟨ho, -, -⟩ := h.kept r rfl
      rw [ho] at ha
      cases ha
      have hexp : r.Expired policy now := by simpa [Option.filter] using hr
      exact hexp

theorem moveTo (h : Represents policy now history record) {time : Duration} (ht : now ≤ time) :
    Represents policy time history record := by
  rw [Duration.le_def] at ht
  refine ⟨fun a ha => Nat.le_trans (h.past a ha) ht, h.inside, h.kept, ?_⟩
  intro hr a ha
  have hlt := h.dropped hr a ha
  simp only [Duration.lt_def, Duration.nanos_since] at hlt ⊢
  omega

end Represents

section Runs

open Tracker

variable {policy : Policy}

theorem represents_step (source : String) (tracker : Tracker) (history : History) (action : Action)
    (h : Represents policy tracker.now history (tracker.ledger.find? source))
    (hforward : tracker.now ≤ clockAfter tracker.now action) :
    Represents policy (tracker.step policy action).now
      ((eventOf source tracker.now action).foldl (History.add policy) history)
      ((tracker.step policy action).ledger.find? source) := by
  rw [find?_step]
  cases action with
  | attempt s =>
    rw [eventOf, recordAfter]
    by_cases hs : source = s
    · rw [if_pos hs, if_pos hs]
      exact h.attempt
    · rw [if_neg hs, if_neg hs]
      exact h
  | reset s =>
    rw [eventOf, recordAfter]
    by_cases hs : source = s
    · rw [if_pos hs, if_pos hs]
      exact Represents.nil
    · rw [if_neg hs, if_neg hs]
      exact h
  | sweep => exact h.sweep
  | moveTo time => exact h.moveTo hforward

theorem represents_run (source : String) (tracker : Tracker) (history : History)
    (actions : List Action)
    (h : Represents policy tracker.now history (tracker.ledger.find? source))
    (hforward : Forward tracker.now actions) :
    Represents policy (tracker.run policy actions).now
      ((eventsOf source tracker.now actions).foldl (History.add policy) history)
      ((tracker.run policy actions).ledger.find? source) := by
  induction actions generalizing tracker history with
  | nil => exact h
  | cons action actions ih =>
    have hstep := represents_step source tracker history action h hforward.1
    rw [run_cons, eventsOf, List.foldl_append, ← now_step policy tracker action]
    exact ih _ _ hstep (by rw [now_step]; exact hforward.2)

variable (policy) (start : Duration)

def answered (before : List Action) : Action → List Decision
  | .attempt source =>
    [History.answer policy (History.ofEvents policy (eventsOf source start before))
      (before.foldl clockAfter start)]
  | .reset _ | .sweep | .moveTo _ => []

def answersAfter (before : List Action) : List Action → List Decision
  | [] => []
  | action :: actions =>
    answered policy start before action ++ answersAfter (before ++ [action]) actions

def answers (actions : List Action) : List Decision := answersAfter policy start [] actions

/-- Nothing but what the sources did and the clock decides about an attempt. -/
theorem answersAfter_filter (before before' actions : List Action)
    (hevents : ∀ source, eventsOf source start before' = eventsOf source start before)
    (hclock : before'.foldl clockAfter start = before.foldl clockAfter start) :
    answersAfter policy start before' (actions.filter (!·.isSweep)) =
      answersAfter policy start before actions := by
  induction actions generalizing before before' with
  | nil => rfl
  | cons action actions ih =>
    have hsnoc : ∀ source, eventsOf source start (before' ++ [action]) =
        eventsOf source start (before ++ [action]) := by
      intro source
      rw [eventsOf_append, eventsOf_append, hevents, hclock]
    have hclock' : (before' ++ [action]).foldl clockAfter start =
        (before ++ [action]).foldl clockAfter start := by
      rw [List.foldl_append, List.foldl_append, hclock]
    have hrest := ih (before ++ [action]) (before' ++ [action]) hsnoc hclock'
    cases action with
    | sweep =>
      rw [List.filter_cons_of_neg (by simp [Action.isSweep])]
      refine ih (before ++ [.sweep]) before' ?_ ?_
      · intro source
        rw [eventsOf_append, hevents]
        simp [eventsOf, eventOf]
      · rw [List.foldl_append, hclock]
        rfl
    | attempt source =>
      rw [List.filter_cons_of_pos (by simp [Action.isSweep]), answersAfter, answersAfter, hrest,
        answered, answered, hevents, hclock]
    | reset | moveTo =>
      rw [List.filter_cons_of_pos (by simp [Action.isSweep]), answersAfter, answersAfter, hrest,
        answered, answered]

theorem answers_filter (actions : List Action) :
    answers policy start (actions.filter (!·.isSweep)) = answers policy start actions :=
  answersAfter_filter policy start [] [] actions (fun _ => rfl) rfl

theorem decided_eq_answered (before : List Action) (action : Action) (hforward : Forward start before) :
    decided policy (run policy ⟨start, .empty⟩ before) action = answered policy start before action := by
  cases action with
  | attempt source =>
    have hstart : Represents policy start [] none := .nil
    have h := represents_run source ⟨start, .empty⟩ [] before hstart hforward
    rw [decided, answered, decision_eq, h.decision_eq, now_run]
    rfl
  | reset | sweep | moveTo => rfl

theorem decisions_run (before actions : List Action) (hforward : Forward start (before ++ actions)) :
    decisions policy (run policy ⟨start, .empty⟩ before) actions =
      answersAfter policy start before actions := by
  induction actions generalizing before with
  | nil => rfl
  | cons action actions ih =>
    have hbefore : Forward start before := forward_of_append hforward
    have hrest := ih (before ++ [action]) (by rw [List.append_assoc]; exact hforward)
    rw [run_append] at hrest
    rw [decisions, answersAfter, decided_eq_answered policy start before action hbefore, ← hrest]
    rfl

/-- Every attempt of a run is answered as the rule answers it from what its source has done, and
sweeps more or less change no answer. -/
theorem decisions_eq_answers (actions : List Action) (hforward : Forward start actions) :
    decisions policy ⟨start, .empty⟩ actions = answers policy start actions ∧
      ∀ others : List Action, others.filter (!·.isSweep) = actions.filter (!·.isSweep) →
        decisions policy ⟨start, .empty⟩ others = decisions policy ⟨start, .empty⟩ actions := by
  refine ⟨decisions_run policy start [] actions hforward, ?_⟩
  intro others hsame
  have hothers : Forward start others := by
    rw [← forward_filter, hsame, forward_filter]
    exact hforward
  calc decisions policy ⟨start, .empty⟩ others
      = answers policy start others := decisions_run policy start [] others hothers
    _ = answers policy start actions := by rw [← answers_filter, hsame, answers_filter]
    _ = decisions policy ⟨start, .empty⟩ actions := (decisions_run policy start [] actions hforward).symm

theorem decisions_eq_answers_past_window :
    Forward .zero [.attempt "a", .attempt "a", .moveTo (.ofSeconds 901), .sweep, .attempt "a"] ∧
      decisions { maxAttempts := 1 } ⟨.zero, .empty⟩
          [.attempt "a", .attempt "a", .moveTo (.ofSeconds 901), .sweep, .attempt "a"] =
        [.allowed, .limited (.ofSeconds 900), .allowed] := by
  refine ⟨by decide, ?_⟩
  rw [(decisions_eq_answers _ _ _ (by decide)).1]
  decide

end Runs

end LoginGateway.Attempts
