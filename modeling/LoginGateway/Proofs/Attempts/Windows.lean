import LoginGateway.Proofs.Attempts.Isolation
import LoginGateway.Proofs.Attempts.Quota
import LoginGateway.Proofs.Attempts.Raising
import Mathlib.Data.Set.Card

namespace LoginGateway.Attempts

/-- The times of the attempts of a source in its window, of which the first one opened it; none without
a window. -/
abbrev Window := List Duration

namespace Window

variable (policy : Policy) (source : String) (now : Duration) (window : Window)

/-- There is a window, and it is over. A clock that went back leaves it open. -/
def Over : Prop := ∃ opening ∈ window.head?, policy.window < now.since opening

instance : Decidable (Over policy now window) := inferInstanceAs (Decidable (∃ opening ∈ window.head?, _))

def Forgets : Action → Prop
  | .reset s => s = source
  | .sweep => window.Over policy now
  | .attempt _ | .moveTo _ => False

instance : (action : Action) → Decidable (Forgets policy source now window action)
  | .reset s => inferInstanceAs (Decidable (s = source))
  | .sweep => inferInstanceAs (Decidable (window.Over policy now))
  | .attempt _ | .moveTo _ => inferInstanceAs (Decidable False)

/-- An attempt that finds no open window opens one, and every other attempt belongs to the one that is
open. -/
def after (action : Action) : Window :=
  if action = .attempt source then
    if window.Over policy now then [now] else window ++ [now]
  else if window.Forgets policy source now action then [] else window

section After

variable {policy source now window} {action : Action}

theorem after_attempt_of_over (h : window = [] ∨ window.Over policy now) :
    window.after policy source now (.attempt source) = [now] := by
  rw [after, if_pos rfl]
  obtain rfl | hover := h
  · rw [List.nil_append, ite_self]
  · rw [if_pos hover]

theorem after_attempt_of_open (h : ¬ window.Over policy now) :
    window.after policy source now (.attempt source) = window ++ [now] := by
  rw [after, if_pos rfl, if_neg h]

theorem after_of_ne (hne : action ≠ .attempt source) :
    window.after policy source now action =
      if window.Forgets policy source now action then [] else window :=
  if_neg hne

theorem after_attempt_of_other {s : String} (h : source ≠ s) :
    window.after policy source now (.attempt s) = window := by
  rw [after_of_ne fun heq => h (Action.attempt.inj heq).symm]
  exact if_neg not_false

theorem after_reset (s : String) :
    window.after policy source now (.reset s) = if source = s then [] else window := by
  rw [after_of_ne Action.noConfusion]
  exact ite_congr (propext eq_comm) (fun _ => rfl) fun _ => rfl

theorem after_sweep :
    window.after policy source now .sweep = if window.Over policy now then [] else window :=
  after_of_ne Action.noConfusion

theorem after_moveTo (time : Duration) : window.after policy source now (.moveTo time) = window :=
  after_of_ne Action.noConfusion

end After

end Window

section Past

variable (policy : Policy) (source : String) (start : Duration)

def windowFrom : Duration → Window → List Action → Window
  | _, window, [] => window
  | now, window, action :: actions =>
    windowFrom (Tracker.clockAfter now action) (window.after policy source now action) actions

def windowOf (actions : List Action) : Window := windowFrom policy source start [] actions

def clockAt (actions : List Action) : Duration := actions.foldl Tracker.clockAfter start

theorem windowFrom_concat (now : Duration) (window : Window) (actions : List Action) (action : Action) :
    windowFrom policy source now window (actions ++ [action]) =
      (windowFrom policy source now window actions).after policy source (clockAt now actions) action := by
  induction actions generalizing now window with
  | nil => rfl
  | cons first actions ih => exact ih _ _

theorem windowOf_concat (actions : List Action) (action : Action) :
    windowOf policy source start (actions ++ [action]) =
      (windowOf policy source start actions).after policy source (clockAt start actions) action :=
  windowFrom_concat policy source start [] actions action

end Past

/-- The action between `before` and `after` is `first`, at a place where it `opens` something, and each
action after it, at its own place, is one that `stays` allows. -/
structure Since (first : Action) (opens : List Action → Prop) (stays : List Action → Action → Prop)
    (actions before after : List Action) : Prop where
  split : actions = before ++ first :: after
  opens : opens before
  stays : ∀ front action back, after = front ++ action :: back → stays (before ++ first :: front) action

section Since

variable {first action : Action} {opens : List Action → Prop} {stays : List Action → Action → Prop}
  {actions before after : List Action}

theorem not_since_nil : ¬ Since first opens stays [] before after := by
  rintro ⟨hsplit, -⟩
  exact absurd hsplit.symm (List.append_ne_nil_of_right_ne_nil before (List.cons_ne_nil first after))

theorem since_concat : Since first opens stays (actions ++ [action]) before after ↔
    (before = actions ∧ after = [] ∧ action = first ∧ opens actions) ∨
      ∃ front, after = front ++ [action] ∧ Since first opens stays actions before front ∧
        stays actions action := by
  constructor
  · rintro ⟨hsplit, hopens, hstays⟩
    obtain rfl | ⟨front, last, rfl⟩ := List.eq_nil_or_concat' after
    · obtain ⟨rfl, hlast⟩ := List.append_inj' hsplit rfl
      exact .inl ⟨rfl, rfl, List.singleton_inj.mp hlast, hopens⟩
    · rw [← List.cons_append, ← List.append_assoc] at hsplit
      obtain ⟨rfl, hlast⟩ := List.append_inj' hsplit rfl
      obtain rfl := List.singleton_inj.mp hlast
      refine .inr ⟨front, rfl, ⟨rfl, hopens, fun mid next back hfront => ?_⟩, hstays front action [] rfl⟩
      refine hstays mid next (back ++ [action]) ?_
      rw [hfront, List.append_assoc, List.cons_append]
  · rintro (⟨rfl, rfl, rfl, hopens⟩ | ⟨front, rfl, ⟨rfl, hopens, hstays⟩, hlast⟩)
    · refine ⟨rfl, hopens, fun front next back hnil => ?_⟩
      exact absurd hnil.symm (List.append_ne_nil_of_right_ne_nil front (List.cons_ne_nil next back))
    · refine ⟨by rw [List.append_assoc, List.cons_append], hopens, fun mid next back hsplit => ?_⟩
      obtain rfl | ⟨rest, last, rfl⟩ := List.eq_nil_or_concat' back
      · obtain ⟨rfl, hnext⟩ := List.append_inj' hsplit rfl
        obtain rfl := List.singleton_inj.mp hnext
        exact hlast
      · rw [← List.cons_append, ← List.append_assoc] at hsplit
        obtain ⟨rfl, -⟩ := List.append_inj' hsplit rfl
        exact hstays mid next rest rfl

theorem since_concat_of_ne (hne : action ≠ first) :
    Since first opens stays (actions ++ [action]) before after ↔
    ∃ front, after = front ++ [action] ∧ Since first opens stays actions before front ∧
      stays actions action := by
  rw [since_concat]
  exact or_iff_right fun h => hne h.2.2.1

end Since

section Past

variable (policy : Policy) (source : String) (start : Duration) (past : List Action)

def OverAfter : Prop := (windowOf policy source start past).Over policy (clockAt start past)

def ForgottenAfter (action : Action) : Prop :=
  (windowOf policy source start past).Forgets policy source (clockAt start past) action

def Attempted (actions : List Action) : Prop :=
  ∃ before after, Since (.attempt source) (fun _ => True)
    (fun past action => ¬ ForgottenAfter policy source start past action) actions before after

/-- The attempt between `before` and `after` opened the window of the source: it found none, or one that
was over. Since then the source has not been forgotten, and none of its attempts has found the window
over. -/
def Opening (actions before after : List Action) : Prop :=
  Since (.attempt source)
    (fun past => windowOf policy source start past = [] ∨ OverAfter policy source start past)
    (fun past action => ¬ ForgottenAfter policy source start past action ∧
      (action = .attempt source → ¬ OverAfter policy source start past))
    actions before after

variable {policy source start} {actions before after : List Action} {action : Action}

theorem windowOf_concat_of_ne (hne : action ≠ .attempt source)
    (hstays : ¬ ForgottenAfter policy source start actions action) :
    windowOf policy source start (actions ++ [action]) = windowOf policy source start actions := by
  rw [windowOf_concat, Window.after_of_ne hne]
  exact if_neg hstays

theorem windowOf_concat_of_forgotten (hne : action ≠ .attempt source)
    (hforgets : ForgottenAfter policy source start actions action) :
    windowOf policy source start (actions ++ [action]) = [] := by
  rw [windowOf_concat, Window.after_of_ne hne]
  exact if_pos hforgets

theorem windowOf_ne_nil_iff : windowOf policy source start actions ≠ [] ↔
    Attempted policy source start actions := by
  induction actions using List.reverseRecOn with
  | nil =>
    refine iff_of_false (fun h => h rfl) ?_
    rintro ⟨before, after, hsince⟩
    exact not_since_nil hsince
  | append_singleton actions action ih =>
    by_cases hattempt : action = .attempt source
    · subst hattempt
      refine iff_of_true ?_ ⟨actions, [], since_concat.mpr (.inl ⟨rfl, rfl, rfl, trivial⟩)⟩
      rw [windowOf_concat, Window.after, if_pos rfl]
      split <;> simp
    · rw [Attempted]
      simp only [since_concat_of_ne hattempt]
      by_cases hforgets : ForgottenAfter policy source start actions action
      · rw [windowOf_concat_of_forgotten hattempt hforgets]
        refine iff_of_false (fun h => h rfl) ?_
        rintro ⟨_, _, _, -, -, hstays⟩
        exact hstays hforgets
      · rw [windowOf_concat_of_ne hattempt hforgets, ih]
        constructor
        · rintro ⟨before, front, hsince⟩
          exact ⟨before, _, front, rfl, hsince, hforgets⟩
        · rintro ⟨before, _, front, -, hsince, -⟩
          exact ⟨before, front, hsince⟩

theorem opening_concat_of_over
    (h : windowOf policy source start actions = [] ∨ OverAfter policy source start actions)
    (hnone : windowOf policy source start actions = [] →
      ∀ before after, ¬ Opening policy source start actions before after) :
    Opening policy source start (actions ++ [.attempt source]) before after ↔
      before = actions ∧ after = [] := by
  rw [Opening, since_concat]
  constructor
  · rintro (⟨hbefore, hafter, -⟩ | ⟨front, -, hsince, -, hopen⟩)
    · exact ⟨hbefore, hafter⟩
    · obtain hwindow | hover := h
      · exact absurd hsince (hnone hwindow before front)
      · exact absurd hover (hopen rfl)
  · rintro ⟨hbefore, hafter⟩
    exact .inl ⟨hbefore, hafter, rfl, h⟩

theorem opening_concat_of_open (hne : windowOf policy source start actions ≠ [])
    (hopen : ¬ OverAfter policy source start actions) :
    Opening policy source start (actions ++ [.attempt source]) before after ↔
      ∃ front, after = front ++ [.attempt source] ∧ Opening policy source start actions before front := by
  rw [Opening, since_concat]
  constructor
  · rintro (⟨-, -, -, hopens⟩ | ⟨front, hafter, hsince, -⟩)
    · exact absurd hopens (not_or.mpr ⟨hne, hopen⟩)
    · exact ⟨front, hafter, hsince⟩
  · rintro ⟨front, hafter, hsince⟩
    exact .inr ⟨front, hafter, hsince, not_false, fun _ => hopen⟩

theorem opening_concat_of_ne (hne : action ≠ .attempt source) :
    Opening policy source start (actions ++ [action]) before after ↔
      ∃ front, after = front ++ [action] ∧ Opening policy source start actions before front ∧
        ¬ ForgottenAfter policy source start actions action := by
  rw [Opening, since_concat_of_ne hne]
  refine exists_congr fun front => and_congr_right fun _ => and_congr_right fun _ => ?_
  exact and_iff_left fun heq => absurd heq hne

/-- The window is the one that an attempt opened, with as many attempts as the source has made from that
one on. -/
theorem head?_windowOf_iff {opening : Duration} {n : Nat} :
    opening ∈ (windowOf policy source start actions).head? ∧
      (windowOf policy source start actions).length = n + 1 ↔
      ∃ before after, Opening policy source start actions before after ∧ opening = clockAt start before ∧
        n = after.count (.attempt source) := by
  induction actions using List.reverseRecOn generalizing opening n with
  | nil =>
    refine iff_of_false (by rintro ⟨⟨⟩, -⟩) ?_
    rintro ⟨before, after, hsince, -⟩
    exact not_since_nil hsince
  | append_singleton actions action ih =>
    by_cases hattempt : action = .attempt source
    · subst hattempt
      by_cases hopens : windowOf policy source start actions = [] ∨ OverAfter policy source start actions
      -- the window is opened by the last action, and by no earlier one
      · have hnone : windowOf policy source start actions = [] →
            ∀ before after, ¬ Opening policy source start actions before after := by
          intro hwindow before after hopening
          have hhead := (ih.mpr ⟨before, after, hopening, rfl, rfl⟩).1
          rw [hwindow] at hhead
          cases hhead
        simp only [windowOf_concat, Window.after_attempt_of_over hopens,
          opening_concat_of_over hopens hnone]
        simp [eq_comm]
      -- the last action belongs to the window that is open
      · obtain ⟨hne, hopen⟩ := not_or.mp hopens
        simp only [opening_concat_of_open hne hopen, windowOf_concat, Window.after_attempt_of_open hopen,
          List.head?_append_of_ne_nil _ hne, List.length_append, List.length_singleton,
          Nat.add_right_cancel_iff]
        have hcount (front : List Action) :
            (front ++ [Action.attempt source]).count (.attempt source) =
              front.count (.attempt source) + 1 := by
          simp
        obtain ⟨m, hm⟩ := Nat.exists_eq_succ_of_ne_zero (mt List.length_eq_zero_iff.mp hne)
        constructor
        · rintro ⟨hhead, hn⟩
          obtain ⟨before, front, hopening, hstart, hcounted⟩ := ih.mp ⟨hhead, hm⟩
          refine ⟨before, _, ⟨front, rfl, hopening⟩, hstart, ?_⟩
          rw [← hn, hm, hcounted, hcount]
        · rintro ⟨before, _, ⟨front, rfl, hopening⟩, hstart, hn⟩
          obtain ⟨hhead, hlength⟩ := ih.mpr ⟨before, front, hopening, hstart, rfl⟩
          exact ⟨hhead, by rw [hn, hlength, hcount]⟩
    · simp only [opening_concat_of_ne hattempt]
      by_cases hforgets : ForgottenAfter policy source start actions action
      · rw [windowOf_concat_of_forgotten hattempt hforgets]
        refine iff_of_false (by rintro ⟨⟨⟩, -⟩) ?_
        rintro ⟨_, _, ⟨_, -, -, hstays⟩, -⟩
        exact hstays hforgets
      · rw [windowOf_concat_of_ne hattempt hforgets, ih]
        have hcount (front : List Action) :
            (front ++ [action]).count (.attempt source) = front.count (.attempt source) := by
          simp [List.count_append, hattempt]
        constructor
        · rintro ⟨before, front, hsince, hopening, hn⟩
          exact ⟨before, _, ⟨front, rfl, hsince, hforgets⟩, hopening, hn.trans (hcount front).symm⟩
        · rintro ⟨before, _, ⟨front, rfl, hsince, -⟩, hopening, hn⟩
          exact ⟨before, front, hsince, hopening, hn.trans (hcount front)⟩

end Past

theorem Record.attempt_of_counted {policy : Policy} {now : Duration} {record : Record} {n : Nat}
    (hexp : ¬ record.Expired policy now) (hpos : 1 ≤ n)
    (hcount : record.count.toNat = min n policy.capacity) :
    (attempt policy now (some record)).2.windowStart = record.windowStart ∧
      (attempt policy now (some record)).2.count.toNat = min (n + 1) policy.capacity := by
  rw [Policy.capacity] at hcount ⊢
  rw [attempt_of_not_expired hexp]
  by_cases hlt : record.count < policy.maxAttempts
  · have hsucc := toNat_count_succ hlt
    rw [if_pos hlt]
    rw [UInt32.lt_iff_toNat_lt] at hlt
    refine ⟨rfl, hsucc.trans ?_⟩
    omega
  · rw [if_neg hlt]
    rw [UInt32.lt_iff_toNat_lt] at hlt
    refine ⟨rfl, hcount.trans ?_⟩
    omega

/-- The record of a source with this window: it counts the attempts in the window, as far as a window
counts. -/
inductive Stands (policy : Policy) : Window → Option Record → Prop
  | untracked : Stands policy [] none
  | tracked {window : Window} {record : Record} (hstart : record.windowStart ∈ window.head?)
      (hcount : record.count.toNat = min window.length policy.capacity) :
      Stands policy window (some record)

namespace Stands

variable {policy : Policy} {source : String} {now : Duration} {window : Window} {record : Option Record}

theorem opened : Stands policy [now] (some ⟨1, now⟩) :=
  .tracked rfl (Nat.min_eq_left policy.capacity_pos).symm

theorem over_iff {record : Record} (hstart : record.windowStart ∈ window.head?) (now : Duration) :
    window.Over policy now ↔ record.Expired policy now := by
  rw [Window.Over, Option.mem_def.mp hstart]
  simp only [Option.mem_some_iff, exists_eq_left', Record.Expired]

theorem attempt (h : Stands policy window record) : Stands policy
    (window.after policy source now (.attempt source)) (some (Record.attempt policy now record).2) := by
  cases h with
  | untracked =>
    rw [Window.after_attempt_of_over (.inl rfl)]
    exact opened
  | @tracked _ record hstart hcount =>
    have hover : window.Over policy now ↔ record.Expired policy now := over_iff hstart now
    by_cases hexp : record.Expired policy now
    · rw [Window.after_attempt_of_over (.inr (hover.mpr hexp)), Record.attempt_of_expired hexp]
      exact opened
    · have hne : window ≠ [] := by
        rintro rfl
        cases hstart
      obtain ⟨hsame, hnext⟩ := Record.attempt_of_counted hexp (List.length_pos_iff.mpr hne) hcount
      rw [Window.after_attempt_of_open (mt hover.mp hexp)]
      refine .tracked ?_ ?_
      · rw [hsame, List.head?_append_of_ne_nil _ hne]
        exact hstart
      · rw [hnext, List.length_append, List.length_singleton]

theorem sweep (h : Stands policy window record) :
    Stands policy (if window.Over policy now then [] else window)
    (record.filter fun r => !decide (r.Expired policy now)) := by
  cases h with
  | untracked =>
    rw [ite_self]
    exact .untracked
  | @tracked _ record hstart hcount =>
    rw [Option.filter_some]
    by_cases hexp : record.Expired policy now
    · rw [if_pos ((over_iff hstart now).mpr hexp), decide_eq_true hexp]
      exact .untracked
    · rw [if_neg (mt (over_iff hstart now).mp hexp), decide_eq_false hexp]
      exact .tracked hstart hcount

theorem step (h : Stands policy window record) (action : Action) : Stands policy
    (window.after policy source now action) (Tracker.recordAfter policy source now record action) := by
  cases action with
  | attempt s =>
    rw [Tracker.recordAfter]
    by_cases hs : source = s
    · subst hs
      rw [if_pos rfl]
      exact h.attempt
    · rw [if_neg hs, Window.after_attempt_of_other hs]
      exact h
  | reset s =>
    rw [Tracker.recordAfter, Window.after_reset]
    split
    · exact .untracked
    · exact h
  | sweep =>
    rw [Window.after_sweep]
    exact h.sweep
  | moveTo time =>
    rw [Window.after_moveTo]
    exact h

theorem run (policy : Policy) (source : String) (start : Duration) (actions : List Action) :
    Stands policy (windowOf policy source start actions)
      ((Tracker.run policy ⟨start, .empty⟩ actions).ledger.find? source) := by
  induction actions using List.reverseRecOn with
  | nil => exact .untracked
  | append_singleton actions action ih =>
    rw [Tracker.run_append, Tracker.run_cons, Tracker.run_nil, Tracker.find?_step, Tracker.now_run,
      windowOf_concat]
    exact ih.step action

end Stands

namespace Tracker

/-- What a tracker that began at `start` has recorded after a run, and what it answers in it. -/
structure Recorded (policy : Policy) (start : Duration) (actions : List Action) : Prop where
  tracked : ∀ source, (run policy ⟨start, .empty⟩ actions).tracks source = true ↔
    Attempted policy source start actions
  record : ∀ source record, (run policy ⟨start, .empty⟩ actions).ledger.find? source = some record ↔
    ∃ before after, Opening policy source start actions before after ∧
      record.windowStart = clockAt start before ∧
      record.count.toNat = min (after.count (.attempt source) + 1) (max 1 policy.maxAttempts.toNat)
  fits : ∀ source record, (run policy ⟨start, .empty⟩ actions).ledger.find? source = some record →
    record.count < policy.maxAttempts → record.count.toNat + 1 < UInt32.size
  wait : ∀ wait, .limited wait ∈ decisions policy ⟨start, .empty⟩ actions → wait ≤ policy.window
  size : {source | Attempted policy source start actions}.encard =
    (run policy ⟨start, .empty⟩ actions).ledger.size

section Recorded

variable (policy : Policy) (start : Duration) (actions : List Action)

theorem tracks_iff (source : String) : (run policy ⟨start, .empty⟩ actions).tracks source = true ↔
    Attempted policy source start actions := by
  have hstands := Stands.run policy source start actions
  rw [← windowOf_ne_nil_iff, tracks]
  generalize (run policy ⟨start, .empty⟩ actions).ledger.find? source = found at hstands ⊢
  generalize windowOf policy source start actions = window at hstands ⊢
  cases hstands with
  | untracked => exact iff_of_false Bool.false_ne_true fun h => h rfl
  | tracked hstart _ =>
    refine iff_of_true rfl ?_
    rintro heq
    rw [heq] at hstart
    cases hstart

theorem find?_run_iff (source : String) (record : Record) :
    (run policy ⟨start, .empty⟩ actions).ledger.find? source = some record ↔
      ∃ before after, Opening policy source start actions before after ∧
        record.windowStart = clockAt start before ∧
        record.count.toNat = min (after.count (.attempt source) + 1) policy.capacity := by
  have hstands := Stands.run policy source start actions
  generalize hfound : (run policy ⟨start, .empty⟩ actions).ledger.find? source = found at hstands
  generalize hwindow : windowOf policy source start actions = window at hstands
  constructor
  · rintro rfl
    cases hstands with
    | tracked hstart hcount =>
      obtain ⟨n, hn⟩ : ∃ n, window.length = n + 1 := by
        refine Nat.exists_eq_succ_of_ne_zero fun hzero => ?_
        rw [List.length_eq_zero_iff.mp hzero] at hstart
        cases hstart
      rw [← hwindow] at hstart hn
      obtain ⟨before, after, hopening, hbefore, hafter⟩ := head?_windowOf_iff.mp ⟨hstart, hn⟩
      rw [← hwindow, hn, hafter] at hcount
      exact ⟨before, after, hopening, hbefore, hcount⟩
  · rintro ⟨before, after, hopening, hbefore, hafter⟩
    obtain ⟨hhead, hlength⟩ := head?_windowOf_iff.mpr ⟨before, after, hopening, rfl, rfl⟩
    rw [hwindow] at hhead hlength
    cases hstands with
    | untracked => cases hhead
    | @tracked _ kept hstart hcount =>
      rw [hlength, ← hafter, UInt32.toNat_inj] at hcount
      rw [Option.mem_unique hhead hstart] at hbefore
      obtain ⟨count, windowStart⟩ := record
      dsimp only at hcount hbefore
      rw [← hcount, hbefore]

theorem wait_le_of_mem (tracker : Tracker) {wait : Duration}
    (h : .limited wait ∈ decisions policy tracker actions) : wait ≤ policy.window := by
  induction actions generalizing tracker with
  | nil => cases h
  | cons action actions ih =>
    obtain hdecided | hlater := List.mem_append.mp h
    · cases action with
      | attempt source => exact Ledger.wait_le_window (List.mem_singleton.mp hdecided).symm
      | reset | sweep | moveTo => cases hdecided
    · exact ih _ hlater

/-- Whatever happens and whichever way the clock moves, each record is what the past of its source makes
it. -/
theorem run_recorded : Recorded policy start actions where
  tracked := tracks_iff policy start actions
  record := find?_run_iff policy start actions
  fits := by
    intro source record _ hlt
    have hmax := policy.maxAttempts.toNat_lt
    rw [UInt32.lt_iff_toNat_lt] at hlt
    have hsize : UInt32.size = 2 ^ 32 := rfl
    omega
  wait := fun wait h => wait_le_of_mem policy actions ⟨start, .empty⟩ h
  size := by
    let ledger := (run policy ⟨start, .empty⟩ actions).ledger
    have hsources : {source | Attempted policy source start actions} =
        ((ledger.entries.map Prod.fst).toFinset : Set String) := by
      ext source
      rw [Finset.mem_coe, List.mem_toFinset, Ledger.mem_sources_iff]
      exact (tracks_iff policy start actions source).symm
    rw [hsources, Set.encard_coe_eq_coe_finsetCard, List.toFinset_card_of_nodup ledger.nodup,
      List.length_map]
    rfl

example :
    (run { maxAttempts := 3, window := .ofSeconds 10 } ⟨.ofSeconds 5, .empty⟩
      [.attempt "a", .moveTo (.ofSeconds 2), .attempt "a", .attempt "b", .reset "b",
        .sweep]).ledger.entries =
      [("a", ⟨2, .ofSeconds 5⟩)] := by
  decide

end Recorded

end Tracker

end LoginGateway.Attempts
