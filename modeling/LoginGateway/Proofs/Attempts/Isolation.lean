import LoginGateway.Proofs.Attempts.Run

namespace LoginGateway.Attempts

/-- The action is one of `source`, or it meets every source alike. -/
def Action.concerns (source : String) : Action → Bool
  | attempt s | reset s => s == source
  | sweep | moveTo _ => true

namespace Tracker

def tracks (source : String) (tracker : Tracker) : Bool := (tracker.ledger.find? source).isSome

/-- What is seen of a source in a run: at each action that concerns it the decision, if one is asked for,
and whether it is tracked afterwards. -/
def observed (policy : Policy) (source : String) : Tracker → List Action → List (List Decision × Bool)
  | _, [] => []
  | tracker, action :: actions =>
    let next := tracker.step policy action
    if action.concerns source then
      (tracker.decided policy action, next.tracks source) :: observed policy source next actions
    else observed policy source next actions

/-- Two trackers that `source` cannot tell apart. -/
structure Alike (source : String) (tracker tracker' : Tracker) : Prop where
  now : tracker.now = tracker'.now
  record : tracker.ledger.find? source = tracker'.ledger.find? source

variable {policy : Policy} {source : String} {tracker tracker' : Tracker} {action : Action}

namespace Alike

theorem step (policy : Policy) (h : Alike source tracker tracker') (action : Action) :
    Alike source (tracker.step policy action) (tracker'.step policy action) where
  now := by rw [now_step, now_step, h.now]
  record := by rw [find?_step, find?_step, h.now, h.record]

theorem tracks_eq (h : Alike source tracker tracker') :
    tracker.tracks source = tracker'.tracks source := by
  rw [tracks, tracks, h.record]

theorem decided_eq (h : Alike source tracker tracker') (hconcerns : action.concerns source = true) :
    tracker.decided policy action = tracker'.decided policy action := by
  cases action with
  | attempt s =>
    obtain rfl : s = source := beq_iff_eq.mp hconcerns
    rw [decided, decided, decision_eq, decision_eq, h.now, h.record]
  | reset | sweep | moveTo => rfl

theorem skip (h : Alike source tracker tracker') (hother : action.concerns source = false) :
    Alike source (tracker.step policy action) tracker' := by
  cases action with
  | attempt s =>
    have hne : source ≠ s := Ne.symm (beq_eq_false_iff_ne.mp hother)
    refine ⟨h.now, ?_⟩
    rw [find?_step, recordAfter, if_neg hne, h.record]
  | reset s =>
    have hne : source ≠ s := Ne.symm (beq_eq_false_iff_ne.mp hother)
    refine ⟨h.now, ?_⟩
    rw [find?_step, recordAfter, if_neg hne, h.record]
  | sweep | moveTo => cases hother

/-- Of two trackers that are alike, one meets the whole run and the other one only what concerns the
source: nothing that is seen of the source differs, and they end alike. -/
theorem run_filter (policy : Policy) (h : Alike source tracker tracker') (actions : List Action) :
    observed policy source tracker actions =
        observed policy source tracker' (actions.filter (·.concerns source)) ∧
      Alike source (tracker.run policy actions)
        (tracker'.run policy (actions.filter (·.concerns source))) := by
  induction actions generalizing tracker tracker' with
  | nil => exact ⟨rfl, h⟩
  | cons action actions ih =>
    cases hconcerns : action.concerns source with
    | false =>
      rw [List.filter_cons_of_neg (by simp [hconcerns]), observed, hconcerns,
        if_neg Bool.false_ne_true]
      exact ih (h.skip hconcerns)
    | true =>
      have hnext := h.step policy action
      obtain ⟨hseen, hend⟩ := ih hnext
      rw [List.filter_cons_of_pos hconcerns, observed, observed, hconcerns, if_pos rfl, if_pos rfl,
        h.decided_eq hconcerns, hnext.tracks_eq, hseen]
      exact ⟨rfl, hend⟩

end Alike

/-- A source is answered and tracked as if it were alone, and its record is the same in the end. -/
theorem observed_alone (policy : Policy) (source : String) (tracker : Tracker) (actions : List Action) :
    let alone := actions.filter (·.concerns source)
    observed policy source tracker alone = observed policy source tracker actions ∧
      (tracker.run policy alone).ledger.find? source =
        (tracker.run policy actions).ledger.find? source := by
  have hsame : Alike source tracker tracker := ⟨rfl, rfl⟩
  obtain ⟨hseen, hend⟩ := hsame.run_filter policy actions
  exact ⟨hseen.symm, hend.record.symm⟩

example :
    observed { maxAttempts := 1, window := .ofSeconds 10 } "a" ⟨.zero, .empty⟩
        [.attempt "b", .moveTo (.ofSeconds 9), .attempt "a", .attempt "b", .moveTo (.ofSeconds 11), .sweep,
          .reset "b", .moveTo (.ofSeconds 8), .attempt "a"] =
      [([], false), ([.allowed], true), ([], true), ([], true), ([], true),
        ([.limited (.ofSeconds 10)], true)] := by
  decide

end Tracker

end LoginGateway.Attempts
