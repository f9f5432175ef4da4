import LoginGateway.Duration

namespace LoginGateway.Attempts

structure Sweeper where
  /-- Nanoseconds since the timer began. -/
  elapsed : Nat := 0
  /-- When the running task was started. -/
  started : Option Nat := none

namespace Sweeper

/-- How many sweeps a task started at `start` has begun by the time `t`; none for a zero interval. -/
def sweepsBy (interval : Duration) (start t : Nat) : Nat := (t - start) / interval.nanos

def start (sweeper : Sweeper) : Sweeper := { sweeper with started := some sweeper.elapsed }

def stop (sweeper : Sweeper) : Sweeper := { sweeper with started := none }

def sleep (interval span : Duration) (sweeper : Sweeper) : Bool × Sweeper :=
  let later := sweeper.elapsed + span.nanos
  let swept := match sweeper.started with
    | none => false
    | some s => decide (sweepsBy interval s sweeper.elapsed < sweepsBy interval s later)
  (swept, { sweeper with elapsed := later })

end Sweeper

end LoginGateway.Attempts
