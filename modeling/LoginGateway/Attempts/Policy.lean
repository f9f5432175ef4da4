import LoginGateway.Duration

namespace LoginGateway.Attempts

structure Policy where
  maxAttempts : UInt32 := 5
  window : Duration := .ofSeconds 900
  sweepInterval : Duration := .ofSeconds 300
  deriving DecidableEq

namespace Policy

def text (policy : Policy) : String :=
  "AttemptPolicy \x7b max_attempts: " ++ toString policy.maxAttempts.toNat ++
    ", window: " ++ policy.window.text ++
    ", sweep_interval: " ++ policy.sweepInterval.text ++ " \x7d"

def trackerText (policy : Policy) : String :=
  "AttemptTracker \x7b policy: " ++ policy.text ++ ", .. \x7d"

end Policy

end LoginGateway.Attempts
