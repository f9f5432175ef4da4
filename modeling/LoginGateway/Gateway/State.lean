import LoginGateway.Attempts.Ledger
import LoginGateway.Backend.Client
import LoginGateway.Config
import LoginGateway.Session.Codec

namespace LoginGateway

structure Gateway where
  config : Config
  valid : config.fault? = none
  ledger : Attempts.Ledger
  client : Backend.Client := .standard
  commit? : Option Build.Commit := none

namespace Gateway

def start (config : Config) (client : Backend.Client := .standard)
    (commit? : Option Build.Commit := none) : Except Config.Fault Gateway :=
  match h : config.fault? with
  | some fault => .error fault
  | none => .ok ⟨config, h, .empty, client, commit?⟩

def codec (gateway : Gateway) : Session.Codec :=
  ⟨gateway.config.sessionSecret, gateway.config.sessionMaxAge,
    Config.sessionSecret_ne_of_fault?_eq_none gateway.valid⟩

def withLedger (gateway : Gateway) (ledger : Attempts.Ledger) : Gateway := { gateway with ledger }

def check (gateway : Gateway) (now : Duration) (source : String) : Attempts.Decision × Gateway :=
  let (decision, ledger) := gateway.ledger.check gateway.config.attempts now source
  (decision, gateway.withLedger ledger)

def reset (gateway : Gateway) (source : String) : Gateway :=
  gateway.withLedger (gateway.ledger.reset source)

def sweep (gateway : Gateway) (now : Duration) : Gateway :=
  gateway.withLedger (gateway.ledger.sweep gateway.config.attempts now)

end Gateway

end LoginGateway
