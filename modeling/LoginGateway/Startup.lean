import LoginGateway.Build
import LoginGateway.CommandLine.Help
import LoginGateway.CommandLine.Level
import LoginGateway.CommandLine.Settings
import LoginGateway.Telemetry.Export

namespace LoginGateway.Startup

def banner (commit? : Option Build.Commit) : String :=
  "\n  _   _   _   _   _\n | |_| |_| |_| |_| |\n |                 |\n |   R A M P A R T | - " ++
    Build.version ++ " - " ++ (Build.shortCommit? (Build.hash commit?)).getD "" ++ "\n |_________________|"

def widest (entries : List (String × String)) : Nat :=
  (entries.map fun e => e.1.utf8ByteSize).foldl max 0

def line (width : Nat) (entry : String × String) : String :=
  "\n  " ++ entry.1 ++ ":" ++ String.ofList (List.replicate (width - entry.1.utf8ByteSize) ' ') ++ " " ++
    entry.2

def report (entries : List (String × String)) (commit? : Option Build.Commit := none) : String :=
  banner commit? ++ "\n\nStartup configuration:" ++ String.join (entries.map (line (widest entries)))

def inSeconds (d : Duration) : String := Text.Numeral.text d.seconds ++ "s"

def hidden : String := "***"

def entries (port : UInt16) (config : Config) : List (String × String) :=
  [("listen", "tcp:" ++ Text.Numeral.text port.toNat),
    ("backend_url", config.backendUrl.render),
    ("backend_path_prefix", if config.pathPrefix = "" then "none" else config.pathPrefix),
    ("backend_secret_header", config.secretHeader.text),
    ("backend_secret", hidden),
    ("backend_timeout", inSeconds config.backendTimeout),
    ("password", hidden),
    ("session_secret", hidden),
    ("session_max_age", inSeconds config.sessionMaxAge),
    ("cookie_secure", if config.cookieSecure then "true" else "false"),
    ("login_max_attempts", Text.Numeral.text config.attempts.maxAttempts.toNat),
    ("login_window", inSeconds config.attempts.window),
    ("login_sweep_interval", inSeconds config.attempts.sweepInterval)]

def message (settings : CommandLine.Settings) (commit? : Option Build.Commit := none) : String :=
  report (entries settings.port settings.config) commit?

def listening (port : UInt16) : String := "Listening on [::]:" ++ Text.Numeral.text port.toNat

def stopped : String := "Gracefully shutdown"

/-- The messages of a server that is stopped at once, and the fault that keeps it from starting. -/
def serve (settings : CommandLine.Settings) (commit? : Option Build.Commit := none) :
    List String × Option Config.Fault :=
  match settings.config.fault? with
  | some fault => ([message settings commit?], some fault)
  | none => ([message settings commit?, listening settings.port, stopped], none)

inductive Fault where
  | refused (refusal : CommandLine.Refusal)
  | settings (fault : CommandLine.Settings.Fault)

def settings (arguments : List String) (environment : CommandLine.Environment) :
    Except Fault (CommandLine.Given × CommandLine.Settings) :=
  match CommandLine.parse arguments environment with
  | .error refusal => .error (.refused refusal)
  | .ok given =>
    match CommandLine.Settings.ofGiven given with
    | .error fault => .error (.settings fault)
    | .ok settings => .ok (given, settings)

structure Ending where
  code : Nat
  output : String := ""
  problem : String := ""

def Ending.failure (summary : String) : Ending := ⟨1, "", "Error: " ++ summary⟩

def Ending.ofRefusal (environment : CommandLine.Environment) (refusal : CommandLine.Refusal)
    (commit? : Option Build.Commit) : Ending :=
  match refusal.problem? with
  | some _ => ⟨2, "", refusal.message environment commit?⟩
  | none => ⟨0, refusal.message environment commit?, ""⟩

/-- The start of the program: the arguments are read, the export of traces is set up, and then the
settings are checked. It either ends there, or knows how much to log and what to run with. -/
def prepare (arguments : List String) (environment : CommandLine.Environment)
    (commit? : Option Build.Commit := none) :
    Except Ending (Option CommandLine.Level × CommandLine.Settings) :=
  match CommandLine.parse arguments environment with
  | .error refusal => .error (.ofRefusal environment refusal commit?)
  | .ok given =>
    match Telemetry.setUp environment with
    | .error fault => .error (.failure fault.summary)
    | .ok () =>
      match CommandLine.Settings.ofGiven given with
      | .error fault => .error (.failure fault.summary)
      | .ok settings =>
        match settings.config.fault? with
        | some fault => .error (.failure fault.message)
        | none => .ok (CommandLine.level? given, settings)

def envNames : List String :=
  CommandLine.Field.all.map CommandLine.Field.envName ++
    [Telemetry.Settings.endpointVariable, Telemetry.Settings.headersVariable,
      Telemetry.Settings.instanceVariable, Telemetry.tracesVariable]

end LoginGateway.Startup
