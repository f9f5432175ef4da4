import LoginGateway.Text.Numeral
import LoginGateway.Text.Utf8

namespace LoginGateway.CommandLine

inductive Field where
  | port
  | password
  | sessionSecret
  | sessionMaxAge
  | cookieSecure
  | loginMaxAttempts
  | loginWindow
  | loginSweep
  | backendUrl
  | backendSecret
  | backendPathPrefix
  | backendSecretHeader
  | backendTimeout
  | verbosity
  deriving DecidableEq

/-- What the text of a setting may be. -/
inductive Kind where
  | text
  /-- A number from zero to `limit`. -/
  | ranged (limit : Nat)
  | seconds
  /-- Set by its mere presence; a variable says `true` or `false`. -/
  | flag
  /-- Counts how often it is present; a variable gives a number or the name of a level. -/
  | count
  deriving DecidableEq

inductive Value where
  | text (s : String)
  | number (n : Nat)
  | flag (b : Bool)
  deriving DecidableEq

namespace Field

def all : List Field :=
  [port, password, sessionSecret, sessionMaxAge, cookieSecure, loginMaxAttempts, loginWindow,
    loginSweep, backendUrl, backendSecret, backendPathPrefix, backendSecretHeader, backendTimeout,
    verbosity]

def name : Field → String
  | port => "port"
  | password => "password"
  | sessionSecret => "session-secret"
  | sessionMaxAge => "session-max-age-seconds"
  | cookieSecure => "cookie-secure"
  | loginMaxAttempts => "login-max-attempts"
  | loginWindow => "login-window-seconds"
  | loginSweep => "login-sweep-seconds"
  | backendUrl => "backend-url"
  | backendSecret => "backend-secret"
  | backendPathPrefix => "backend-path-prefix"
  | backendSecretHeader => "backend-secret-header"
  | backendTimeout => "backend-timeout-seconds"
  | verbosity => "verbose"

def short? : Field → Option Char
  | port => some 'p'
  | verbosity => some 'v'
  | _ => none

def envName : Field → String
  | verbosity => "RAMPART_LOG_LEVEL"
  | field =>
    "RAMPART_" ++ String.ofList (field.name.toList.map fun c => if c = '-' then '_' else c.toUpper)

def kind : Field → Kind
  | port => .ranged 65535
  | loginMaxAttempts => .ranged 4294967295
  | sessionMaxAge | loginWindow | loginSweep | backendTimeout => .seconds
  | cookieSecure => .flag
  | verbosity => .count
  | _ => .text

def takesValue (field : Field) : Bool :=
  match field.kind with
  | .flag | .count => false
  | _ => true

def shown (field : Field) : String :=
  match field.kind with
  | .flag => "--" ++ field.name
  | .count => "--" ++ field.name ++ "..."
  | _ => "--" ++ field.name ++ " <" ++ field.name ++ ">"

end Field

inductive ValueFault where
  | numeral (fault : Text.Numeral.Fault)
  | outside (n : Int) (limit : Nat)
  | logLevel
  | notBoolean
  | empty
  deriving DecidableEq

def levelNames : List String := ["error", "warn", "info", "debug", "trace"]

/-- A verbosity: a number up to five, or the name of a level in any case. -/
def readVerbosity (raw : String) : Except ValueFault Nat :=
  let named : Except ValueFault Nat :=
    match levelNames.idxOf? (String.ofList (raw.toList.map Char.toLower)) with
    | some n => .ok n
    | none => .error .logLevel
  match Text.Numeral.readNat 255 raw.toList with
  | .ok n => if n ≤ 5 then .ok n else named
  | .error _ => named

def Kind.read (kind : Kind) (raw : String) : Except ValueFault Value :=
  match kind with
  | .text => .ok (.text raw)
  | .ranged limit =>
    match Text.Numeral.readInt64 raw.toList with
    | .error fault => .error (.numeral fault)
    | .ok n =>
      if 0 ≤ n ∧ n ≤ limit then .ok (.number n.toNat) else .error (.outside n limit)
  | .seconds =>
    match Text.Numeral.readNat Text.Numeral.maxUnsigned raw.toList with
    | .error fault => .error (.numeral fault)
    | .ok n => .ok (.number n)
  | .flag =>
    if raw = "true" then .ok (.flag true)
    else if raw = "false" then .ok (.flag false)
    else if raw = "" then .error .empty
    else .error .notBoolean
  | .count => (readVerbosity raw).map .number

end LoginGateway.CommandLine
