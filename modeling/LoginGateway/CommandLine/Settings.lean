import LoginGateway.CommandLine.Parse
import LoginGateway.Config
import LoginGateway.Text.Blank

namespace LoginGateway.CommandLine

structure Settings where
  port : UInt16
  password : String
  sessionSecret : String
  sessionMaxAge : UInt64
  cookieSecure : Bool
  loginMaxAttempts : UInt32
  loginWindow : UInt64
  loginSweep : UInt64
  backendUrl : Url
  backendSecret : String
  backendPathPrefix : String
  backendSecretHeader : Http.HeaderName
  backendTimeout : UInt64

namespace Settings

inductive Fault where
  | missing (field : Field)
  | badUrl (raw : String) (fault : UrlFault)
  | scheme (scheme : String)
  | badHeader (raw : String)
  deriving DecidableEq

def Fault.summary : Fault → String
  | missing field => "missing required argument: --" ++ field.name
  | badUrl raw _ => "invalid --" ++ Field.backendUrl.name ++ ": " ++ raw
  | scheme s => "invalid --" ++ Field.backendUrl.name ++ ": scheme must be http or https, got " ++ s
  | badHeader raw => "invalid --" ++ Field.backendSecretHeader.name ++ ": " ++ raw

def Fault.message : Fault → String
  | badUrl raw fault => (badUrl raw fault).summary ++ ": " ++ fault.message
  | badHeader raw => (badHeader raw).summary ++ ": " ++ Http.HeaderName.invalidMessage
  | fault => fault.summary

def required (given : Given) (field : Field) : Except Fault String :=
  match given.text? field with
  | some s => if s = "" then .error (.missing field) else .ok s
  | none => .error (.missing field)

def readUrl (given : Given) : Except Fault Url :=
  let raw := Text.trim ((given.text? .backendUrl).getD "")
  if raw = "" then .error (.missing .backendUrl)
  else match Url.parse raw with
  | .error fault => .error (.badUrl raw fault)
  | .ok url =>
    if Config.isWebScheme url.scheme then .ok url else .error (.scheme url.scheme)

def readHeader (given : Given) : Except Fault Http.HeaderName :=
  let raw := (given.text? .backendSecretHeader).getD "x-fortress-secret"
  match Http.HeaderName.parse? (Text.trim raw) with
  | some name => .ok name
  | none => .error (.badHeader raw)

def seconds (given : Given) (field : Field) (fallback : UInt64) : UInt64 :=
  ((given.number? field).map UInt64.ofNat).getD fallback

def ofGiven (given : Given) : Except Fault Settings := do
  let password ← required given .password
  let sessionSecret ← required given .sessionSecret
  let backendUrl ← readUrl given
  let backendSecret ← required given .backendSecret
  let backendSecretHeader ← readHeader given
  return {
    port := UInt16.ofNat ((given.number? .port).getD 8080)
    password
    sessionSecret
    sessionMaxAge := seconds given .sessionMaxAge 604800
    cookieSecure := given.flag .cookieSecure
    loginMaxAttempts := UInt32.ofNat ((given.number? .loginMaxAttempts).getD 5)
    loginWindow := seconds given .loginWindow 900
    loginSweep := seconds given .loginSweep 300
    backendUrl
    backendSecret
    backendPathPrefix := (given.text? .backendPathPrefix).getD "/api/fortress"
    backendSecretHeader
    backendTimeout := seconds given .backendTimeout 30 }

def config (settings : Settings) : Config where
  password := settings.password
  sessionSecret := settings.sessionSecret
  sessionMaxAge := .ofSeconds settings.sessionMaxAge
  cookieSecure := settings.cookieSecure
  attempts :=
    ⟨settings.loginMaxAttempts, .ofSeconds settings.loginWindow, .ofSeconds settings.loginSweep⟩
  backendUrl := settings.backendUrl
  backendSecret := settings.backendSecret
  pathPrefix := Config.normalPrefix settings.backendPathPrefix
  secretHeader := settings.backendSecretHeader
  backendTimeout := .ofSeconds settings.backendTimeout

end Settings

end LoginGateway.CommandLine
