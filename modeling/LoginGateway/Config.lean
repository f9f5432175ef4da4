import LoginGateway.Attempts.Policy
import LoginGateway.Http.HeaderName
import LoginGateway.Text.Blank
import LoginGateway.Text.Quoted
import LoginGateway.Url.Parse

namespace LoginGateway

structure Config where
  password : String
  sessionSecret : String
  sessionMaxAge : Duration := .ofSeconds 604800
  cookieSecure : Bool := false
  attempts : Attempts.Policy := {}
  backendUrl : Url
  backendSecret : String
  /-- Stands between the path of the backend's URL and the path that is asked for. -/
  pathPrefix : String := "/api/fortress"
  secretHeader : Http.HeaderName := ⟨"x-fortress-secret", by decide +kernel⟩
  backendTimeout : Duration := .ofSeconds 30

namespace Config

/-- A path without blanks around it, with one slash before it and none after; or nothing. -/
def normalPrefix (path : String) : String :=
  match Text.trimBy (· == '/') (Text.trimBlank path.toList) with
  | [] => ""
  | inner => String.ofList ('/' :: inner)

inductive Fault where
  | noPassword
  | noSessionSecret
  | noBackendSecret
  | scheme (scheme : String)
  | noHost
  | zeroMaxAttempts
  | zeroWindow
  | zeroSweepInterval
  | zeroSessionMaxAge
  | zeroBackendTimeout
  deriving DecidableEq

def Fault.message : Fault → String
  | noPassword => "password must not be empty"
  | noSessionSecret => "session secret must not be empty"
  | noBackendSecret => "backend secret must not be empty"
  | scheme s => "backend URL must be http or https, got " ++ s
  | noHost => "backend URL has no host"
  | zeroMaxAttempts => "login max attempts must be greater than zero"
  | zeroWindow => "login window must be greater than zero"
  | zeroSweepInterval => "login sweep interval must be greater than zero"
  | zeroSessionMaxAge => "session max age must be greater than zero"
  | zeroBackendTimeout => "backend timeout must be greater than zero"

def isWebScheme (scheme : String) : Bool := scheme == "http" || scheme == "https"

/-- The first setting, in a fixed order, that the gateway cannot run with. -/
def fault? (config : Config) : Option Fault :=
  if config.password = "" then some .noPassword
  else if config.sessionSecret = "" then some .noSessionSecret
  else if config.backendSecret = "" then some .noBackendSecret
  else if !isWebScheme config.backendUrl.scheme then some (.scheme config.backendUrl.scheme)
  else if config.backendUrl.host?.isNone then some .noHost
  else if config.attempts.maxAttempts = 0 then some .zeroMaxAttempts
  else if config.attempts.window.isZero then some .zeroWindow
  else if config.attempts.sweepInterval.isZero then some .zeroSweepInterval
  else if config.sessionMaxAge.isZero then some .zeroSessionMaxAge
  else if config.backendTimeout.isZero then some .zeroBackendTimeout
  else none

theorem sessionSecret_ne_of_fault?_eq_none {config : Config} (h : config.fault? = none) :
    config.sessionSecret ≠ "" := by
  intro hs
  simp only [fault?] at h
  split at h <;> simp_all

def text (config : Config) : String :=
  "GatewayConfig \x7b password: \"***\", session_secret: \"***\", session_max_age: " ++
    config.sessionMaxAge.text ++
    ", cookie_secure: " ++ (if config.cookieSecure then "true" else "false") ++
    ", attempts: " ++ config.attempts.text ++
    ", backend_url: " ++ Text.Quoted.quote config.backendUrl.render ++
    ", backend_secret: \"***\", backend_path_prefix: " ++ Text.Quoted.quote config.pathPrefix ++
    ", backend_secret_header: " ++ Text.Quoted.quote config.secretHeader.text ++
    ", backend_timeout: " ++ config.backendTimeout.text ++ " \x7d"

end Config

end LoginGateway
