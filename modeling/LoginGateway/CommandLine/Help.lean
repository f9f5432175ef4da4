import LoginGateway.Build
import LoginGateway.CommandLine.Parse

namespace LoginGateway.CommandLine

namespace Field

def summary : Field → String
  | port => "Port to listen on"
  | password => "Operator password accepted by POST /auth"
  | sessionSecret => "Secret used to sign session tokens"
  | sessionMaxAge => "Session token validity and cookie Max-Age in seconds [default: 604800]"
  | cookieSecure => "Mark the session cookie Secure (serve the gateway over HTTPS)"
  | loginMaxAttempts => "Login attempts allowed per source within one window [default: 5]"
  | loginWindow => "Length of the login attempt window in seconds [default: 900]"
  | loginSweep => "How often expired login attempt records are purged, in seconds [default: 300]"
  | backendUrl => "Backend base URL, example: http://fortress.internal:3000"
  | backendSecret => "Shared secret injected into every proxied request"
  | backendPathPrefix => "Path inserted between the backend URL and the proxied path"
  | backendSecretHeader => "Header carrying the shared secret"
  | backendTimeout => "Timeout for a single proxied request in seconds [default: 30]"
  | verbosity => "Verbosity level: ERROR, WARN, INFO, DEBUG, TRACE (default: ERROR)"

def description : Field → String
  | sessionSecret =>
    "Secret used to sign session tokens (HMAC-SHA256).\n\nRotating it invalidates every issued session."
  | field => field.summary

/-- Defaults that are shown apart from the summary. -/
def default? : Field → Option String
  | port => some "8080"
  | backendPathPrefix => some "/api/fortress"
  | backendSecretHeader => some "x-fortress-secret"
  | _ => none

def isSecret : Field → Bool
  | password | sessionSecret | backendSecret => true
  | _ => false

def notes (environment : Environment) (field : Field) : List String :=
  let value := if field.isSecret then "" else "=" ++ (environment field.envName).getD ""
  ("[env: " ++ field.envName ++ value ++ "]") ::
    (field.default?.map fun d => "[default: " ++ d ++ "]").toList

end Field

namespace Help

def indent : String := "          "

def indented (s : String) : String :=
  indent ++ ("\n" ++ indent).intercalate (s.splitOn "\n")

def heading (switch : Switch) : String :=
  (match switch.short? with
    | some c => "  " ++ Text.Terminal.bold (String.ofList ['-', c]) ++ ", "
    | none => "      ") ++ Text.Terminal.bold switch.shown

def body (long : Bool) (environment : Environment) : Switch → String
  | .setting field =>
    let notes := field.notes environment
    if long then field.description ++ "\n\n" ++ "\n".intercalate notes
    else " ".intercalate (field.summary :: notes)
  | .help => if long then "Print help (see a summary with '-h')" else "Print help (see more with '--help')"
  | .version => "Print version"

def item (long : Bool) (environment : Environment) (switch : Switch) : String :=
  heading switch ++ "\n" ++ indented (body long environment switch) ++ "\n"

def text (long : Bool) (environment : Environment) : String :=
  Text.Terminal.strip <| Build.about ++ "\n\nUsage: " ++ Build.name ++ " [OPTIONS]\n\nOptions:\n" ++
    (if long then "\n" else "").intercalate (Switch.all.map (item long environment))

def version (long : Bool) (commit? : Option Build.Commit) : String :=
  Build.name ++ " " ++ Build.version ++ (if long then " - " ++ Build.hash commit? else "") ++ "\n"

end Help

def Refusal.message (environment : Environment) (refusal : Refusal)
    (commit? : Option Build.Commit := none) : String :=
  match refusal with
  | .help long => Help.text long environment
  | .version long => Help.version long commit?
  | refusal => "error: " ++ refusal.problem?.getD ""

end LoginGateway.CommandLine
