import LoginGateway.Text.Blank
import LoginGateway.Text.Cut
import LoginGateway.Url.Parse

namespace LoginGateway.Telemetry

structure Settings where
  endpoint : Url
  headers : List (String × String)
  /-- The name of this process, if it is given one. -/
  instanceId : Option String

namespace Settings

def endpointVariable : String := "OTEL_EXPORTER_OTLP_ENDPOINT"

def headersVariable : String := "OTEL_EXPORTER_OTLP_HEADERS"

def instanceVariable : String := "OTEL_SERVICE_INSTANCE_ID"

structure Fault where
  endpoint : String
  cause : UrlFault
  deriving DecidableEq

def Fault.summary (fault : Fault) : String := "invalid " ++ endpointVariable ++ ": " ++ fault.endpoint

def Fault.message (fault : Fault) : String := fault.summary ++ ": " ++ fault.cause.message

/-- One entry `name=value` of the list of headers, if it is one and has a name. -/
def header? (entry : List Char) : Option (String × String) := do
  let (key, value) ← Text.cutAt? '=' entry
  let key := (Text.trimBlank key).map Char.toLower
  if key.isEmpty then none
  else some (String.ofList key, String.ofList (Text.trimBlank value))

def readHeaders (list : String) : List (String × String) :=
  (list.toList.splitOn ',').filterMap header?

def hasSchemeMark : List Char → Bool
  | [] => false
  | c :: cs => (Text.dropFront? "://".toList (c :: cs)).isSome || hasSchemeMark cs

def trimEndpoint (raw : String) : List Char :=
  Text.trimEndBy (· == '/') (Text.trimBlank raw.toList)

def readEndpoint (raw : String) : Except Fault Url :=
  let trimmed := trimEndpoint raw
  let text := String.ofList (if hasSchemeMark trimmed then trimmed else "https://".toList ++ trimmed)
  (Url.parse text).mapError fun cause => ⟨String.ofList trimmed, cause⟩

def ofEnvironment (environment : String → Option String) : Except Fault (Option Settings) :=
  match environment endpointVariable with
  | none => .ok none
  | some raw =>
    if (Text.trimBlank raw.toList).isEmpty then .ok none
    else do
      let endpoint ← readEndpoint raw
      .ok (some {
        endpoint
        headers := readHeaders ((environment headersVariable).getD "")
        instanceId := environment instanceVariable })

/-- The name that the certificate of the endpoint has to be for, if the endpoint has one. -/
def tlsDomain? (settings : Settings) : Option String :=
  if settings.endpoint.scheme = "https" then settings.endpoint.host?.map Url.Host.text else none

end Settings

end LoginGateway.Telemetry
