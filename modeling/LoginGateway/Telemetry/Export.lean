import LoginGateway.Http.Target
import LoginGateway.Telemetry.Metadata
import LoginGateway.Telemetry.Peer
import LoginGateway.Telemetry.Settings

namespace LoginGateway.Telemetry

inductive Fault where
  | settings (fault : Settings.Fault)
  | metadata (fault : Metadata.Fault)
  | endpoint (fault : Http.Target.Fault)
  /-- No certificate can be for the host of the endpoint. -/
  | peer
  deriving DecidableEq

def exporterFault (text : String) : String :=
  "Exporter otlp encountered the following error(s): " ++ text

def Fault.message : Fault → String
  | settings fault => fault.message
  | metadata fault => fault.message
  | endpoint fault => exporterFault ("invalid URI " ++ fault.message)
  | peer => exporterFault "transport error transport error"

def Fault.summary : Fault → String
  | settings fault => fault.summary
  | fault => fault.message

def checkMetadata (settings : Settings) : Except Fault Unit :=
  match Metadata.ofHeaders settings.headers with
  | .ok _ => .ok ()
  | .error fault => .error (.metadata fault)

def checkEndpoint (raw : String) : Except Fault Unit :=
  match Http.Target.parse raw with
  | .ok _ => .ok ()
  | .error fault => .error (.endpoint fault)

def checkPeer (settings : Settings) : Except Fault Unit :=
  match if settings.endpoint.scheme = "https" then settings.endpoint.host? else none with
  | some host => if Peer.canProve host then .ok () else .error .peer
  | none => .ok ()

def tracesVariable : String := "OTEL_EXPORTER_OTLP_TRACES_ENDPOINT"

def exporterEndpoint (environment : String → Option String) : String :=
  ((environment tracesVariable).or (environment Settings.endpointVariable)).getD ""

def setUp (environment : String → Option String) : Except Fault Unit :=
  match Settings.ofEnvironment environment with
  | .error fault => .error (.settings fault)
  | .ok none => .ok ()
  | .ok (some settings) => do
    checkMetadata settings
    checkEndpoint (exporterEndpoint environment)
    checkPeer settings

end LoginGateway.Telemetry
