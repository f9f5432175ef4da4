import LoginGateway.ApiDescription
import LoginGateway.Attempts.Sweeper
import LoginGateway.Clock
import LoginGateway.Gateway.Serve
import LoginGateway.Main
import LoginGateway.Startup
import LoginGateway.Proofs.Attempts.History
import LoginGateway.Proofs.Attempts.Isolation
import LoginGateway.Proofs.Attempts.Quota
import LoginGateway.Proofs.Attempts.Staleness
import LoginGateway.Proofs.Backend.Landing
import LoginGateway.Proofs.CommandLine.Validation
import LoginGateway.Proofs.Gateway.Age
import LoginGateway.Proofs.Gateway.Calls
import LoginGateway.Proofs.Gateway.Credentials
import LoginGateway.Proofs.Gateway.Fidelity
import LoginGateway.Proofs.Gateway.Interleaving
import LoginGateway.Proofs.Gateway.Lifecycle
import LoginGateway.Proofs.Gateway.Retry
import LoginGateway.Proofs.Gateway.Secret
import LoginGateway.Proofs.Session.RoundTrip
import LoginGateway.Proofs.Session.Tampering
import LoginGateway.Proofs.Gateway.Query
import LoginGateway.Proofs.Login.Lexeme
import LoginGateway.Proofs.Login.Escape
import LoginGateway.Proofs.Login.Value
import LoginGateway.Proofs.Login.Body
import LoginGateway.Proofs.Gateway.Password
import LoginGateway.Proofs.Config.Prefix
import LoginGateway.Proofs.Gateway.Wait
import LoginGateway.Proofs.Startup
import LoginGateway.Proofs.Attempts.Raising
import LoginGateway.Proofs.Telemetry.Endpoint
import LoginGateway.Proofs.Telemetry.Metadata
import LoginGateway.Proofs.Attempts.Windows
