import ControlPlane.CommandLine
import ControlPlane.Gate.Interleaving
import ControlPlane.Main
import ControlPlane.Surroundings
import ControlPlane.Proofs.Program.Outcome
import ControlPlane.Proofs.Gate.Guard
import ControlPlane.Proofs.Gate.Outcome
import ControlPlane.Proofs.Session.SingleWalk
import ControlPlane.Proofs.Signer.SingleFlight
import ControlPlane.Proofs.Gate.Alone
import ControlPlane.Proofs.Retry.Timeline
import ControlPlane.Proofs.Retry.Attempt
import ControlPlane.Proofs.Retry.Limit
import ControlPlane.Proofs.Retry.Bounds
import ControlPlane.Proofs.Authenticator.Decision
import ControlPlane.Proofs.Authenticator.Profile
import ControlPlane.Proofs.Session.Walk
import ControlPlane.Proofs.Session.Provenance
import ControlPlane.Proofs.Config.Redaction
import ControlPlane.Proofs.Program.Again
import ControlPlane.Proofs.Program.Asks
import ControlPlane.Proofs.Program.Runs
import ControlPlane.Proofs.Url.Server
import ControlPlane.Proofs.Workspace
import ControlPlane.Proofs.Authenticator.Asks
import ControlPlane.Proofs.Authenticator.AttemptFree
import ControlPlane.Proofs.Session.Runs
import ControlPlane.Proofs.Client.Attempts
import ControlPlane.Proofs.Client.Server
import ControlPlane.Proofs.Authenticator.Verdicts
import ControlPlane.Proofs.Authenticator.Calendar
import ControlPlane.Proofs.Session.Selection
import ControlPlane.Proofs.Program.Course
import ControlPlane.Proofs.Client.Departures
import ControlPlane.Proofs.Client.Liveness
import ControlPlane.Proofs.Authenticator.Endings
import ControlPlane.Proofs.Authenticator.Leaves
import ControlPlane.Proofs.Gate.Transcript
import ControlPlane.Proofs.Session.Settings
import ControlPlane.Proofs.Program.Outline
import ControlPlane.Proofs.Session.Repeats
import ControlPlane.Proofs.Session.Calendar
import ControlPlane.Proofs.Session.Stability
import ControlPlane.Proofs.Journal
import ControlPlane.Proofs.Secrets
import ControlPlane.Proofs.Gate.Coupled
import ControlPlane.Proofs.Signer.Alike
import ControlPlane.Proofs.Authenticator.Grants
import ControlPlane.Proofs.Key.Rsa
import ControlPlane.Proofs.Authenticator.Again
import ControlPlane.Proofs.Authenticator.Alike
import ControlPlane.Proofs.Session.Alike
import ControlPlane.Proofs.Client.Secrecy
import ControlPlane.Proofs.Bytes
import ControlPlane.Proofs.Url.Form
import ControlPlane.Proofs.Json.Members
import ControlPlane.Proofs.Call
import ControlPlane.Proofs.Profile.Reader
import ControlPlane.Proofs.Profile.Lines
import ControlPlane.Proofs.Profile.File
import ControlPlane.Proofs.Authenticator.ProfileFile
import ControlPlane.Proofs.Header
import ControlPlane.Proofs.Authenticator.Authorizes
import ControlPlane.Proofs.Gate.Reach
import ControlPlane.Proofs.Client.Crowd
import ControlPlane.Proofs.Client.Standing
import ControlPlane.Proofs.Client.Alone
import ControlPlane.Proofs.Client.Signed
import ControlPlane.Proofs.Retry.Runs
import ControlPlane.Proofs.Client.Permits
import ControlPlane.Proofs.Program.Relay
import ControlPlane.Proofs.Retry.Replay
import ControlPlane.Proofs.Error.Transient
import ControlPlane.Proofs.Authenticator.ProfileCredential
import ControlPlane.Proofs.Json.Numeral
import ControlPlane.Proofs.Json.Text
import ControlPlane.Proofs.Json.Layout
import ControlPlane.Proofs.Json.Record
import ControlPlane.Proofs.Config.Edit
import ControlPlane.Proofs.Config.RoundTrip
import ControlPlane.Proofs.Base64.RoundTrip
import ControlPlane.Proofs.Authenticator.BasicCredential
import ControlPlane.Proofs.Retry.Refusals
import ControlPlane.Proofs.Signer.Signature
import ControlPlane.Proofs.Signer.Origin
import ControlPlane.Proofs.Authenticator.Fetch
import ControlPlane.Proofs.Authenticator.SharedEnd
import ControlPlane.Proofs.Overrides
import ControlPlane.Proofs.Path
import ControlPlane.Proofs.Home
