import SecureShell.Channel
import SecureShell.Connection.Lifecycle
import SecureShell.Connection.Supervisor
import SecureShell.Credentials
import SecureShell.Exec.Execution
import SecureShell.Exec.Session
import SecureShell.Exec.Stream
import SecureShell.Fault
import SecureShell.Interactive.Session
import SecureShell.Interactive.Shell
import SecureShell.Launch.Cancellation
import SecureShell.Launch.Start
import SecureShell.Octets
import SecureShell.Octets.Text
import SecureShell.Packet.Aes
import SecureShell.Packet.Hmac
import SecureShell.Packet.Protection
import SecureShell.Packet.Scheme
import SecureShell.Packet.Sha256
import SecureShell.Promise
import SecureShell.Proofs.Custody
import SecureShell.Registry
import SecureShell.Sftp.Attributes
import SecureShell.Sftp.Client
import SecureShell.Sftp.Codec
import SecureShell.Sftp.Dialogue
import SecureShell.Sftp.File
import SecureShell.Sftp.Framing
import SecureShell.Sftp.Identifiers
import SecureShell.Sftp.Listing
import SecureShell.Sftp.Message
import SecureShell.Sftp.Procedure
import SecureShell.Sftp.Reply
import SecureShell.Sftp.Service
import SecureShell.Sftp.Status
import SecureShell.Switchboard.Board
import SecureShell.Switchboard.Call
import SecureShell.Switchboard.Callers
import SecureShell.Switchboard.Engine
import SecureShell.Switchboard.Line
import SecureShell.Switchboard.Run
import SecureShell.Switchboard.Sessions
import SecureShell.Text.Glyph
import SecureShell.Text.Quoted
import SecureShell.Proofs.Sftp.Conservation
import SecureShell.Proofs.Sftp.Correlation
import SecureShell.Proofs.Octets.RoundTrip
import SecureShell.Proofs.Octets.Text
import SecureShell.Proofs.Sftp.RoundTrip
import SecureShell.Proofs.Connection.Conservation
import SecureShell.Proofs.Connection.Attempt
import SecureShell.Proofs.Connection.Outcome
import SecureShell.Proofs.Connection.Authentication
import SecureShell.Proofs.Octets.Canonical
import SecureShell.Proofs.Sftp.Framing
import SecureShell.Proofs.Octets.Repair
import SecureShell.Proofs.Sftp.Fields
import SecureShell.Proofs.Sftp.Reencoding
import SecureShell.Proofs.Sftp.Identifiers
import SecureShell.Proofs.Sftp.Serving
import SecureShell.Proofs.Sftp.Pairing
import SecureShell.Proofs.Packet.Calls
import SecureShell.Proofs.Packet.Reception
import SecureShell.Proofs.Packet.Exchange
import SecureShell.Proofs.Connection.Interleaving
import SecureShell.Proofs.Connection.Links
import SecureShell.Proofs.Sftp.Phases
import SecureShell.Proofs.Interactive.Lifetime
import SecureShell.Proofs.Sftp.Listening
import SecureShell.Proofs.Exec.Course
import SecureShell.Proofs.Sftp.Chunking
import SecureShell.Proofs.Exec.Reading
import SecureShell.Proofs.Switchboard.Collecting
import SecureShell.Proofs.Switchboard.Execute
import SecureShell.Proofs.Sftp.Slicing
import SecureShell.Proofs.Sftp.Storage
import SecureShell.Proofs.Sftp.Tasks
import SecureShell.Proofs.Sftp.Greeting
import SecureShell.Proofs.Sftp.Bookkeeping
import SecureShell.Proofs.Switchboard.Admission
import SecureShell.Proofs.Switchboard.Shutdown
import SecureShell.Proofs.Sftp.Directory
import SecureShell.Proofs.Sftp.FileUse
import SecureShell.Proofs.Launch.Race
import SecureShell.Proofs.Switchboard.Evolution
import SecureShell.Proofs.Switchboard.Turns
import SecureShell.Proofs.Switchboard.OpenFiles
import SecureShell.Proofs.Switchboard.Abandonment
import SecureShell.Proofs.Switchboard.Launching
import SecureShell.Proofs.Launch.CallingOff
import SecureShell.Proofs.Exec.Utterance
import SecureShell.Proofs.Switchboard.Streaming
import SecureShell.Proofs.Sftp.Verdicts
import SecureShell.Proofs.Switchboard.Dealing
import SecureShell.Proofs.Switchboard.Conversation
import SecureShell.Proofs.Octets.Locality
import SecureShell.Proofs.Sftp.Sections
import SecureShell.Proofs.Sftp.Delimiting
import SecureShell.Proofs.Packet.KeySizes
import SecureShell.Proofs.Registry
import SecureShell.Proofs.Connection.Observation
import SecureShell.Proofs.Registry.Tokens
import SecureShell.Proofs.Sftp.Reservations
