import SecureShell.Sftp.Status

namespace SecureShell

instance decidableEqExcept [DecidableEq ε] [DecidableEq α] : DecidableEq (Except ε α)
  | .ok left, .ok right =>
    if equal : left = right then .isTrue (by rw [equal])
    else .isFalse fun same => equal (Except.ok.inj same)
  | .error left, .error right =>
    if equal : left = right then .isTrue (by rw [equal])
    else .isFalse fun same => equal (Except.error.inj same)
  | .ok _, .error _ | .error _, .ok _ => .isFalse nofun

inductive TransportKind
  | connectionRefused | timeout | hostKeyRejected | authenticationFailed | channelOpenFailed
  | closed | other
  deriving DecidableEq

def TransportKind.label : TransportKind → String
  | .connectionRefused => "ConnectionRefused"
  | .timeout => "Timeout"
  | .hostKeyRejected => "HostKeyRejected"
  | .authenticationFailed => "AuthenticationFailed"
  | .channelOpenFailed => "ChannelOpenFailed"
  | .closed => "Closed"
  | .other => "Other"

structure TransportFault where
  kind : TransportKind
  text : String
  deriving DecidableEq

def TransportFault.message (fault : TransportFault) : String :=
  s!"{fault.kind.label}: {fault.text}"

-- What every use of a channel meets once the far end of it is gone.
def TransportFault.channelClosed : TransportFault := ⟨.closed, "channel has been closed"⟩

-- Breaches of the file protocol. `stated` carries a breach reported from elsewhere
-- in that party's own words.
inductive Violation
  | shortData | trailingOctets
  | unknownType (number : UInt8)
  | frameLength (length : UInt32)
  | subsystemRejected | versionExpected | alreadyStarted | unmatchedResponse
  | repeatedId | notARequest | idsExhausted
  | stated (text : String)
  deriving DecidableEq

def Violation.text : Violation → String
  | .shortData => "too short data"
  | .trailingOctets => "trailing bytes in packet"
  | .unknownType number => s!"unknown message type {number.toNat}"
  | .frameLength length => s!"invalid frame length {length.toNat}"
  | .subsystemRejected => "sftp subsystem request was rejected"
  | .versionExpected => "expected a version message"
  | .alreadyStarted => "already started"
  | .unmatchedResponse => "response does not match any request"
  | .repeatedId => "request ID is already in flight"
  | .notARequest => "not a request"
  | .idsExhausted => "no request ID available"
  | .stated text => text

mutual

-- `sessionStart` keeps the occasion on which the session failed to start. Two such
-- faults are the same only when they stem from one occasion.
inductive ConnectionFault
  | requiresActive | timeout | closed | cancelled | unknown
  | transport (fault : TransportFault)
  | sessionStart (occasion : Nat) (cause : StartFault)

inductive StartFault
  | sftp (fault : SftpFault)
  | stated (text : String)

inductive SftpFault
  | closed | unexpectedResponse | noEntry
  | unsupportedVersion (version : UInt32)
  | violation (violation : Violation)
  | refused (status : Sftp.Status)
  | connection (fault : ConnectionFault)

end

deriving instance DecidableEq for ConnectionFault, StartFault, SftpFault

inductive ShellFault
  | notRunning | unknown
  | connection (fault : ConnectionFault)
  deriving DecidableEq

mutual

def ConnectionFault.message : ConnectionFault → String
  | .requiresActive => "the operation requires an active connection"
  | .timeout => "the operation timed out"
  | .closed => "connection has been closed"
  | .cancelled => "the operation has been cancelled"
  | .unknown => "unknown connection failure"
  | .transport _ => "errored in underlying transport"
  | .sessionStart _ cause => "session failed to start: " ++ cause.message

def StartFault.message : StartFault → String
  | .sftp fault => fault.message
  | .stated text => text

def SftpFault.message : SftpFault → String
  | .closed => "SFTP session has already been closed"
  | .unexpectedResponse => "incorrect response type"
  | .noEntry => "the response carried no entry"
  | .unsupportedVersion version => s!"unsupported SFTP protocol version {version.toNat}"
  | .violation violation => "protocol error: " ++ violation.text
  | .refused status => "from remote: " ++ status.message
  | .connection _ => "errored in the connection"

end

def ShellFault.message : ShellFault → String
  | .notRunning => "the shell is not running"
  | .unknown => "unknown shell failure"
  | .connection _ => "errored in the connection"

mutual

-- The message of a fault and of each fault behind it, outermost first.
def ConnectionFault.trail : ConnectionFault → List String
  | .requiresActive => [ConnectionFault.requiresActive.message]
  | .timeout => [ConnectionFault.timeout.message]
  | .closed => [ConnectionFault.closed.message]
  | .cancelled => [ConnectionFault.cancelled.message]
  | .unknown => [ConnectionFault.unknown.message]
  | .transport fault => [(ConnectionFault.transport fault).message, fault.message]
  | .sessionStart occasion cause => (ConnectionFault.sessionStart occasion cause).message :: cause.trail

def StartFault.trail : StartFault → List String
  | .sftp fault => fault.trail
  | .stated text => [text]

def SftpFault.trail : SftpFault → List String
  | .closed => [SftpFault.closed.message]
  | .unexpectedResponse => [SftpFault.unexpectedResponse.message]
  | .noEntry => [SftpFault.noEntry.message]
  | .unsupportedVersion version => [(SftpFault.unsupportedVersion version).message]
  | .violation violation => [(SftpFault.violation violation).message]
  | .refused status => [(SftpFault.refused status).message, status.message]
  | .connection fault => (SftpFault.connection fault).message :: fault.trail

end

def ShellFault.trail : ShellFault → List String
  | .connection fault => (ShellFault.connection fault).message :: fault.trail
  | fault => [fault.message]

mutual

def ConnectionFault.same : ConnectionFault → ConnectionFault → Bool
  | .requiresActive, .requiresActive | .timeout, .timeout | .closed, .closed
  | .cancelled, .cancelled | .unknown, .unknown => true
  | .transport left, .transport right => left = right
  | .sessionStart left _, .sessionStart right _ => left = right
  | _, _ => false

def SftpFault.same : SftpFault → SftpFault → Bool
  | .closed, .closed | .unexpectedResponse, .unexpectedResponse | .noEntry, .noEntry => true
  | .unsupportedVersion left, .unsupportedVersion right => left = right
  | .violation left, .violation right => left.text = right.text
  | .refused left, .refused right => left = right
  | .connection left, .connection right => left.same right
  | _, _ => false

end

def ShellFault.same : ShellFault → ShellFault → Bool
  | .notRunning, .notRunning | .unknown, .unknown => true
  | .connection left, .connection right => left.same right
  | _, _ => false

end SecureShell
