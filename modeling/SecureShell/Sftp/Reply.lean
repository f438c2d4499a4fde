import SecureShell.Fault
import SecureShell.Sftp.Message

namespace SecureShell.Sftp

-- What came back for a request, or why nothing did.
abbrev Reply := Except SftpFault Message

namespace Reply

-- A response of another shape than the request calls for.
def unfit : Message → SftpFault
  | .response _ (.status report) =>
    if report.code.isSuccess then .unexpectedResponse else .refused report
  | _ => .unexpectedResponse

def done : Message → Except SftpFault Unit
  | .response _ (.status report) =>
    if report.code.isSuccess then .ok () else .error (.refused report)
  | message => .error (unfit message)

def handle : Message → Except SftpFault Octets
  | .response _ (.handle handle) => .ok handle
  | message => .error (unfit message)

def attributes : Message → Except SftpFault Attributes
  | .response _ (.attributes attributes) => .ok attributes
  | message => .error (unfit message)

def isEof : Message → Bool
  | .response _ (.status report) => report.code = .eof
  | _ => false

-- No octets at the end of the file.
def chunk : Message → Except SftpFault Octets
  | .response _ (.data data) => .ok data
  | message => if isEof message then .ok [] else .error (unfit message)

-- Nothing once the listing is exhausted.
def page : Message → Except SftpFault (Option (List Entry))
  | .response _ (.names entries) => .ok (some entries)
  | message => if isEof message then .ok none else .error (unfit message)

-- The first name of those given.
def name : Message → Except SftpFault Octets
  | .response _ (.names (entry :: _)) => .ok entry.name
  | .response _ (.names []) => .error .noEntry
  | message => .error (unfit message)

end Reply

-- Work that goes on request by request: either the next request, and how to go on
-- with its reply, or the result.
inductive Progress (work result : Type)
  | ask (request : Request) (rest : work)
  | finish (result : Except SftpFault result)

end SecureShell.Sftp
