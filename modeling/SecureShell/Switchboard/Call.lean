import SecureShell.Exec.Stream
import SecureShell.Sftp.Procedure

namespace SecureShell.Switchboard

-- Whatever happens at a switchboard is numbered in turn. A call bears the number at
-- which it was made, and so does what it leaves in the hands of its caller.
abbrev CallId := Nat

-- A session to be started on a line of its own. A command is either collected to its
-- end or left to its caller to read.
inductive Venture
  | command (text : String) (collected : Bool)
  | shell
  | files (settings : Sftp.Settings)

inductive Call
  | connect (timeout : Nat)
  | disconnect
  | observe
  | venture (venture : Venture) (timeout : Nat)
  | write (shell : CallId) (data : Octets)
  | closeShell (shell : CallId)
  | observeShell (shell : CallId)
  | files (client : CallId) (task : Sftp.Task)
  | leave (client : CallId)
  | file (file : CallId) (task : Sftp.FileTask)
  | closeFile (file : CallId)

-- What a caller gets in the end.
inductive Gain
  | nothing
  | capture (capture : Exec.Capture)
  | extensions (extensions : List Text.Pair)
  | path (path : String)
  | files (result : Sftp.Result)
  deriving DecidableEq

inductive Trouble
  | connection (fault : ConnectionFault)
  | shell (fault : ShellFault)
  | files (fault : SftpFault)
  deriving DecidableEq

abbrev Answer := Except Trouble Gain

end SecureShell.Switchboard
