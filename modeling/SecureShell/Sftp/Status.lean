namespace SecureShell.Sftp

inductive StatusCode
  | ok | eof | noSuchFile | permissionDenied | failure | badMessage | noConnection
  | connectionLost | opUnsupported
  | other (number : UInt32)
  deriving DecidableEq

namespace StatusCode

def ofWord (number : UInt32) : StatusCode :=
  if number = 0 then .ok
  else if number = 1 then .eof
  else if number = 2 then .noSuchFile
  else if number = 3 then .permissionDenied
  else if number = 4 then .failure
  else if number = 5 then .badMessage
  else if number = 6 then .noConnection
  else if number = 7 then .connectionLost
  else if number = 8 then .opUnsupported
  else .other number

def toWord : StatusCode → UInt32
  | .ok => 0
  | .eof => 1
  | .noSuchFile => 2
  | .permissionDenied => 3
  | .failure => 4
  | .badMessage => 5
  | .noConnection => 6
  | .connectionLost => 7
  | .opUnsupported => 8
  | .other number => number

def label : StatusCode → String
  | .ok => "Ok"
  | .eof => "Eof"
  | .noSuchFile => "NoSuchFile"
  | .permissionDenied => "PermissionDenied"
  | .failure => "Failure"
  | .badMessage => "BadMessage"
  | .noConnection => "NoConnection"
  | .connectionLost => "ConnectionLost"
  | .opUnsupported => "OpUnsupported"
  | .other number => s!"Other({number.toNat})"

-- A named code always reads back. A number that has a name, written as `other`,
-- comes back under its name.
theorem toWord_ofWord (number : UInt32) : (ofWord number).toWord = number := by
  unfold ofWord
  repeat' split
  all_goals simp_all [toWord]

-- The end of a file or listing is a success, not a refusal.
def isSuccess (code : StatusCode) : Bool := code = .ok || code = .eof

end StatusCode

structure Status where
  code : StatusCode
  text : String
  language : String
  deriving DecidableEq

def Status.message (status : Status) : String := s!"{status.code.label}: {status.text}"

end SecureShell.Sftp
