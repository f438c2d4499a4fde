import SecureShell.Sftp.Attributes
import SecureShell.Sftp.Status

namespace SecureShell.Sftp

-- How a file is to be opened.
structure OpenMode where
  read : Bool
  write : Bool
  append : Bool
  create : Bool
  truncate : Bool
  exclusive : Bool
  deriving DecidableEq

namespace OpenMode

-- Bits beyond the six are dropped.
def ofWord (word : UInt32) : OpenMode where
  read := Attributes.has word 0x01
  write := Attributes.has word 0x02
  append := Attributes.has word 0x04
  create := Attributes.has word 0x08
  truncate := Attributes.has word 0x10
  exclusive := Attributes.has word 0x20

def toWord (mode : OpenMode) : UInt32 :=
  Attributes.bitWhen mode.read 0x01 ||| Attributes.bitWhen mode.write 0x02 |||
  Attributes.bitWhen mode.append 0x04 ||| Attributes.bitWhen mode.create 0x08 |||
  Attributes.bitWhen mode.truncate 0x10 ||| Attributes.bitWhen mode.exclusive 0x20

end OpenMode

-- What a client asks of a server. A symbolic link names its two paths in the order
-- in which they travel: servers disagree on which of them is the link.
inductive Request
  | openFile (path : Octets) (mode : OpenMode) (attributes : Attributes)
  | close (handle : Octets)
  | read (handle : Octets) (offset : UInt64) (length : UInt32)
  | write (handle : Octets) (offset : UInt64) (data : Octets)
  | lstat (path : Octets)
  | fstat (handle : Octets)
  | setstat (path : Octets) (attributes : Attributes)
  | fsetstat (handle : Octets) (attributes : Attributes)
  | opendir (path : Octets)
  | readdir (handle : Octets)
  | remove (path : Octets)
  | mkdir (path : Octets) (attributes : Attributes)
  | rmdir (path : Octets)
  | realpath (path : Octets)
  | stat (path : Octets)
  | rename (source target : Octets)
  | readlink (path : Octets)
  | symlink (first second : Octets)
  deriving DecidableEq

inductive Response
  | status (status : Status)
  | handle (handle : Octets)
  | data (data : Octets)
  | names (entries : List Entry)
  | attributes (attributes : Attributes)
  deriving DecidableEq

-- The two greetings travel without an ID; all else belongs to the request it names.
inductive Message
  | init (version : UInt32) (extensions : List Text.Pair)
  | version (version : UInt32) (extensions : List Text.Pair)
  | request (id : UInt32) (request : Request)
  | response (id : UInt32) (response : Response)
  deriving DecidableEq

def protocolVersion : UInt32 := 3

namespace Message

def id? : Message → Option UInt32
  | .init .. | .version .. => none
  | .request id _ | .response id _ => some id

end Message
end SecureShell.Sftp
