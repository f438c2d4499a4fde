import SecureShell.Fault
import SecureShell.Sftp.Message

namespace SecureShell.Sftp

open Octets

namespace Request

def code : Request → UInt8
  | .openFile .. => 3
  | .close .. => 4
  | .read .. => 5
  | .write .. => 6
  | .lstat .. => 7
  | .fstat .. => 8
  | .setstat .. => 9
  | .fsetstat .. => 10
  | .opendir .. => 11
  | .readdir .. => 12
  | .remove .. => 13
  | .mkdir .. => 14
  | .rmdir .. => 15
  | .realpath .. => 16
  | .stat .. => 17
  | .rename .. => 18
  | .readlink .. => 19
  | .symlink .. => 20

def writeBody : Request → Octets
  | .openFile path mode attributes => writeString path ++ writeWord mode.toWord ++ attributes.write
  | .close handle | .fstat handle | .readdir handle => writeString handle
  | .read handle offset length => writeString handle ++ writeLong offset ++ writeWord length
  | .write handle offset data => writeString handle ++ writeLong offset ++ writeString data
  | .lstat path | .opendir path | .remove path | .rmdir path | .realpath path | .stat path
  | .readlink path => writeString path
  | .setstat path attributes | .mkdir path attributes => writeString path ++ attributes.write
  | .fsetstat handle attributes => writeString handle ++ attributes.write
  | .rename first second | .symlink first second => writeString first ++ writeString second

def readOne (make : Octets → Request) (octets : Octets) : Option (Request × Octets) := do
  let (string, rest) ← readString octets
  return (make string, rest)

def readTwo (make : Octets → Octets → Request) (octets : Octets) : Option (Request × Octets) := do
  let (first, rest) ← readString octets
  let (second, rest) ← readString rest
  return (make first second, rest)

def readAttributed (make : Octets → Attributes → Request) (octets : Octets) :
    Option (Request × Octets) := do
  let (string, rest) ← readString octets
  let (attributes, rest) ← Attributes.read rest
  return (make string attributes, rest)

def readOpenFile (octets : Octets) : Option (Request × Octets) := do
  let (path, rest) ← readString octets
  let (mode, rest) ← readWord rest
  let (attributes, rest) ← Attributes.read rest
  return (.openFile path (.ofWord mode) attributes, rest)

def readRead (octets : Octets) : Option (Request × Octets) := do
  let (handle, rest) ← readString octets
  let (offset, rest) ← readLong rest
  let (length, rest) ← readWord rest
  return (.read handle offset length, rest)

def readWrite (octets : Octets) : Option (Request × Octets) := do
  let (handle, rest) ← readString octets
  let (offset, rest) ← readLong rest
  let (data, rest) ← readString rest
  return (.write handle offset data, rest)

-- The layout that belongs to a code, if the code is that of a request.
def layout? (code : UInt8) : Option (Octets → Option (Request × Octets)) :=
  if code = 3 then some readOpenFile
  else if code = 4 then some (readOne .close)
  else if code = 5 then some readRead
  else if code = 6 then some readWrite
  else if code = 7 then some (readOne .lstat)
  else if code = 8 then some (readOne .fstat)
  else if code = 9 then some (readAttributed .setstat)
  else if code = 10 then some (readAttributed .fsetstat)
  else if code = 11 then some (readOne .opendir)
  else if code = 12 then some (readOne .readdir)
  else if code = 13 then some (readOne .remove)
  else if code = 14 then some (readAttributed .mkdir)
  else if code = 15 then some (readOne .rmdir)
  else if code = 16 then some (readOne .realpath)
  else if code = 17 then some (readOne .stat)
  else if code = 18 then some (readTwo .rename)
  else if code = 19 then some (readOne .readlink)
  else if code = 20 then some (readTwo .symlink)
  else none

end Request

namespace Response

def code : Response → UInt8
  | .status _ => 101
  | .handle _ => 102
  | .data _ => 103
  | .names _ => 104
  | .attributes _ => 105

def writeEntries (entries : List Entry) : Octets :=
  writeWord (UInt32.ofNat entries.length) ++ entries.flatMap Entry.write

def writeBody : Response → Octets
  | .status report =>
    writeWord report.code.toWord ++ Text.write report.text ++ Text.write report.language
  | .handle string | .data string => writeString string
  | .names entries => writeEntries entries
  | .attributes found => found.write

def readStatus (octets : Octets) : Option (Response × Octets) := do
  let (code, rest) ← readWord octets
  let (text, rest) ← Text.read rest
  let (language, rest) ← Text.read rest
  return (.status ⟨.ofWord code, text, language⟩, rest)

def readOne (make : Octets → Response) (octets : Octets) : Option (Response × Octets) := do
  let (string, rest) ← readString octets
  return (make string, rest)

-- An entry holds two length words and a flag word at the least.
def readNames (octets : Octets) : Option (Response × Octets) := do
  let (entries, rest) ← readCounted 12 Entry.read octets
  return (.names entries, rest)

def readAttributes (octets : Octets) : Option (Response × Octets) := do
  let (found, rest) ← Attributes.read octets
  return (.attributes found, rest)

def layout? (code : UInt8) : Option (Octets → Option (Response × Octets)) :=
  if code = 101 then some readStatus
  else if code = 102 then some (readOne .handle)
  else if code = 103 then some (readOne .data)
  else if code = 104 then some readNames
  else if code = 105 then some readAttributes
  else none

end Response

namespace Message

-- Pairs up to the end of the packet. Every pair takes eight octets or more, so as
-- many rounds as there are octets are enough.
def readPairs : Nat → Octets → Option (List Text.Pair)
  | _, [] => some []
  | 0, _ :: _ => none
  | rounds + 1, octets => do
    let (pair, rest) ← Text.readPair octets
    let pairs ← readPairs rounds rest
    return pair :: pairs

def readGreeting (octets : Octets) : Option (UInt32 × List Text.Pair) := do
  let (number, rest) ← readWord octets
  let pairs ← readPairs rest.length rest
  return (number, pairs)

def writeGreeting (number : UInt32) (extensions : List Text.Pair) : Octets :=
  writeWord number ++ Text.writePairs extensions

def write : Message → Octets
  | .init number extensions => 1 :: writeGreeting number extensions
  | .version number extensions => 2 :: writeGreeting number extensions
  | .request id asked => asked.code :: writeWord id ++ asked.writeBody
  | .response id given => given.code :: writeWord id ++ given.writeBody

-- The body with its length in front, as it goes over a channel.
def frame (message : Message) : Octets := writeString message.write

-- What was read has to be the whole packet.
def whole : Option (Message × Octets) → Except Violation Message
  | none => .error .shortData
  | some (message, []) => .ok message
  | some (_, _ :: _) => .error .trailingOctets

-- The ID is read before the type is looked up, so that a packet cut short inside
-- its ID is short whatever its type.
def readBody (code : UInt8) (id : UInt32) (octets : Octets) : Except Violation Message :=
  match Request.layout? code with
  | some layout => whole ((layout octets).map fun (asked, rest) => (.request id asked, rest))
  | none =>
    match Response.layout? code with
    | some layout => whole ((layout octets).map fun (given, rest) => (.response id given, rest))
    | none => .error (.unknownType code)

def greeting (make : UInt32 → List Text.Pair → Message) (octets : Octets) :
    Except Violation Message :=
  match readGreeting octets with
  | some (number, pairs) => .ok (make number pairs)
  | none => .error .shortData

def read : Octets → Except Violation Message
  | [] => .error .shortData
  | code :: rest =>
    if code = 1 then greeting .init rest
    else if code = 2 then greeting .version rest
    else match readWord rest with
    | none => .error .shortData
    | some (id, body) => readBody code id body

end Message
end SecureShell.Sftp
