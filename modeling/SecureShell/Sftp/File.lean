import SecureShell.Sftp.Reply

namespace SecureShell.Sftp

-- What can be done with an open file.
inductive FileTask
  | read (offset : UInt64) (length : UInt32)
  | readToEnd (offset : UInt64)
  | write (offset : UInt64) (data : Octets)
  | fstat
  | fsetstat (attributes : Attributes)
  deriving DecidableEq

inductive FileResult
  | octets (octets : Octets)
  | done
  | attributes (attributes : Attributes)
  deriving DecidableEq

-- A file task whose latest request awaits its reply.
inductive FileWork
  | reading
  | readingOn (offset : UInt64) (content : Octets)
  | writing (offset : UInt64) (rest : Octets)
  | examining
  | changing
  deriving DecidableEq

-- An open file: its handle, and the longest piece to be written at once.
structure OpenFile where
  handle : Octets
  slice : Nat
  deriving DecidableEq

namespace OpenFile

def chunkLength : UInt32 := 32 * 1024

def readOn (file : OpenFile) (offset : UInt64) (content : Octets) : Progress FileWork FileResult :=
  .ask (.read file.handle offset chunkLength) (.readingOn offset content)

-- The next piece of what is left to write. Nothing left, nothing sent.
def writeOn (file : OpenFile) (offset : UInt64) (data : Octets) : Progress FileWork FileResult :=
  if data.isEmpty then .finish (.ok .done)
  else
    let piece := data.take file.slice
    .ask (.write file.handle offset piece)
      (.writing (offset + UInt64.ofNat piece.length) (data.drop file.slice))

def start (file : OpenFile) : FileTask → Progress FileWork FileResult
  | .read offset length => .ask (.read file.handle offset length) .reading
  | .readToEnd offset => file.readOn offset []
  | .write offset data => file.writeOn offset data
  | .fstat => .ask (.fstat file.handle) .examining
  | .fsetstat attributes => .ask (.fsetstat file.handle attributes) .changing

def resume (file : OpenFile) (work : FileWork) (reply : Reply) : Progress FileWork FileResult :=
  match work with
  | .reading => .finish (reply.bind Reply.chunk |>.map .octets)
  | .readingOn offset content =>
    match reply.bind Reply.chunk with
    | .error fault => .finish (.error fault)
    | .ok chunk =>
      if chunk.isEmpty then .finish (.ok (.octets content))
      else file.readOn (offset + UInt64.ofNat chunk.length) (content ++ chunk)
  | .writing offset rest =>
    match reply.bind Reply.done with
    | .error fault => .finish (.error fault)
    | .ok () => file.writeOn offset rest
  | .examining => .finish (reply.bind Reply.attributes |>.map .attributes)
  | .changing => .finish (reply.bind Reply.done |>.map fun () => .done)

theorem resume_error (file : OpenFile) (work : FileWork) (fault : SftpFault) :
    file.resume work (.error fault) = .finish (.error fault) := by
  cases work <;> rfl

end OpenFile
end SecureShell.Sftp
