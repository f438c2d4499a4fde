import SecureShell.Fault
import SecureShell.Promise
import SecureShell.Sftp.Message

namespace SecureShell.Sftp

-- The course of one session with a file server: version negotiation, the requests
-- in flight, and the end. Each event may bring a promise; what an event settles is
-- returned with the next state and never kept in it.

abbrev Pending := List (UInt32 × Ticket)

namespace Pending

def find? (pending : Pending) (id : UInt32) : Option Ticket :=
  (List.find? (fun entry => entry.1 = id) pending).map Prod.snd

def has (pending : Pending) (id : UInt32) : Bool := (pending.find? id).isSome

def drop (pending : Pending) (id : UInt32) : Pending := pending.filter fun entry => entry.1 ≠ id

def tickets (pending : Pending) : List Ticket := pending.map Prod.snd

end Pending

inductive Dialogue
  | idle
  | starting (start : Ticket)
  | ready (pending : Pending)
  | closing (closers : List Ticket) (fault : Option SftpFault)
  | closed
  | failed (fault : SftpFault)
  deriving DecidableEq

-- What a promise of the dialogue is settled with.
inductive Yield
  | extensions (extensions : List Text.Pair)
  | message (message : Message)
  | done
  deriving DecidableEq

abbrev Answer := Except SftpFault Yield

namespace Dialogue

inductive Event
  | start (extensions : List Text.Pair) (promise : Ticket)
  | request (message : Message) (promise : Ticket)
  | inbound (message : Message)
  -- The frame of this request could not be handed to the channel.
  | unsent (id : UInt32)
  -- The inbound stream could not be read.
  | malformed (fault : SftpFault)
  | disconnect (promise : Ticket)
  | disconnected
  deriving DecidableEq

inductive Action
  | none
  | send (message : Message)
  | disconnect
  deriving DecidableEq

structure Step where
  next : Dialogue
  action : Action := .none
  settled : List (Settlement Answer) := []
  deriving DecidableEq

-- The state as others see it, without its promises.
inductive View
  | idle | starting | ready | closing | closed
  | failed (fault : SftpFault)
  deriving DecidableEq

def view : Dialogue → View
  | .idle => .idle
  | .starting _ => .starting
  | .ready _ => .ready
  | .closing .. => .closing
  | .closed => .closed
  | .failed fault => .failed fault

def isTerminal : Dialogue → Bool
  | .closed | .failed _ => true
  | _ => false

def inFlight : Dialogue → UInt32 → Bool
  | .ready pending, id => pending.has id
  | _, _ => false

-- The promises that are still owed an answer.
def owed : Dialogue → List Ticket
  | .starting start => [start]
  | .ready pending => pending.tickets
  | .closing closers _ => closers
  | .idle | .closed | .failed _ => []

def refuse (promise : Ticket) (fault : SftpFault) : Settlement Answer :=
  .answer promise (.error fault)

-- Every request in flight learns that the session is over.
def drain (pending : Pending) : List (Settlement Answer) :=
  Settlement.answerAll pending.tickets (.error .closed)

-- The session is broken off on this side.
def breakOff (fault : SftpFault) (settled : List (Settlement Answer)) : Step :=
  ⟨.closing [] (some fault), .disconnect, settled⟩

def greeted (start : Ticket) : Message → Step
  | .version number extensions =>
    if number = protocolVersion then
      { next := .ready [], settled := [.answer start (.ok (.extensions extensions))] }
    else breakOff (.unsupportedVersion number) [refuse start (.unsupportedVersion number)]
  | _ => breakOff (.violation .versionExpected) [refuse start (.violation .versionExpected)]

def requested (pending : Pending) (message : Message) (promise : Ticket) : Step :=
  match message.id? with
  | none => { next := .ready pending, settled := [refuse promise (.violation .notARequest)] }
  | some id =>
    if pending.has id then
      { next := .ready pending, settled := [refuse promise (.violation .repeatedId)] }
    else { next := .ready (pending ++ [(id, promise)]), action := .send message }

def responded (pending : Pending) (message : Message) : Step :=
  match message.id?.bind fun id => (pending.find? id).map fun promise => (id, promise) with
  | some (id, promise) =>
    { next := .ready (pending.drop id), settled := [.answer promise (.ok (.message message))] }
  | none => breakOff (.violation .unmatchedResponse) (drain pending)

def unsent (pending : Pending) (id : UInt32) : Step :=
  { next := .ready (pending.drop id)
    settled := (pending.find? id).toList.map fun promise => refuse promise .closed }

def advance (dialogue : Dialogue) (event : Event) : Step :=
  match dialogue, event with
  | .idle, .start extensions promise =>
    { next := .starting promise, action := .send (.init protocolVersion extensions) }
  | dialogue, .start _ promise =>
    { next := dialogue, settled := [refuse promise (.violation .alreadyStarted)] }
  | .starting start, .inbound message => greeted start message
  | .ready pending, .request message promise => requested pending message promise
  | dialogue, .request _ promise => { next := dialogue, settled := [refuse promise .closed] }
  | .ready pending, .inbound message => responded pending message
  | .ready pending, .unsent id => unsent pending id
  | .starting start, .malformed fault => breakOff fault [refuse start fault]
  | .ready pending, .malformed fault => breakOff fault (drain pending)
  | .idle, .disconnect promise => ⟨.closing [promise] none, .disconnect, []⟩
  | .starting start, .disconnect promise =>
    ⟨.closing [promise] none, .disconnect, [refuse start .closed]⟩
  | .ready pending, .disconnect promise => ⟨.closing [promise] none, .disconnect, drain pending⟩
  | .closing closers fault, .disconnect promise => { next := .closing (closers ++ [promise]) fault }
  | .closed, .disconnect promise => { next := .closed, settled := [.answer promise (.ok .done)] }
  | .failed fault, .disconnect promise =>
    { next := .failed fault, settled := [.answer promise (.ok .done)] }
  | .closing closers fault, .disconnected =>
    { next := match fault with
        | some fault => .failed fault
        | none => .closed
      settled := Settlement.answerAll closers (.ok .done) }
  | .idle, .disconnected => { next := .failed .closed }
  | .starting start, .disconnected => { next := .failed .closed, settled := [refuse start .closed] }
  | .ready pending, .disconnected => { next := .failed .closed, settled := drain pending }
  | dialogue, _ => { next := dialogue }

end Dialogue
end SecureShell.Sftp
