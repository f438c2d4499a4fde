import SecureShell.Channel
import SecureShell.Sftp.Dialogue
import SecureShell.Sftp.Framing
import SecureShell.Sftp.Identifiers

namespace SecureShell.Sftp

-- The service behind a client: it asks for the subsystem on a fresh channel, greets
-- the server, then serves the calls of its users until the dialogue is over.

inductive Standing
  | requesting
  | greeting
  -- Whether all users have left.
  | serving (abandoned : Bool)
  | gone
  deriving DecidableEq

inductive Call
  | request (request : Request) (promise : Ticket)
  | disconnect (promise : Ticket)
  deriving DecidableEq

structure Service where
  standing : Standing := .requesting
  extensions : List Text.Pair := []
  dialogue : Dialogue := .idle
  framing : Framing := {}
  identifiers : Identifiers := {}
  mailbox : List Call := []
  deriving DecidableEq

namespace Service

-- What the service does to the world around it, in order.
inductive Effect
  | put (command : ChannelCommand)
  | settle (settlement : Settlement Answer)
  -- The server has greeted back; from now on calls are served.
  | ready (extensions : List Text.Pair)
  | unready (fault : SftpFault)
  -- The service lets go of its channel.
  | leave
  deriving DecidableEq

abbrev Outcome := Service × List Effect

-- The promise of the greeting belongs to the service itself.
def greetingTicket : Ticket := 0

-- `reachable` tells whether the engine still carries the channel.
def put (reachable : Bool) (command : ChannelCommand) : List Effect :=
  if reachable then [.put command] else []

def settleAll (settled : List (Settlement Answer)) : List Effect := settled.map .settle

-- A request that cannot be sent fails by itself; the session goes on.
def send (reachable : Bool) (dialogue : Dialogue) (message : Message) : Dialogue × List Effect :=
  if reachable then (dialogue, [.put (.data message.frame)])
  else match message.id? with
  | none => (dialogue, [])
  | some id =>
    let step := dialogue.advance (.unsent id)
    (step.next, settleAll step.settled)

def perform (reachable : Bool) (dialogue : Dialogue) : Dialogue.Action → Dialogue × List Effect
  | .none => (dialogue, [])
  | .send message => send reachable dialogue message
  | .disconnect => (dialogue, put reachable .close)

def trigger (reachable : Bool) (service : Service) (event : Dialogue.Event) : Outcome :=
  let step := service.dialogue.advance event
  let (dialogue, effects) := perform reachable step.next step.action
  ({ service with dialogue }, settleAll step.settled ++ effects)

def triggerAll (reachable : Bool) (service : Service) : List Dialogue.Event → Outcome
  | [] => (service, [])
  | event :: events =>
    let (service, effects) := service.trigger reachable event
    let (service, more) := service.triggerAll reachable events
    (service, effects ++ more)

def ofItem : Except Violation Message → Dialogue.Event
  | .ok message => .inbound message
  | .error violation => .malformed (.violation violation)

-- What the channel brings while the dialogue is on.
def hear (reachable : Bool) (service : Service) : ChannelEvent → Outcome
  | .data data =>
    let (items, framing) := (service.framing.extend data).drain
    { service with framing }.triggerAll reachable (items.map ofItem)
  | .closed => service.trigger reachable .disconnected
  | _ => (service, [])

def abort (reachable : Bool) (service : Service) (fault : SftpFault) : Outcome :=
  ({ service with standing := .gone }, put reachable .close ++ [.unready fault, .leave])

-- How the greeting ended, if it did.
def greeted? (effects : List Effect) : Option Answer :=
  effects.findSome? fun
    | .settle ⟨promise, .answered answer⟩ => if promise = greetingTicket then some answer else none
    | _ => none

def handle (reachable : Bool) (service : Service) : Call → Outcome
  | .request request promise =>
    match service.identifiers.allocate service.dialogue.inFlight with
    | (some id, identifiers) =>
      { service with identifiers }.trigger reachable (.request (.request id request) promise)
    | (none, identifiers) =>
      ({ service with identifiers },
       [.settle (Dialogue.refuse promise (.violation .idsExhausted))])
  | .disconnect promise => service.trigger reachable (.disconnect promise)

def handleAll (reachable : Bool) (service : Service) : List Call → Outcome
  | [] => (service, [])
  | call :: calls =>
    let (service, effects) := service.handle reachable call
    let (service, more) := service.handleAll reachable calls
    (service, effects ++ more)

-- Once the dialogue is over, what is still queued meets its end state.
def conclude (reachable : Bool) (outcome : Outcome) : Outcome :=
  let (service, effects) := outcome
  if service.dialogue.isTerminal then
    let (after, more) := { service with mailbox := [] }.handleAll reachable service.mailbox
    ({ after with standing := .gone }, effects ++ more ++ [.leave])
  else (service, effects)

-- The service starts by asking for its subsystem.
def begin (reachable : Bool) (extensions : List Text.Pair) : Outcome :=
  if reachable then
    ({ extensions }, [.put (.request (.subsystem "sftp" true))])
  else ({ extensions : Service }).abort reachable (.connection (.transport .channelClosed))

def hearRequesting (reachable : Bool) (service : Service) : ChannelEvent → Outcome
  | .success =>
    { service with standing := .greeting }.trigger reachable
      (.start service.extensions greetingTicket)
  | .failure => service.abort reachable (.violation .subsystemRejected)
  | .closed => service.abort reachable .closed
  | _ => (service, [])

def hearGreeting (reachable : Bool) (service : Service) (event : ChannelEvent) : Outcome :=
  let (after, effects) := service.hear reachable event
  match greeted? effects with
  | none => (after, effects)
  | some (.ok (.extensions extensions)) =>
    ({ after with standing := .serving false }, effects ++ [.ready extensions])
  | some (.ok _) => (after, effects)
  | some (.error fault) =>
    let (after, more) := after.abort reachable fault
    (after, effects ++ more)

def onEvent (reachable : Bool) (service : Service) (event : ChannelEvent) : Outcome :=
  match service.standing with
  | .requesting => service.hearRequesting reachable event
  | .greeting => service.hearGreeting reachable event
  | .serving _ => conclude reachable (service.hear reachable event)
  | .gone => (service, [])

-- A call is queued, or answered at once when nobody is there to take it.
def submit (service : Service) (call : Call) : Outcome :=
  match service.standing, call with
  | .gone, .request _ promise => (service, [.settle (Dialogue.refuse promise .closed)])
  | .gone, .disconnect promise => (service, [.settle (.answer promise (.ok .done))])
  | _, call => ({ service with mailbox := service.mailbox ++ [call] }, [])

-- Takes the next call from the queue.
def takeCall (reachable : Bool) (service : Service) : Outcome :=
  match service.standing, service.mailbox with
  | .serving _, call :: mailbox =>
    conclude reachable ({ service with mailbox }.handle reachable call)
  | _, _ => (service, [])

-- The last user has left and the queue is empty: the session is closed for them.
def abandon (reachable : Bool) (service : Service) (promise : Ticket) : Outcome :=
  match service.standing, service.mailbox with
  | .serving false, [] =>
    conclude reachable
      ({ service with standing := .serving true }.trigger reachable (.disconnect promise))
  | _, _ => (service, [])

end Service
end SecureShell.Sftp
