import SecureShell.Sftp.Procedure
import SecureShell.Sftp.Service

namespace SecureShell.Sftp

-- A client's task on a service: each request it makes is handed to the service, and
-- it waits for the reply unless the service refuses the request on the spot.

namespace Service

def ask (reachable : Bool) (service : Service) (request : Request) (promise : Ticket) : Outcome :=
  let (queued, effects) := service.submit (.request request promise)
  let (after, more) := queued.takeCall reachable
  (after, effects ++ more)

-- The fault with which a promise was answered, if it was.
def refusal? (promise : Ticket) (effects : List Effect) : Option SftpFault :=
  effects.findSome? fun
    | .settle ⟨settled, .answered (.error fault)⟩ => if settled = promise then some fault else none
    | _ => none

-- What goes to the channel, without the settlements.
def commands (effects : List Effect) : List ChannelCommand :=
  effects.filterMap fun
    | .put command => some command
    | _ => none

end Service

namespace Procedure

inductive Course
  | waiting (procedure : Procedure) (promise : Ticket)
  | staying (procedure : Procedure)
  | finished (result : Except SftpFault Result)
  deriving DecidableEq

structure Pursuit where
  service : Service
  commands : List ChannelCommand
  -- The next ticket that is free.
  next : Ticket
  course : Course
  deriving DecidableEq

def Move.weight : Move → Nat
  | .ask _ rest => rest.tail + 1
  | .finish _ | .stay _ => 0

theorem resume_error_weight (procedure : Procedure) (fault : SftpFault) :
    (procedure.resume (.error fault)).weight < procedure.tail + 1 := by
  cases moved : procedure.resume (.error fault) with
  | ask request rest => exact Nat.succ_lt_succ (resume_error_tail procedure fault moved)
  | finish result => exact Nat.succ_pos _
  | stay procedure => exact Nat.succ_pos _

-- Goes on until the task has to wait or is finished. A refused request counts as
-- answered, so a task may finish without anything being sent.
def pursue (reachable : Bool) (service : Service) (next : Ticket) (move : Move) : Pursuit :=
  match move with
  | .finish result => ⟨service, [], next, .finished result⟩
  | .stay procedure => ⟨service, [], next, .staying procedure⟩
  | .ask request rest =>
    let (service, effects) := service.ask reachable request next
    match Service.refusal? next effects with
    | none => ⟨service, Service.commands effects, next + 1, .waiting rest next⟩
    | some fault =>
      have := resume_error_weight rest fault
      let later := pursue reachable service (next + 1) (rest.resume (.error fault))
      { later with commands := Service.commands effects ++ later.commands }
termination_by move.weight

end Procedure
end SecureShell.Sftp
