import SecureShell.Exec.Execution

namespace SecureShell.Exec

-- What a reader of a command has before it: outputs still to be taken, then the end.
-- The end counts only once the source has gone, so it never overtakes an output.
structure Stream where
  queue : List Output := []
  sourceGone : Bool := false
  verdict : Option Verdict := none
  finished : Bool := false
  cancelled : Bool := false
  deriving DecidableEq

namespace Stream

inductive Polled
  | item (item : Except ConnectionFault Output)
  | pending
  | ended
  deriving DecidableEq

-- A source that went without a verdict failed in an unknown way. A failure after a
-- cancellation is the cancellation.
def poll (stream : Stream) : Polled × Stream :=
  if stream.finished then (.ended, stream)
  else match stream.queue with
  | output :: queue => (.item (.ok output), { stream with queue })
  | [] =>
    if !stream.sourceGone then (.pending, stream)
    else match stream.verdict.getD (.error .unknown) with
    | .ok () => (.ended, { stream with finished := true })
    | .error fault =>
      (.item (.error (if stream.cancelled then .cancelled else fault)), { stream with finished := true })

-- Whether the channel is to be closed. After the end there is nothing to cancel.
def cancel (stream : Stream) : Bool × Stream :=
  if stream.finished then (false, stream) else (true, { stream with cancelled := true })

def asksOnDrop (stream : Stream) : Bool := !stream.finished

def abandon (stream : Stream) : Stream := { stream with finished := true }

def remaining (stream : Stream) : Nat :=
  stream.queue.length + if stream.finished then 0 else 1

theorem poll_item_shortens {stream after : Stream} (polled : stream.poll = (.item item, after)) :
    after.remaining < stream.remaining := by
  obtain ⟨queue, sourceGone, verdict, finished, cancelled⟩ := stream
  unfold poll at polled
  repeat' split at polled
  all_goals cases polled
  all_goals simp_all [remaining]

-- All that is there by now, and whether the stream has ended.
def takeAll (stream : Stream) : List (Except ConnectionFault Output) × Bool × Stream :=
  match polled : stream.poll with
  | (.pending, stream) => ([], false, stream)
  | (.ended, stream) => ([], true, stream)
  | (.item item, after) =>
    have := poll_item_shortens polled
    let (items, ended, last) := after.takeAll
    (item :: items, ended, last)
termination_by stream.remaining

end Stream

-- Everything a command has said.
structure Capture where
  command : String
  standard : Octets := []
  error : Octets := []
  status : Option UInt32 := none
  deriving DecidableEq

namespace Capture

def push (capture : Capture) : Output → Capture
  | .standard data => { capture with standard := capture.standard ++ data }
  | .error data => { capture with error := capture.error ++ data }
  | .status status => { capture with status := some status }

-- Outputs up to the first failure.
def pushAll (capture : Capture) : List (Except ConnectionFault Output) → Except ConnectionFault Capture
  | [] => .ok capture
  | .ok output :: items => (capture.push output).pushAll items
  | .error fault :: _ => .error fault

-- Reads on: the finished capture or its failure, or nothing while more may come.
def collect (capture : Capture) (stream : Stream) :
    Option (Except ConnectionFault Capture) × Capture × Stream :=
  match stream.takeAll with
  | (items, ended, stream) =>
    match capture.pushAll items with
    | .error fault => (some (.error fault), capture, stream)
    | .ok capture => (if ended then some (.ok capture) else none, capture, stream)

end Capture
end SecureShell.Exec
