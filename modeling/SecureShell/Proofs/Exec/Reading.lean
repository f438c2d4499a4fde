import SecureShell.Exec.Stream

namespace SecureShell.Exec

namespace Stream

-- A stream as its reader finds it: while the source goes on, or after it has gone.
def running (queue : List Output) : Stream := { queue }

def closing (queue : List Output) (verdict : Verdict) : Stream :=
  { queue, sourceGone := true, verdict := some verdict }

variable {stream after : Stream} {item : Except ConnectionFault Output}

theorem takeAll_item (polled : stream.poll = (.item item, after)) :
    stream.takeAll = (item :: after.takeAll.1, after.takeAll.2.1, after.takeAll.2.2) := by
  rw [takeAll]
  split <;> rename_i got <;> rw [polled] at got <;> cases got
  rfl

theorem takeAll_pending (polled : stream.poll = (.pending, after)) :
    stream.takeAll = ([], false, after) := by
  rw [takeAll]
  split <;> rename_i got <;> rw [polled] at got <;> cases got
  rfl

theorem takeAll_ended (polled : stream.poll = (.ended, after)) :
    stream.takeAll = ([], true, after) := by
  rw [takeAll]
  split <;> rename_i got <;> rw [polled] at got <;> cases got
  rfl

theorem takeAll_running (queue : List Output) :
    (running queue).takeAll = (queue.map .ok, false, running []) := by
  induction queue with
  | nil => exact takeAll_pending rfl
  | cons output queue ih =>
    have polled : (running (output :: queue)).poll = (.item (.ok output), running queue) := rfl
    rw [takeAll_item polled, ih]
    rfl

theorem takeAll_closing (queue : List Output) (verdict : Verdict) :
    (closing queue verdict).takeAll =
      (queue.map .ok ++ (match verdict with
        | .ok () => []
        | .error fault => [.error fault]), true, { closing [] verdict with finished := true }) := by
  induction queue with
  | nil =>
    cases verdict with
    | ok _ => exact takeAll_ended rfl
    | error fault =>
      have polled : (closing [] (.error fault)).poll =
          (.item (.error fault), { closing [] (.error fault) with finished := true }) := rfl
      have done : { closing [] (.error fault) with finished := true }.poll =
          (.ended, { closing [] (.error fault) with finished := true }) := rfl
      rw [takeAll_item polled, takeAll_ended done]
      rfl
  | cons output queue ih =>
    have polled : (closing (output :: queue) verdict).poll =
        (.item (.ok output), closing queue verdict) := rfl
    rw [takeAll_item polled, ih]
    rfl

end Stream

namespace Capture

theorem pushAll_outputs (capture : Capture) (queue : List Output)
    (more : List (Except ConnectionFault Output)) :
    capture.pushAll (queue.map .ok ++ more) = (queue.foldl push capture).pushAll more := by
  induction queue generalizing capture with
  | nil => rfl
  | cons output queue ih => exact ih (capture.push output)

theorem collect_running (capture : Capture) (queue : List Output) :
    capture.collect (.running queue) = (none, queue.foldl push capture, .running []) := by
  have pushed := pushAll_outputs capture queue []
  rw [List.append_nil] at pushed
  simp only [collect, Stream.takeAll_running, pushed]
  rfl

theorem collect_clean (capture : Capture) (queue : List Output) :
    capture.collect (.closing queue (.ok ())) =
      (some (.ok (queue.foldl push capture)), queue.foldl push capture,
        { Stream.closing [] (.ok ()) with finished := true }) := by
  simp only [collect, Stream.takeAll_closing, pushAll_outputs]
  rfl

theorem collect_failed (capture : Capture) (queue : List Output) (fault : ConnectionFault) :
    capture.collect (.closing queue (.error fault)) =
      (some (.error fault), capture, { Stream.closing [] (.error fault) with finished := true }) := by
  simp only [collect, Stream.takeAll_closing, pushAll_outputs]
  rfl

end Capture
end SecureShell.Exec
