import SecureShell.Fault

namespace SecureShell.Launch

-- Starting a session: a channel is asked for, the session is attached to it, and
-- the session says whether it came up. All of that has to happen before a deadline.
-- The request for a channel outlives the deadline, so a channel may come late.
inductive Stage
  | opening
  | starting
  | over
  deriving DecidableEq

structure Start where
  stage : Stage := .opening
  -- Whether the request for a channel has been answered.
  answered : Bool := false
  deriving DecidableEq

abbrev Verdict := Except ConnectionFault Unit

namespace Start

inductive Event
  | opened
  | refused (fault : TransportFault)
  | reported (verdict : Verdict)
  -- The session went away without a word.
  | withdrawn
  | deadline
  deriving DecidableEq

inductive Effect
  | attach
  | close
  | settle (verdict : Verdict)
  deriving DecidableEq

-- A start that fails after the channel was opened closes it.
def fail (start : Start) (fault : ConnectionFault) : Start × List Effect :=
  ({ start with stage := .over },
   (if start.stage = .starting then [.close] else []) ++ [.settle (.error fault)])

def advance (start : Start) (event : Event) : Start × List Effect :=
  match start.stage, event with
  | .opening, .opened => (⟨.starting, true⟩, [.attach])
  | .opening, .refused fault => { start with answered := true }.fail (.transport fault)
  | .opening, .deadline | .starting, .deadline => start.fail .timeout
  | .starting, .reported (.ok ()) => ({ start with stage := .over }, [.settle (.ok ())])
  | .starting, .reported (.error fault) => start.fail fault
  | .starting, .withdrawn => start.fail .unknown
  | .over, .opened => ({ start with answered := true }, if start.answered then [] else [.close])
  | .over, .refused _ => ({ start with answered := true }, [])
  | _, _ => (start, [])

end Start
end SecureShell.Launch
