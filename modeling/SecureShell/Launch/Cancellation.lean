namespace SecureShell.Launch

-- Whether the start of a session has been called off. A call-off that comes before
-- the channel exists is kept until it does. `closer` stands for the right to close
-- that channel.
inductive Cancellation (closer : Type)
  | untouched
  | calledOff
  | launched (closer : closer)
  | closing (closer : closer)
  | ended
  deriving DecidableEq

namespace Cancellation

inductive Event (closer : Type)
  | cancel
  | launching (closer : closer)
  | ended
  | failed
  deriving DecidableEq

def isFinished : Cancellation closer → Bool
  | .ended => true
  | _ => false

-- The next state, and whom to close now.
def advance : Cancellation closer → Event closer → Cancellation closer × Option closer
  | _, .ended | _, .failed => (.ended, none)
  | .ended, _ => (.ended, none)
  | .untouched, .cancel => (.calledOff, none)
  | .untouched, .launching closer => (.launched closer, none)
  | .calledOff, .cancel => (.calledOff, none)
  | .calledOff, .launching closer => (.closing closer, some closer)
  | .launched closer, .cancel => (.closing closer, some closer)
  | .launched closer, .launching _ => (.launched closer, none)
  | .closing closer, .cancel | .closing closer, .launching _ => (.closing closer, none)

end Cancellation
end SecureShell.Launch
