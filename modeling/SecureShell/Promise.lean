namespace SecureShell

-- A promise is known by the ticket its owner waits with.
abbrev Ticket := Nat

-- What became of a promise: an answer, or nothing because it was thrown away.
inductive Fate (α : Type)
  | answered (value : α)
  | discarded
  deriving DecidableEq

structure Settlement (α : Type) where
  promise : Ticket
  fate : Fate α
  deriving DecidableEq

namespace Settlement

def answer (promise : Ticket) (value : α) : Settlement α := ⟨promise, .answered value⟩

def discard (promise : Ticket) : Settlement α := ⟨promise, .discarded⟩

-- One answer for many.
def answerAll (promises : List Ticket) (value : α) : List (Settlement α) :=
  promises.map (answer · value)

end Settlement
end SecureShell
