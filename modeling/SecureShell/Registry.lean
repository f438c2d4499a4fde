namespace SecureShell

-- Observers sit in numbered slots. A slot that was freed is taken again, the last
-- freed first, and a new one is added when none is free. A token also carries the
-- serial of its registration, so an old token never reaches a later tenant.
structure Registry (α : Type) where
  slots : List (Option (Nat × α)) := []
  free : List Nat := []
  -- A 64-bit counter in practice. It takes one registration for each step, so at a billion of them a
  -- second it runs for more than five hundred years before a serial would come again.
  issued : Nat := 0
  deriving DecidableEq

namespace Registry

structure Token where
  slot : Nat
  serial : Nat
  deriving DecidableEq

def add (registry : Registry α) (observer : α) : Token × Registry α :=
  let serial := registry.issued + 1
  match registry.free with
  | slot :: free =>
    (⟨slot, serial⟩, ⟨registry.slots.set slot (some (serial, observer)), free, serial⟩)
  | [] =>
    (⟨registry.slots.length, serial⟩, ⟨registry.slots ++ [some (serial, observer)], [], serial⟩)

def tenant (registry : Registry α) (slot : Nat) : Option (Nat × α) := (registry.slots[slot]?).join

def remove (registry : Registry α) (token : Token) : Bool × Registry α :=
  match registry.tenant token.slot with
  | some (serial, _) =>
    if serial = token.serial then
      (true, { registry with
        slots := registry.slots.set token.slot none
        free := token.slot :: registry.free })
    else (false, registry)
  | none => (false, registry)

-- Those to be told of a change, in slot order.
def observers (registry : Registry α) : List α :=
  registry.slots.filterMap fun slot => slot.map Prod.snd

end Registry
end SecureShell
