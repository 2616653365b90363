import ProsaHyper.Prosa.Msg

/-!
# The registrations of a processor on the bus

What the main task keeps for one processor: its queues, each with the task that owns the receiver,
and the services they offer. Requests to the main task are applied in the order they were sent.
-/

set_option autoImplicit false

namespace Prosa

/-- The bus operations of a processor: `add_proc_queue`, `add_service`, `remove_proc_queue` of the
queue `id`, `add_proc` (its main queue) and `remove_proc`. -/
inductive BusOp
  | addProcQueue (id : Nat)
  | addService (name : String) (id : Nat)
  | removeProcQueue (id : Nat)
  | addProc
  | removeProc
  deriving DecidableEq, Repr

/-- `BusError`: which operation failed. -/
structure BusError where
  op : BusOp
  deriving DecidableEq, Repr

/-- The socket queues of a processor, by id with their owner, and the services they offer. -/
structure Bus where
  queues : List (Nat × Nat)
  services : List (String × Nat)
  deriving DecidableEq, Repr

namespace Bus

def empty : Bus := ⟨[], []⟩

/-- One operation, sent by the task `owner`. A second queue under an id replaces the first. -/
def apply (b : Bus) (owner : Nat) : BusOp → Bus
  | .addProcQueue id => { b with queues := (id, owner) :: b.queues.filter (·.1 != id) }
  | .addService name id => { b with services := (name, id) :: b.services.filter (· != (name, id)) }
  | .removeProcQueue id => ⟨b.queues.filter (·.1 != id), b.services.filter (·.2 != id)⟩
  | .addProc => b
  | .removeProc => empty

end Bus

end Prosa
