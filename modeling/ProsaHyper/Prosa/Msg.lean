import Mathlib.Data.List.Basic

/-!
# The messages of the internal bus

The message types of `prosa::core::msg` and `prosa::core::service` as this crate uses them. The
payload type is `M`. A request carries the address its answer goes to: for a request built by
`waitInternResp` the number of the call that holds the receiver of the one-shot channel, for one
built by a processor the address of its service queue.

`returnToSender` and `returnErrorToSender` take the request by value and build the one message that
is sent to its address. An error sent without data gives back the data the request still has.
-/

set_option autoImplicit false

namespace Prosa

/-- `prosa::core::service::ServiceError`. -/
inductive ServiceError
  | noError (desc : String)
  | unableToReachService (service : String)
  | timeout (service : String) (ms : Nat)
  | protocolError (desc : String)
  deriving DecidableEq, Repr

structure RequestMsg (M : Type) where
  id : Nat
  service : String
  data : Option M
  responseQueue : Nat
  deriving DecidableEq, Repr

structure ResponseMsg (M : Type) where
  id : Nat
  data : Option M
  deriving DecidableEq, Repr

structure ErrorMsg (M : Type) where
  id : Nat
  data : Option M
  err : ServiceError
  deriving DecidableEq, Repr

/-- The service table: a line for each queue that offers a service. -/
abbrev ServiceTable := List (String × Nat)

/-- The queues that offer `name`; `get_proc_service` answers one of them. -/
def ServiceTable.queuesOf (table : ServiceTable) (name : String) : List Nat :=
  (table.filter (·.1 == name)).map (·.2)

/-- `sel` is a possible answer of `get_proc_service`: the load balancing is left open. -/
def ServiceTable.getProcService (table : ServiceTable) (name : String) : Option Nat → Bool
  | none => (table.queuesOf name).isEmpty
  | some q => (table.queuesOf name).contains q

inductive InternalMsg (M : Type)
  | request (msg : RequestMsg M)
  | response (msg : ResponseMsg M)
  | error (msg : ErrorMsg M)
  | command
  | config
  | service (table : ServiceTable)
  | shutdown
  deriving DecidableEq, Repr

variable {M : Type}

namespace RequestMsg

/-- `RequestMsg::new`, with the identifier drawn for it. -/
def new (id : Nat) (service : String) (data : M) (responseQueue : Nat) : RequestMsg M :=
  ⟨id, service, some data, responseQueue⟩

/-- `take_data`: the data, and the message left without it. -/
def takeData (msg : RequestMsg M) : Option M × RequestMsg M := (msg.data, { msg with data := none })

/-- The message `return_to_sender` sends to the response queue. -/
def returnToSender (msg : RequestMsg M) (data : M) : InternalMsg M := .response ⟨msg.id, some data⟩

/-- The message `return_error_to_sender` sends to the response queue: with `data`, or else with the
data that was not taken from the request. -/
def returnErrorToSender (msg : RequestMsg M) (data : Option M) (err : ServiceError) :
    InternalMsg M :=
  .error ⟨msg.id, data.or msg.data, err⟩

@[simp] theorem takeData_fst (msg : RequestMsg M) : msg.takeData.1 = msg.data := rfl
@[simp] theorem takeData_id (msg : RequestMsg M) : msg.takeData.2.id = msg.id := rfl
@[simp] theorem takeData_service (msg : RequestMsg M) : msg.takeData.2.service = msg.service := rfl
@[simp] theorem takeData_data (msg : RequestMsg M) : msg.takeData.2.data = none := rfl
@[simp] theorem takeData_responseQueue (msg : RequestMsg M) :
    msg.takeData.2.responseQueue = msg.responseQueue := rfl

/-- An error to a message without data has the data it is sent with. -/
theorem returnErrorToSender_taken (msg : RequestMsg M) (data : Option M) (err : ServiceError) :
    msg.takeData.2.returnErrorToSender data err = .error ⟨msg.id, data, err⟩ := by
  simp [returnErrorToSender]

/-- Two messages that differ in their data only. -/
theorem takeData_eq {msg msg' : RequestMsg M} (h : msg.takeData.2 = msg'.takeData.2) :
    msg.id = msg'.id ∧ msg.service = msg'.service ∧ msg.responseQueue = msg'.responseQueue := by
  simpa [takeData] using h

section
variable {msg msg' : RequestMsg M} (hid : msg.id = msg'.id)
include hid

/-- A response depends on the message by its id only. -/
theorem returnToSender_congr (data : M) : msg.returnToSender data = msg'.returnToSender data := by
  simp only [returnToSender, hid]

/-- An error depends on the data that is left too. -/
theorem returnErrorToSender_congr (hd : msg.data = msg'.data) (data : Option M)
    (err : ServiceError) :
    msg.returnErrorToSender data err = msg'.returnErrorToSender data err := by
  simp only [returnErrorToSender, hid, hd]

end

end RequestMsg

/-- The request in a message, if it is one. -/
@[simp] def InternalMsg.request? : InternalMsg M → Option (RequestMsg M)
  | .request msg => some msg
  | _ => none

/-- The id of the request a message answers, if it is an answer. -/
@[simp] def InternalMsg.answers? : InternalMsg M → Option Nat
  | .response msg => some msg.id
  | .error msg => some msg.id
  | _ => none

end Prosa
