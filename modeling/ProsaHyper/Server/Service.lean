import ProsaHyper.Server.Adaptor
import ProsaHyper.Prosa.Bus

/-!
# The calls of the HTTP service

`HyperService` (`server/service.rs`): hyper starts a `process_call` for each HTTP request. A call is
at one of the await points of `process_call` and `wait_intern_resp`; the one-shot channel it waits
on is kept beside it, because its sender travels with the message.
-/

set_option autoImplicit false

namespace Server

open Prosa Http

variable {M : Type}

/-- Where a call is. `cancelled`: hyper dropped its future. -/
inductive CallPc (M : Type)
  | requesting
  | sending (msg : RequestMsg M) (handler : SrvRespHandler M)
  | waiting (handler : SrvRespHandler M)
  | done (res : Except HttpError Response)
  | cancelled

/-- A call and the connection it came on. -/
structure Call (M : Type) where
  conn : Nat
  pc : CallPc M

/-- The call has a future hyper polls. -/
def CallPc.isLive : CallPc M → Bool
  | .requesting | .sending _ _ | .waiting _ => true
  | .done _ | .cancelled => false

/-- The message of a send that has not gone through. -/
def CallPc.msg? : CallPc M → Option (RequestMsg M)
  | .sending msg _ => some msg
  | _ => none

/-- The sender of a one-shot channel: not created yet, waiting to be used, used, or dropped. -/
inductive Oneshot (M : Type)
  | unborn
  | open
  | sent (m : InternalMsg M)
  | closed

/-- What `resp_rx.await` answers, once it does: `none` when the sender was dropped. -/
def Oneshot.recv : Oneshot M → Option (Option (InternalMsg M))
  | .sent m => some (some m)
  | .closed => some none
  | .unborn | .open => none

/-- `wait_intern_resp`, once `resp_rx.await` answered. -/
def waitInternResp (adaptor : HyperServerAdaptor) (handler : SrvRespHandler M) :
    Option (InternalMsg M) → Except HttpError Response
  | some (.response msg) =>
    match msg.data with
    | some data => handler (.ok data)
    | none => (adaptor.responseBuilder 500).body []
  | some (.error err) => handler (.error err)
  | some _ => (adaptor.responseBuilder 500).body []
  | none => (adaptor.responseBuilder 503).body ["Can't handle your request for now"]

/-- The places of the processor that answer a call. -/
inductive Site
  | response
  | responseErr
  | timeout
  | unable
  deriving DecidableEq, Repr

/-- The effects of a step. The first four follow the message a call sends to the processor: `opened`
when it is built with the sender, `dispatched` when the request made of it is on a service queue,
`replied` when the sender is used and `dropped` when it is dropped. -/
inductive Out (M : Type)
  | opened (msg : RequestMsg M)
  | dispatched (msg request : RequestMsg M) (queue : Nat)
  | replied (site : Site) (msg : RequestMsg M) (answer : InternalMsg M)
  | dropped (msg : RequestMsg M)
  | took (m : InternalMsg M)
  | completed (call : Nat) (res : Except HttpError Response)
  | count (code : Nat) (version : Option String)
  | socket (delta : Int) (version : String)
  | terminate
  | bus (op : BusOp)

/-- `process_call` counts the responses it returns. -/
def countRes (res : Except HttpError Response) : List (Out M) :=
  match res with
  | .ok r => [.count r.status (some (hyperVersionStr r.version))]
  | .error _ => []

end Server
