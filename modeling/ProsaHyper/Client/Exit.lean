import ProsaHyper.Client.Socket

/-!
# How a socket task ends

`close_socket!` and the end of the task. `leave` is every way the task stops existing: the message
in hand goes out of scope, the receiver of the queue is dropped with what is queued, and so is the
IO object unless a task of the executor owns it.
-/

set_option autoImplicit false

namespace Client

open Prosa Http

variable {M Req : Type}

/-- The effects of dropping what the task owns. -/
def Sock.drops (s : Sock M) : List (Out M Req) :=
  s.pc.hand.toList.map .dropped ++ (s.rxQueue.buf.filterMap InternalMsg.request?).map .discarded

/-- The task stops existing, with `pc` saying how. -/
def Sock.leave (s : Sock M) (pc : Pc M) : Sock M × List (Out M Req) :=
  ({ s with pc, rxQueue := s.rxQueue.dropRx, io := if s.ioSpawned then s.io else none }, s.drops)

/-- `close_socket!` is entered, with `msg` still a local of the loop. -/
def Sock.closeSocket (s : Sock M) (msg : Option (RequestMsg M)) : Sock M :=
  { s with pc := .removeProcQueue msg }

/-- `close_socket!`: `remove_proc_queue(socket_id).await?`. -/
def Sock.onProcQueueRemoved (s : Sock M) (ok : Bool) : Option (Sock M × List (Out M Req)) :=
  match s.pc with
  | .removeProcQueue msg =>
    if ok then some ({ s with pc := .drain msg }, [.bus (.removeProcQueue s.socketId)])
    else some (s.leave (.ended (.error (.internalBus ⟨.removeProcQueue s.socketId⟩))))
  | _ => none

/-- `close_socket!`: one round of `while let Ok(msg) = rx_queue.try_recv()`. -/
def Sock.onTryRecv (s : Sock M) : Option (Sock M × List (Out M Req)) :=
  match s.pc with
  | .drain msg =>
    match s.rxQueue.recv with
    | some (.request reqMsg, q) =>
      some ({ s with rxQueue := q }, [.drained reqMsg, .replied .drain reqMsg
        (reqMsg.returnErrorToSender none (.unableToReachService s.serviceName))])
    | some (_, q) => some ({ s with rxQueue := q }, [])
    | none => some ({ s with pc := .drained msg }, [])
  | _ => none

/-- `close_socket!`: `return Ok(self)`. -/
def Sock.onReturned (s : Sock M) : Option (Sock M × List (Out M Req)) :=
  match s.pc with
  | .drained _ => some (s.leave (.ended (.ok s.self)))
  | _ => none

/-- The task is aborted at its await. -/
def Sock.onAborted (s : Sock M) : Option (Sock M × List (Out M Req)) :=
  if s.pc.isAwait then some (s.leave .aborted) else none

end Client
