import ProsaHyper.Client.Step

/-!
# The client processor

`HyperClientProc::internal_run` (`client/proc.rs`) and the tasks of its `JoinSet`. A task stays in
`clientSockets` after it was joined, so that its index names it for good. When `internal_run` ends
the set is dropped: the tasks still in it are aborted at their next await.

The bus operations of the processor and of its sockets are applied in the order they are sent.
-/

set_option autoImplicit false

namespace Client

open Prosa Http

variable {M Req : Type}

structure HyperClientSettings where
  serviceName : String
  backends : List TargetSetting
  minSocket : Nat
  maxSocket : Nat
  httpTimeout : Nat
  deriving DecidableEq, Repr

namespace HyperClientSettings

def defaultMinSocket : Nat := 1
def defaultMaxSocket : Nat := 20
def defaultHttpTimeout : Nat := 5000

/-- `HyperClientSettings::default`. -/
def default : HyperClientSettings :=
  ⟨"hyper", [], defaultMinSocket, defaultMaxSocket, defaultHttpTimeout⟩

def new (serviceName : String) : HyperClientSettings := { default with serviceName }

def addBackend (s : HyperClientSettings) (target : TargetSetting) : HyperClientSettings :=
  { s with backends := s.backends ++ [target] }

end HyperClientSettings

/-- A socket task, the index of the backend it connects to, whether `join_next` returned it, and
whether it is aborted. -/
structure SockTask (M : Type) where
  backend : Nat
  sock : Sock M
  joined : Bool
  aborting : Bool

/-- Where `internal_run` is. `returning`: it returns, but its locals still exist. -/
inductive RunPc (M : Type)
  | start
  | select
  | removeProc
  | returning (r : Except (ProcError M) Unit)
  | ended (r : Except (ProcError M) Unit)
  | panicked

structure HyperClientProc (M : Type) where
  settings : HyperClientSettings
  service : ServiceTable
  internalRxQueue : Chan (InternalMsg M)
  pc : RunPc M
  clientSockets : List (SockTask M)
  bus : Bus

/-- What can happen to the processor: the bus sends to its main queue or drops the senders of it,
`internal_run` is resumed, or something happens to socket task `i`. -/
inductive ProcEv (M Req : Type)
  | internal (m : InternalMsg M)
  | dropSenders
  | started (r : Except (ProcError M) Unit)
  | recv
  | recvClosed
  | join (i : Nat)
  | joinError (i : Nat) (e : String)
  | procRemoved (ok : Bool)
  | returned
  | sock (i : Nat) (e : Ev M Req)

inductive ProcOut (M Req : Type)
  | sock (i : Nat) (o : Out M Req)
  | bus (op : BusOp)
  | terminate
  | sockets (count : Nat)

namespace HyperClientProc

def new (settings : HyperClientSettings) : HyperClientProc M where
  settings := settings
  service := []
  internalRxQueue := Chan.new 2048 true
  pc := .start
  clientSockets := []
  bus := Bus.empty

/-- `HyperClientSocket::spawn` into the set. -/
def spawn (s : HyperClientProc M) (backend : Nat) (socket : HyperClientSocket) : SockTask M :=
  ⟨backend, Sock.new socket s.settings.serviceName, false, false⟩

/-- `client_sockets.len()`. -/
def len (tasks : List (SockTask M)) : Nat := tasks.countP (!·.joined)

/-- The sockets created at the start: `min_socket` for each backend. -/
def create (s : HyperClientProc M) (urlIsSsl : Url → Bool) : List (SockTask M) :=
  s.settings.backends.zipIdx.flatMap fun b => List.replicate s.settings.minSocket
    (s.spawn b.2 (HyperClientSocket.new urlIsSsl b.1 s.settings.httpTimeout))

/-- The `JoinSet` is dropped. -/
def dropSet (s : HyperClientProc M) : HyperClientProc M :=
  { s with clientSockets := s.clientSockets.map fun t => { t with aborting := !t.joined } }

/-- `A::new` and `add_proc`, then the sockets are created. -/
def onStarted (s : HyperClientProc M) (urlIsSsl : Url → Bool) (r : Except (ProcError M) Unit) :
    Option (HyperClientProc M × List (ProcOut M Req)) :=
  match s.pc with
  | .start =>
    match r with
    | .error e => some ({ s with pc := .returning (.error e) }, [])
    | .ok _ =>
      if s.settings.backends.isEmpty then
        some ({ s with
          pc := .returning
            (.error (.hyper (.other "No backend configured for the Hyper client processor")))
          bus := s.bus.apply 0 .addProc }, [.bus .addProc])
      else
        let tasks := s.clientSockets ++ s.create urlIsSsl
        some ({ s with pc := .select, clientSockets := tasks, bus := s.bus.apply 0 .addProc },
          [.bus .addProc, .sockets (len tasks)])
  | _ => none

/-- The branch `Some(msg) = self.internal_rx_queue.recv()`. -/
def onRecv (s : HyperClientProc M) : Option (HyperClientProc M × List (ProcOut M Req)) :=
  match s.pc with
  | .select =>
    match s.internalRxQueue.recv with
    | none => none
    | some (msg, q) =>
      let s := { s with internalRxQueue := q }
      match msg with
      | .request _ | .response _ | .error _ | .command | .config =>
        some (({ s with pc := .panicked } : HyperClientProc M).dropSet, [])
      | .service table => some ({ s with service := table }, [])
      | .shutdown => some ({ s with pc := .removeProc }, [.terminate])
  | _ => none

/-- `recv()` answers `None`, which disables its branch; with no task in the set the other branch is
disabled too, and the `select!` panics. -/
def onRecvClosed (s : HyperClientProc M) : Option (HyperClientProc M × List (ProcOut M Req)) :=
  match s.pc with
  | .select =>
    if s.internalRxQueue.tx || !s.internalRxQueue.buf.isEmpty then none
    else if len s.clientSockets == 0 then
      some (({ s with pc := .panicked } : HyperClientProc M).dropSet, [])
    else some (s, [])
  | _ => none

/-- The branch `Some(socket) = client_sockets.join_next()`: task `i` has returned. -/
def onJoin (s : HyperClientProc M) (i : Nat) : Option (HyperClientProc M × List (ProcOut M Req)) :=
  match s.pc, s.clientSockets[i]? with
  | .select, some t =>
    if t.joined then none
    else
      let tasks := s.clientSockets.set i { t with joined := true }
      match t.sock.pc with
      | .ended (.ok socket) =>
        let tasks := tasks ++ [s.spawn t.backend socket]
        some ({ s with clientSockets := tasks }, [.sockets (len tasks)])
      | .ended (.error _) => some ({ s with clientSockets := tasks }, [.sockets (len tasks)])
      | _ => none
  | _, _ => none

/-- The same branch: task `i` panicked or was aborted, and `join_next` answers the `JoinError` that
reads `e`. -/
def onJoinError (s : HyperClientProc M) (i : Nat) (e : String) :
    Option (HyperClientProc M × List (ProcOut M Req)) :=
  match s.pc, s.clientSockets[i]? with
  | .select, some t =>
    if t.joined then none
    else
      match t.sock.pc with
      | .panicked | .aborted =>
        some ({ s with
          pc := .returning
            (.error (.hyper (.other s!"Hyper client socket task join error: {e}")))
          clientSockets := s.clientSockets.set i { t with joined := true } }, [])
      | _ => none
  | _, _ => none

/-- `self.proc.remove_proc(None).await?`. -/
def onProcRemoved (s : HyperClientProc M) (ok : Bool) :
    Option (HyperClientProc M × List (ProcOut M Req)) :=
  match s.pc with
  | .removeProc =>
    if ok then
      some ({ s with pc := .returning (.ok ()), bus := s.bus.apply 0 .removeProc },
        [.bus .removeProc])
    else some ({ s with pc := .returning (.error (.bus ⟨.removeProc⟩)) }, [])
  | _ => none

/-- `internal_run` has returned. -/
def onReturned (s : HyperClientProc M) : Option (HyperClientProc M × List (ProcOut M Req)) :=
  match s.pc with
  | .returning r => some (({ s with pc := .ended r } : HyperClientProc M).dropSet, [])
  | _ => none

/-- Whether `e` can happen to the task: only an aborted one is stopped at an await, and it is not
resumed there. -/
def admits (t : SockTask M) : Ev M Req → Bool
  | .aborted => t.aborting
  | .send _ | .dropSenders | .frame | .ioDropped | .task _ _ => true
  | _ => !(t.aborting && t.sock.pc.isAwait)

/-- No queue of the processor has seen the request that `e` sends. -/
def fresh (s : HyperClientProc M) : Ev M Req → Bool
  | .send m => m.request?.all fun r => s.clientSockets.all fun t => !t.sock.used.contains r.id
  | _ => true

/-- Something happens to socket task `i`. -/
def onSock (s : HyperClientProc M) (i : Nat) (e : Ev M Req) :
    Option (HyperClientProc M × List (ProcOut M Req)) :=
  match s.clientSockets[i]? with
  | none => none
  | some t =>
    if admits t e && s.fresh e then
      (t.sock.step e).map fun q =>
        ({ s with
            clientSockets := s.clientSockets.set i { t with sock := q.1 }
            bus := regs i s.bus q.2 },
          q.2.map (.sock i))
    else none

/-- One step of the processor and its sockets. -/
def step (urlIsSsl : Url → Bool) (s : HyperClientProc M) :
    ProcEv M Req → Option (HyperClientProc M × List (ProcOut M Req))
  | .internal m =>
    if s.internalRxQueue.tx then
      (s.internalRxQueue.send m).map fun q => ({ s with internalRxQueue := q }, [])
    else none
  | .dropSenders => some ({ s with internalRxQueue := s.internalRxQueue.setTx false }, [])
  | .started r => s.onStarted urlIsSsl r
  | .recv => s.onRecv
  | .recvClosed => s.onRecvClosed
  | .join i => s.onJoin i
  | .joinError i e => s.onJoinError i e
  | .procRemoved ok => s.onProcRemoved ok
  | .returned => s.onReturned
  | .sock i e => s.onSock i e

end HyperClientProc

/-- The client processor for any settings. -/
def clientMachine (M Req : Type) (urlIsSsl : Url → Bool) :
    Machine (HyperClientProc M) (ProcEv M Req) (ProcOut M Req) where
  init s := ∃ settings, s = HyperClientProc.new settings
  step := HyperClientProc.step urlIsSsl

end Client
