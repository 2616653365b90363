import Mathlib.Logic.Function.Basic
import ProsaHyper.Lib.Chan
import ProsaHyper.Lib.Run
import ProsaHyper.Prosa.Io
import ProsaHyper.Prosa.Pending
import ProsaHyper.Server.Service

/-!
# The server processor

`HyperServerProc::internal_run` (`server/proc.rs`), the connection tasks it spawns and their calls.
The connection tasks are detached: they go on after `internal_run` ended, and so do their calls.
`leave` is every way `internal_run` ends: its locals are dropped, the receiver of the HTTP messages
with what is queued, the pending messages, and the message in hand.

The main queue and the service queues of the bus belong to others too: other tasks put messages on
them, the services take them, and a service that goes away drops its receiver while the service
table still lists it.
-/

set_option autoImplicit false

namespace Server

open Prosa Http

variable {M : Type}

structure HyperServerSettings where
  listener : ListenerSetting
  serviceTimeout : Nat
  deriving DecidableEq, Repr

namespace HyperServerSettings

def defaultServiceTimeout : Nat := 800

def new (listener : ListenerSetting) (serviceTimeout : Nat) : HyperServerSettings :=
  { listener, serviceTimeout }

end HyperServerSettings

/-- Where `internal_run` is. `sending`: at `service.proc_queue.send`, with the request made of the
HTTP message. -/
inductive RunPc (M : Type)
  | start
  | bind
  | select
  | sending (queue : Nat) (request httpMsg : RequestMsg M)
  | removeProc
  | ended (r : Except (ProcError M) Unit)
  | panicked

/-- The HTTP message the loop is handling. -/
def RunPc.hand : RunPc M → Option (RequestMsg M)
  | .sending _ _ httpMsg => some httpMsg
  | _ => none

/-- `internal_run` no longer exists. -/
def RunPc.isOver : RunPc M → Bool
  | .ended _ | .panicked => true
  | _ => false

/-- A connection task: its handshake, then `serve_connection`. -/
inductive ConnPc
  | handshaking
  | serving
  | ended
  deriving DecidableEq, Repr

structure Conn where
  pc : ConnPc
  isHttp2 : Bool
  deriving DecidableEq, Repr

/-- The label of the socket counter. -/
def Conn.version (c : Conn) : String := if c.isHttp2 then "HTTP/2" else "HTTP/1.1"

/-- The processor with its connection tasks and their calls. `nextId` is the identifier
`RequestMsg::new` draws next, wherever it is called; `queues` are the service queues of the bus;
`replies` are the one-shot channels of the calls. -/
structure HyperServerProc (M : Type) where
  settings : HyperServerSettings
  service : ServiceTable
  internalRxQueue : Chan (InternalMsg M)
  pc : RunPc M
  httpRx : Chan (RequestMsg M)
  pendingReq : PendingMsgs (RequestMsg M)
  nextId : Nat
  queues : Nat → Chan (InternalMsg M)
  conns : List Conn
  calls : List (Call M)
  replies : Nat → Oneshot M

/-- What can happen: the first six are the rest of the world, the next resume `internal_run`
(`sent`: the send on the service queue is resumed, `pull`: the timeout branch answers that entry),
the others a connection task or a call. -/
inductive Ev (M : Type)
  | internal (m : InternalMsg M)
  | queueSend (queue : Nat) (m : InternalMsg M)
  | queueRecv (queue : Nat)
  | queueClosed (queue : Nat)
  | drawn
  | elapse (id : Nat)
  | started (r : Except (ProcError M) Unit)
  | bound (r : Except String Unit)
  | recv
  | recvHttp (sel : Option Nat)
  | sent
  | accept (r : Except String Unit)
  | pull (id : Nat)
  | procRemoved (ok : Bool)
  | handshaken (conn : Nat) (r : Except String (Option String))
  | served (conn : Nat)
  | call (conn : Nat)
  | processed (call : Nat) (resp : HyperResp M)
  | callSent (call : Nat)
  | callAnswered (call : Nat)
  | callCancelled (call : Nat)

/-- The address of `get_service_queue`, the main queue of the processor. -/
def serviceQueue : Nat := 0

namespace HyperServerProc

def new (settings : HyperServerSettings) (queues : Nat → Chan (InternalMsg M)) (nextId : Nat) :
    HyperServerProc M where
  settings := settings
  service := []
  internalRxQueue := Chan.new 2048 true
  pc := .start
  httpRx := Chan.new 2048 true
  pendingReq := .empty
  nextId := nextId
  queues := queues
  conns := []
  calls := []
  replies := fun _ => .unborn

/-! ## The reply senders -/

/-- The sender in `msg` is used. -/
def reply (s : HyperServerProc M) (site : Site) (msg : RequestMsg M) (answer : InternalMsg M) :
    HyperServerProc M × List (Out M) :=
  ({ s with replies := Function.update s.replies msg.responseQueue (.sent answer) },
    [.replied site msg answer])

/-- The messages `msgs` are dropped with their senders. -/
def drop (s : HyperServerProc M) (msgs : List (RequestMsg M)) : HyperServerProc M :=
  { s with
    replies := fun c => if msgs.any (·.responseQueue == c) then .closed else s.replies c }

/-- The HTTP messages owned by `internal_run`. -/
def owned (s : HyperServerProc M) : List (RequestMsg M) :=
  s.pc.hand.toList ++ s.httpRx.buf ++ s.pendingReq.all

/-- `internal_run` ends, with `pc` saying how. -/
def leave (s : HyperServerProc M) (pc : RunPc M) : HyperServerProc M × List (Out M) :=
  ({ s.drop s.owned with pc, httpRx := s.httpRx.dropRx, pendingReq := .empty },
    s.owned.map .dropped)

/-! ## `internal_run` -/

/-- The listener settings after the default protocol is set. -/
def withAlpn (urlIsSsl : Url → Bool) (listener : ListenerSetting) : ListenerSetting :=
  if urlIsSsl listener.url then
    { listener with
      ssl := some ((listener.ssl.getD SslConfig.default).setAlpn ["h2", "http/1.1"]) }
  else listener

/-- `A::new` and `add_proc`, then the listener is set up. -/
def onStarted (s : HyperServerProc M) (urlIsSsl : Url → Bool) (r : Except (ProcError M) Unit) :
    Option (HyperServerProc M × List (Out M)) :=
  match s.pc with
  | .start =>
    match r with
    | .error e => some (s.leave (.ended (.error e)))
    | .ok _ =>
      let settings := { s.settings with listener := withAlpn urlIsSsl s.settings.listener }
      some ({ s with pc := .bind, settings }, [.bus .addProc])
  | _ => none

/-- `self.settings.listener.bind().await?`. -/
def onBound (s : HyperServerProc M) (r : Except String Unit) :
    Option (HyperServerProc M × List (Out M)) :=
  match s.pc with
  | .bind =>
    match r with
    | .error desc => some (s.leave (.ended (.error (.io desc))))
    | .ok _ => some ({ s with pc := .select }, [])
  | _ => none

/-- The branch `Some(msg) = self.internal_rx_queue.recv()`. -/
def onRecv (s : HyperServerProc M) : Option (HyperServerProc M × List (Out M)) :=
  match s.pc with
  | .select =>
    match s.internalRxQueue.recv with
    | none => none
    | some (m, q) =>
      let s := { s with internalRxQueue := q }
      match m with
      | .request _ | .command | .config =>
        let (s, os) := s.leave .panicked
        some (s, .took m :: os)
      | .response msg =>
        match s.pendingReq.pullMsg msg.id with
        | none => some (s, [.took m])
        | some (hyperMsg, p) =>
          let s := { s with pendingReq := p }
          match msg.data with
          | some data =>
            let (s, os) := s.reply .response hyperMsg (hyperMsg.returnToSender data)
            some (s, .took m :: os)
          | none => some (s.drop [hyperMsg], [.took m, .dropped hyperMsg])
      | .error errMsg =>
        match s.pendingReq.pullMsg errMsg.id with
        | none => some (s, [.took m])
        | some (hyperErrMsg, p) =>
          let (s, os) := ({ s with pendingReq := p } : HyperServerProc M).reply .responseErr
            hyperErrMsg (hyperErrMsg.returnErrorToSender errMsg.data errMsg.err)
          some (s, .took m :: os)
      | .service table => some ({ s with service := table }, [.took m])
      | .shutdown => some ({ s with pc := .removeProc }, [.took m, .terminate])
  | _ => none

/-- The branch `Some(mut http_msg) = http_rx.recv()`; `get_proc_service` answers `sel`. -/
def onRecvHttp (s : HyperServerProc M) (sel : Option Nat) :
    Option (HyperServerProc M × List (Out M)) :=
  match s.pc with
  | .select =>
    match s.httpRx.recv with
    | none => none
    | some (httpMsg, q) =>
      if s.service.getProcService httpMsg.service sel then
        let s := { s with httpRx := q }
        let (data, rest) := httpMsg.takeData
        match sel, data with
        | some queue, some data =>
          let request := RequestMsg.new s.nextId httpMsg.service data serviceQueue
          some ({ s with pc := .sending queue request rest, nextId := s.nextId + 1 }, [])
        | _, data =>
          some (s.reply .unable rest
            (rest.returnErrorToSender data (.unableToReachService httpMsg.service)))
      else none
  | _ => none

/-- `service.proc_queue.send(..).await?`, which waits while the queue is full, and
`push_with_id`. -/
def onSent (s : HyperServerProc M) : Option (HyperServerProc M × List (Out M)) :=
  match s.pc with
  | .sending queue request httpMsg =>
    if (s.queues queue).rx then
      ((s.queues queue).send (.request request)).map fun q =>
        ({ s with
            pc := .select
            queues := Function.update s.queues queue q
            pendingReq := s.pendingReq.pushWithId request.id httpMsg },
          [.dispatched httpMsg request queue])
    else some (s.leave (.ended (.error (.send (.request request)))))
  | _ => none

/-- The branch `accept_result = listener.accept_raw()`. -/
def onAccept (s : HyperServerProc M) (r : Except String Unit) :
    Option (HyperServerProc M × List (Out M)) :=
  match s.pc with
  | .select =>
    match r with
    | .error desc => some (s.leave (.ended (.error (.io desc))))
    | .ok _ => some ({ s with conns := s.conns ++ [⟨.handshaking, false⟩] }, [])
  | _ => none

/-- The branch `Some(mut msg) = pending_req.pull(), if !pending_req.is_empty()`. -/
def onPull (s : HyperServerProc M) (id : Nat) : Option (HyperServerProc M × List (Out M)) :=
  match s.pc with
  | .select =>
    if s.pendingReq.isEmpty then none
    else
      match s.pendingReq.pull id with
      | none => none
      | some (msg, p) =>
        let (data, msg) := msg.takeData
        some (({ s with pendingReq := p } : HyperServerProc M).reply .timeout msg
          (msg.returnErrorToSender data (.timeout msg.service s.settings.serviceTimeout)))
  | _ => none

/-- `self.proc.remove_proc(None).await?`. -/
def onProcRemoved (s : HyperServerProc M) (ok : Bool) :
    Option (HyperServerProc M × List (Out M)) :=
  match s.pc with
  | .removeProc =>
    if ok then
      let (s, os) := s.leave (.ended (.ok ()))
      some (s, .bus .removeProc :: os)
    else some (s.leave (.ended (.error (.bus ⟨.removeProc⟩))))
  | _ => none

/-! ## Connection tasks and calls -/

/-- A call of the connection `i` has a future. -/
def calling (s : HyperServerProc M) (i : Nat) : Bool :=
  s.calls.any fun c => c.conn == i && c.pc.isLive

/-- `listener.handshake` returned, with the protocol ALPN selected. -/
def onHandshaken (s : HyperServerProc M) (i : Nat) (r : Except String (Option String)) :
    Option (HyperServerProc M × List (Out M)) :=
  match s.conns[i]? with
  | some ⟨.handshaking, _⟩ =>
    match r with
    | .ok alpn =>
      let c : Conn := ⟨.serving, alpn == some H2⟩
      some ({ s with conns := s.conns.set i c }, [.socket 1 c.version])
    | .error _ => some ({ s with conns := s.conns.set i ⟨.ended, false⟩ }, [])
  | _ => none

/-- `serve_connection` returned. Over HTTP/1 it polls the call itself, and drops it first. -/
def onServed (s : HyperServerProc M) (i : Nat) : Option (HyperServerProc M × List (Out M)) :=
  match s.conns[i]? with
  | some ⟨.serving, isHttp2⟩ =>
    if isHttp2 || !s.calling i then
      let c : Conn := ⟨.ended, isHttp2⟩
      some ({ s with conns := s.conns.set i c }, [.socket (-1) c.version])
    else none
  | _ => none

/-- hyper calls the service for a request; over HTTP/1 for one request at a time. -/
def onCall (s : HyperServerProc M) (i : Nat) : Option (HyperServerProc M × List (Out M)) :=
  match s.conns[i]? with
  | some ⟨.serving, isHttp2⟩ =>
    if isHttp2 || !s.calling i then
      some ({ s with calls := s.calls ++ [⟨i, .requesting⟩] }, [])
    else none
  | _ => none

/-- Call `c` is at `pc`. -/
def setCall (s : HyperServerProc M) (c : Nat) (call : Call M) (pc : CallPc M) :
    HyperServerProc M :=
  { s with calls := s.calls.set c { call with pc } }

/-- `process_http_request` returned. -/
def onProcessed (s : HyperServerProc M) (c : Nat) (resp : HyperResp M) :
    Option (HyperServerProc M × List (Out M)) :=
  match s.calls[c]? with
  | none => none
  | some call =>
    match call.pc with
    | .requesting =>
      match resp with
      | .srvReq srvName req handler =>
        let msg := RequestMsg.new s.nextId srvName req c
        some ({ s.setCall c call (.sending msg handler) with
          nextId := s.nextId + 1
          replies := Function.update s.replies c .open }, [.opened msg])
      | .httpResp res =>
        some (s.setCall c call (.done (.ok res)), countRes (.ok res) ++ [.completed c (.ok res)])
      | .httpErr err =>
        some (s.setCall c call (.done (.error err)), [.count 503 none, .completed c (.error err)])
    | _ => none

/-- `let _ = proc_queue.send(..).await`: a closed channel gives the message back, and it is
dropped. -/
def onCallSent (s : HyperServerProc M) (c : Nat) : Option (HyperServerProc M × List (Out M)) :=
  match s.calls[c]? with
  | none => none
  | some call =>
    match call.pc with
    | .sending msg handler =>
      if s.httpRx.rx then
        (s.httpRx.send msg).map fun q =>
          ({ s.setCall c call (.waiting handler) with httpRx := q }, [])
      else some ((s.setCall c call (.waiting handler)).drop [msg], [.dropped msg])
    | _ => none

/-- `resp_rx.await` answered. -/
def onCallAnswered (adaptor : HyperServerAdaptor) (s : HyperServerProc M) (c : Nat) :
    Option (HyperServerProc M × List (Out M)) :=
  match s.calls[c]? with
  | none => none
  | some call =>
    match call.pc with
    | .waiting handler =>
      (s.replies c).recv.map fun m =>
        let res := waitInternResp adaptor handler m
        (s.setCall c call (.done res), countRes res ++ [.completed c res])
    | _ => none

/-- hyper drops the future of the call. -/
def onCallCancelled (s : HyperServerProc M) (c : Nat) :
    Option (HyperServerProc M × List (Out M)) :=
  match s.calls[c]? with
  | none => none
  | some call =>
    match call.pc with
    | .requesting | .waiting _ => some (s.setCall c call .cancelled, [])
    | .sending msg _ => some ((s.setCall c call .cancelled).drop [msg], [.dropped msg])
    | .done _ | .cancelled => none

/-- One step. -/
def step (urlIsSsl : Url → Bool) (adaptor : HyperServerAdaptor) (s : HyperServerProc M) :
    Ev M → Option (HyperServerProc M × List (Out M))
  | .internal m => (s.internalRxQueue.send m).map fun q => ({ s with internalRxQueue := q }, [])
  | .queueSend i m =>
    ((s.queues i).send m).map fun q => ({ s with queues := Function.update s.queues i q }, [])
  | .queueRecv i =>
    (s.queues i).recv.map fun q => ({ s with queues := Function.update s.queues i q.2 }, [])
  | .queueClosed i =>
    some ({ s with queues := Function.update s.queues i (s.queues i).dropRx }, [])
  | .drawn => some ({ s with nextId := s.nextId + 1 }, [])
  | .elapse id => (s.pendingReq.elapse id).map fun p => ({ s with pendingReq := p }, [])
  | .started r => s.onStarted urlIsSsl r
  | .bound r => s.onBound r
  | .recv => s.onRecv
  | .recvHttp sel => s.onRecvHttp sel
  | .sent => s.onSent
  | .accept r => s.onAccept r
  | .pull id => s.onPull id
  | .procRemoved ok => s.onProcRemoved ok
  | .handshaken i r => s.onHandshaken i r
  | .served i => s.onServed i
  | .call i => s.onCall i
  | .processed c resp => s.onProcessed c resp
  | .callSent c => s.onCallSent c
  | .callAnswered c => s.onCallAnswered adaptor c
  | .callCancelled c => s.onCallCancelled c

end HyperServerProc

/-- The server processor for any settings, whatever is on the service queues. -/
def serverMachine (M : Type) (urlIsSsl : Url → Bool) (adaptor : HyperServerAdaptor) :
    Machine (HyperServerProc M) (Ev M) (Out M) where
  init s := ∃ settings queues nextId, s = HyperServerProc.new settings queues nextId
  step := HyperServerProc.step urlIsSsl adaptor

end Server
