import ProsaHyper.Lib.Run
import ProsaHyper.Client.H2

/-!
# The socket task as a machine

`Sock.step`: connecting, the handshake and the registration (`spawn`, `spawn_http1`, `spawn_h2`,
`setup_socket_queue`), then the two loops. `socketMachine` runs it from `Sock.new`.
-/

set_option autoImplicit false

namespace Client

open Prosa Http

variable {M Req : Type}

/-- Another task's send on the queue goes through. `RequestMsg::new` gives a fresh id and a message
is moved by its send, so no id is sent twice. -/
def Sock.onSend (s : Sock M) (m : InternalMsg M) : Option (Sock M × List (Out M Req)) :=
  if s.rxQueue.tx && (m.request?.all fun r => !s.used.contains r.id) then
    (s.rxQueue.send m).map fun q =>
      ({ s with rxQueue := q, used := (m.request?.map (·.id)).toList ++ s.used }, [.accepted m])
  else none

/-- `HyperClientSocket::handle_handshake_timeout`. -/
def handleHandshakeTimeout (timeoutMs : Nat) (protocol : String) : HyperProcError :=
  .io s!"{protocol} handshake timeout after {timeoutMs} ms"

/-- `HyperClientSocket::handle_handshake_error`. -/
def handleHandshakeError (targetAddr : TargetText) (e : HyperError) : HyperProcError :=
  .hyper e targetAddr

/-- `spawn`: `target.connect()` returned; ALPN selects the loop. `spawn_h2` sets `is_http2`. -/
def Sock.onConnected (s : Sock M) (r : Except String (Option String × Nat)) :
    Option (Sock M × List (Out M Req)) :=
  match s.pc with
  | .connect =>
    match r with
    | .error desc => some (s.leave (.ended (.error (.io desc))))
    | .ok (alpn, fd) =>
      if alpn == some H2 then
        some ({ s with
          pc := .handshake, proto := .h2, self := { s.self with isHttp2 := true }
          socketId := fd, io := some fd }, [])
      else
        some ({ s with pc := .handshake, proto := .http1, socketId := fd, io := some fd }, [])
  | _ => none

def Proto.label : Proto → String
  | .http1 => "HTTP1"
  | .h2 => "HTTP2"

/-- The handshake returned, or `connect_timeout` elapsed (`none`). -/
def Sock.onHandshaken (s : Sock M) (r : Option (Except HyperError Unit)) :
    Option (Sock M × List (Out M Req)) :=
  match s.pc with
  | .handshake =>
    match r with
    | some (.ok _) => some ({ s with pc := .addProcQueue, ioSpawned := s.proto == .h2 }, [])
    | some (.error e) =>
      some (s.leave (.ended (.error (handleHandshakeError s.self.target.toText e))))
    | none => some (s.leave (.ended (.error
        (handleHandshakeTimeout s.self.target.connectTimeout s.proto.label))))
  | _ => none

/-- `setup_socket_queue`: `add_proc_queue(tx_queue, socket_id).await?`. -/
def Sock.onProcQueueAdded (s : Sock M) (ok : Bool) : Option (Sock M × List (Out M Req)) :=
  match s.pc with
  | .addProcQueue =>
    if ok then
      some ({ s with pc := .addService, rxQueue := s.rxQueue.setTx true },
        [.bus (.addProcQueue s.socketId)])
    else some (s.leave (.ended (.error (.internalBus ⟨.addProcQueue s.socketId⟩))))
  | _ => none

/-- `setup_socket_queue`: `add_service(vec![service_name], socket_id).await?`, then the loop. -/
def Sock.onServiceAdded (s : Sock M) (ok : Bool) : Option (Sock M × List (Out M Req)) :=
  match s.pc with
  | .addService =>
    if ok then
      some ({ s with pc := .idle true true }, [.bus (.addService s.serviceName s.socketId)])
    else some (s.leave (.ended
      (.error (.internalBus ⟨.addService s.serviceName s.socketId⟩))))
  | _ => none

/-- The effect of polling the connection future once more after it completed. -/
def Sock.repolls (s : Sock M) : List (Out M Req) :=
  if s.conn.completed.isSome then [.repolled] else []

/-- The branch `Err(_) = &mut connection` of a `select!`: an error closes the socket, `Ok(())` does
not match the pattern and disables the branch. -/
def Sock.onConnection (s : Sock M) (r : Option (Except HyperError Unit)) :
    Option (Sock M × List (Out M Req)) :=
  if s.pc.polls.contains .connection then
    match r with
    | none => some (s, s.repolls)
    | some (.error e) =>
      some ({ s with conn := { s.conn with completed := some (.error e) } }.closeSocket s.pc.hand,
        s.repolls)
    | some (.ok _) =>
      let s' := { s with conn := { s.conn with completed := some (.ok ()) } }
      match s.pc with
      | .idle _ recv =>
        if recv then some ({ s' with pc := .idle false true }, s.repolls)
        else
          let (s'', os) := s'.leave .panicked
          some (s'', s.repolls ++ os)
      | .inFlight x => some ({ s' with pc := .inFlight { x with conn := false } }, s.repolls)
      | _ => none
  else none

/-- The response came before the request was written to its end. -/
def Sock.onAnsweredEarly (s : Sock M) : Option (Sock M × List (Out M Req)) :=
  match s.pc with
  | .processing _ _ =>
    if s.conn.completed.isNone && s.conn.ready then
      some ({ s with conn := { s.conn with ready := false } }, [])
    else none
  | _ => none

/-- A `select!` polls the connection after the adaptor returned, and the last exchange comes to its
end: the rest of the request is written and the rest of the response is read, which makes the
connection ready. -/
def Sock.onExchangeEnded (s : Sock M) : Option (Sock M × List (Out M Req)) :=
  if s.pc.polls.contains .connection && s.conn.completed.isNone && !s.conn.ready &&
      s.conn.wire.isEmpty then
    some ({ s with conn := { s.conn with ready := true } }, [])
  else none

/-- The branch `Some(msg) = rx_queue.recv()` of the idle `select!`. -/
def Sock.onRecv (s : Sock M) (adaptor : HyperClientAdaptor M Req) :
    Option (Sock M × List (Out M Req)) :=
  match s.pc with
  | .idle _ true =>
    match s.rxQueue.recv with
    | none => none
    | some (msg, q) =>
      let s := { s with rxQueue := q }
      match s.proto with
      | .http1 => some (s.http1Recv adaptor msg)
      | .h2 => some (s.h2Recv msg)
  | _ => none

/-- `rx_queue.recv()` answers `None`, which disables its branch; a `select!` with every branch
disabled panics. -/
def Sock.onRecvClosed (s : Sock M) : Option (Sock M × List (Out M Req)) :=
  match s.pc with
  | .idle conn true =>
    if s.rxQueue.tx || !s.rxQueue.buf.isEmpty then none
    else if conn then some ({ s with pc := .idle true false }, [])
    else some (s.leave .panicked)
  | _ => none

/-- One step of a socket and its task. -/
def Sock.step (s : Sock M) : Ev M Req → Option (Sock M × List (Out M Req))
  | .send m => s.onSend m
  | .dropSenders => some ({ s with rxQueue := s.rxQueue.setTx false }, [])
  | .frame => s.onFrame
  | .answeredEarly => s.onAnsweredEarly
  | .ioDropped => if s.ioSpawned then some ({ s with io := none }, []) else none
  | .connected r => s.onConnected r
  | .handshaken r => s.onHandshaken r
  | .procQueueAdded ok => s.onProcQueueAdded ok
  | .serviceAdded ok => s.onServiceAdded ok
  | .connection r => s.onConnection r
  | .exchangeEnded => s.onExchangeEnded
  | .recv adaptor => s.onRecv adaptor
  | .recvClosed => s.onRecvClosed
  | .response r n => s.onResponse r n
  | .elapsed => s.onElapsed
  | .bodyPoll => s.onBodyPoll
  | .responded adaptor => s.onResponded adaptor
  | .procQueueRemoved ok => s.onProcQueueRemoved ok
  | .tryRecv => s.onTryRecv
  | .returned => s.onReturned
  | .aborted => s.onAborted
  | .task k e => s.onTask k e

/-- A socket task from its spawn on, for any socket value and service name. -/
def socketMachine (M Req : Type) : Machine (Sock M) (Ev M Req) (Out M Req) where
  init s := ∃ self serviceName, s = Sock.new self serviceName
  step := Sock.step

end Client
