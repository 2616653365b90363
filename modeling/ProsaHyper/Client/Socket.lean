import ProsaHyper.Lib.Chan
import ProsaHyper.Prosa.Bus
import ProsaHyper.Prosa.Io
import ProsaHyper.Http

/-!
# The client socket: its data

`HyperClientSocket` (`client/socket.rs`) and the state of the task that `spawn` starts for it. The
task is a program counter at the await points of `spawn`, `spawn_http1`, `spawn_h2`,
`setup_socket_queue` and `close_socket!`, with the locals that live across them. What runs between
two await points is one step (`Client/Step.lean`); the drain of `close_socket!` and the return
after it are steps of their own, because other tasks send on the queue between two `try_recv`.

* `Conn`: what the task can see of the hyper connection.
* `Reading`: a response whose body is being read by `process_http_response`.
* `Pc.polls`: the futures the task polls at each suspension point.
* `Out`: the effects of a step; a `RequestMsg` that goes out of scope unanswered is `dropped`, one
  still queued when the receiver is dropped is `discarded`.
-/

set_option autoImplicit false

namespace Client

open Prosa Http

structure HyperClientSocket where
  target : TargetSetting
  isHttp2 : Bool
  httpTimeout : Nat
  deriving DecidableEq, Repr

/-- `HyperClientSocket::new`; `urlIsSsl` is prosa's `url_is_ssl`. -/
def HyperClientSocket.new (urlIsSsl : Url → Bool) (target : TargetSetting) (httpTimeout : Nat) :
    HyperClientSocket :=
  let target : TargetSetting :=
    match target.ssl with
    | some ssl => { target with ssl := some (ssl.setAlpn ["h2", "http/1.1"]) }
    | none =>
      if urlIsSsl target.url then
        { target with ssl := some (SslConfig.default.setAlpn ["h2", "http/1.1"]) }
      else target
  { target, isHttp2 := false, httpTimeout }

/-- `HyperClientAdaptor`: the adaptor as it behaves at one call. -/
structure HyperClientAdaptor (M Req : Type) where
  processSrvRequest : M → Url → Except ServiceError Req
  processHttpResponse : Except HyperError Response → Except ServiceError M

/-- The protocol of a socket task: `spawn_http1` or `spawn_h2`. -/
inductive Proto
  | http1
  | h2
  deriving DecidableEq, Repr

/-! ## The connection -/

/-- The hyper connection: what polling its future answered once it completed, whether the sender can
take a request, and the ids of the requests it took that the backend has not answered (HTTP/1
answers them in this order). -/
structure Conn where
  completed : Option (Except HyperError Unit)
  ready : Bool
  wire : List Nat

namespace Conn

def new : Conn := ⟨none, true, []⟩

/-- A request given to the sender now is written on the connection. -/
def takes (c : Conn) : Bool := c.completed.isNone && c.ready

/-- `send_request`: without a ready connection the request is not sent. -/
def send (c : Conn) (id : Nat) : Conn :=
  if c.takes then { c with ready := false, wire := c.wire ++ [id] } else c

/-- The poll that reads the head of a response, and `n` parts of its body. The poll that reads the
last part makes the connection ready, if the request is written. -/
def answered (c : Conn) (resp : Except HyperError Response) (n : Nat) : Conn :=
  match resp with
  | .ok r => { c with ready := n == r.parts, wire := c.wire.tail }
  | .error _ => c

end Conn

/-- The outcome of an exchange while `process_http_response` works on it: how many parts of the body
reached this host, how many of these the connection has handed over, how many were read, and whether
the reader waits for the next one. The end of the body is a part: over HTTP/1 hyper hands one frame
over and reads on once it was taken, so that the end of a chunked body never comes with its last
frame. -/
structure Reading where
  resp : Except HyperError Response
  arrived : Nat
  buffered : Nat
  read : Nat
  waiting : Bool

namespace Reading

/-- The number of parts of the body. -/
def parts (b : Reading) : Nat :=
  match b.resp with
  | .ok r => r.parts
  | .error _ => 0

/-- The head came, with `n` parts behind it. -/
def start (resp : Except HyperError Response) (n : Nat) : Reading := ⟨resp, n, n, 0, false⟩

/-- The reader has seen the end. -/
def ended (b : Reading) : Bool := b.read == b.parts

/-- The reader waits for a part that was not handed over. -/
def blocked (b : Reading) : Bool := b.waiting && b.read == b.buffered

/-- The adaptor polls the body. A reader that waits is only woken by a new part. -/
def poll (b : Reading) : Option Reading :=
  if b.read < b.buffered then some { b with read := b.read + 1, waiting := false }
  else if b.ended then some b
  else if b.waiting then none
  else some { b with waiting := true }

/-- The next part reaches this host. -/
def arrive (b : Reading) : Option Reading :=
  if b.arrived < b.parts then some { b with arrived := b.arrived + 1 } else none

/-- The connection was polled: it hands over what arrived. -/
def deliver (b : Reading) : Reading := { b with buffered := b.arrived }

end Reading

/-! ## The task -/

/-- The in-flight `select!` of `spawn_http1`: the message, whether hyper took the request, and
whether the connection branch is still enabled. -/
structure InFlight (M : Type) where
  msg : RequestMsg M
  accepted : Bool
  conn : Bool

/-- Where the socket task is. The pcs of `close_socket!` carry the message that is still a local of
the loop. -/
inductive Pc (M : Type)
  | connect
  | handshake
  | addProcQueue
  | addService
  | idle (conn recv : Bool)
  | inFlight (x : InFlight M)
  | processing (msg : RequestMsg M) (b : Reading)
  | removeProcQueue (msg : Option (RequestMsg M))
  | drain (msg : Option (RequestMsg M))
  | drained (msg : Option (RequestMsg M))
  | ended (r : Except HyperProcError HyperClientSocket)
  | panicked
  | aborted

/-- The futures a socket task polls. -/
inductive Fut
  | io
  | bus
  | connection
  | recv
  | exchange
  | timer
  | adaptor
  deriving DecidableEq, Repr

namespace Pc

variable {M : Type}

/-- The futures polled at a suspension point. The drain and the return after it do not suspend. -/
def polls : Pc M → List Fut
  | .connect => [.io]
  | .handshake => [.io, .timer]
  | .addProcQueue | .addService | .removeProcQueue _ => [.bus]
  | .idle conn recv => (if conn then [.connection] else []) ++ if recv then [.recv] else []
  | .inFlight x => (if x.conn then [.connection] else []) ++ [.exchange, .timer]
  | .processing _ _ => [.adaptor]
  | .drain _ | .drained _ | .ended _ | .panicked | .aborted => []

/-- The request held by the loop. -/
def hand : Pc M → Option (RequestMsg M)
  | .inFlight x => some x.msg
  | .processing msg _ => some msg
  | .removeProcQueue msg | .drain msg | .drained msg => msg
  | _ => none

section
variable (b c : Bool) (x : InFlight M) (msg : RequestMsg M) (rd : Reading)
  (held : Option (RequestMsg M)) (r : Except HyperProcError HyperClientSocket)

@[simp] theorem hand_connect : (connect : Pc M).hand = none := rfl
@[simp] theorem hand_handshake : (handshake : Pc M).hand = none := rfl
@[simp] theorem hand_addProcQueue : (addProcQueue : Pc M).hand = none := rfl
@[simp] theorem hand_addService : (addService : Pc M).hand = none := rfl
@[simp] theorem hand_idle : (idle b c : Pc M).hand = none := rfl
@[simp] theorem hand_inFlight : (inFlight x).hand = some x.msg := rfl
@[simp] theorem hand_processing : (processing msg rd).hand = some msg := rfl
@[simp] theorem hand_removeProcQueue : (removeProcQueue held).hand = held := rfl
@[simp] theorem hand_drain : (drain held).hand = held := rfl
@[simp] theorem hand_drained : (drained held).hand = held := rfl
@[simp] theorem hand_ended : (ended r : Pc M).hand = none := rfl
@[simp] theorem hand_panicked : (panicked : Pc M).hand = none := rfl
@[simp] theorem hand_aborted : (aborted : Pc M).hand = none := rfl

end

/-- The task no longer exists. -/
def isOver : Pc M → Bool
  | .ended _ | .panicked | .aborted => true
  | _ => false

/-- The task is suspended at an await. -/
def isAwait : Pc M → Bool
  | .drain _ | .drained _ | .ended _ | .panicked | .aborted => false
  | _ => true

end Pc

/-- Where a task spawned by `spawn_h2` is. -/
inductive TaskPc (M : Type)
  | start (data : M)
  | sending (accepted : Bool)
  | processing (b : Reading)
  | finished

/-- A task spawned by `spawn_h2` for one request. -/
structure Exchange (M : Type) where
  msg : RequestMsg M
  pc : TaskPc M

/-- The state of a socket task with its queue. `used`: the ids of the requests ever sent on the
queue. `io`: the descriptor of the IO object while it lives; `ioSpawned`: it was moved into a task
of the executor. -/
structure Sock (M : Type) where
  self : HyperClientSocket
  serviceName : String
  proto : Proto
  pc : Pc M
  rxQueue : Chan (InternalMsg M)
  conn : Conn
  tasks : List (Exchange M)
  used : List Nat
  socketId : Nat
  io : Option Nat
  ioSpawned : Bool

/-- The task just spawned. -/
def Sock.new {M : Type} (self : HyperClientSocket) (serviceName : String) : Sock M where
  self := self
  serviceName := serviceName
  proto := .http1
  pc := .connect
  rxQueue := Chan.new 2048 false
  conn := Conn.new
  tasks := []
  used := []
  socketId := 0
  io := none
  ioSpawned := false

/-! ## Events and effects -/

/-- What a task spawned by `spawn_h2` is resumed with. -/
inductive TaskEv (M Req : Type)
  | start (adaptor : HyperClientAdaptor M Req)
  | response (r : Except HyperError Response) (buffered : Nat)
  | elapsed
  | frame
  | bodyPoll
  | responded (adaptor : HyperClientAdaptor M Req)

/-- What can happen to a socket: the first five are the rest of the world (`answeredEarly`: the
request was not written to its end when its response came), the others resume the task
(`connection`: the connection future is polled, `none` if it is pending; `exchangeEnded`: it is
polled, writes what is left of the last request, reads what the adaptor left of its response, and is
pending). -/
inductive Ev (M Req : Type)
  | send (m : InternalMsg M)
  | dropSenders
  | frame
  | answeredEarly
  | ioDropped
  | connected (r : Except String (Option String × Nat))
  | handshaken (r : Option (Except HyperError Unit))
  | procQueueAdded (ok : Bool)
  | serviceAdded (ok : Bool)
  | connection (r : Option (Except HyperError Unit))
  | exchangeEnded
  | recv (adaptor : HyperClientAdaptor M Req)
  | recvClosed
  | response (r : Except HyperError Response) (buffered : Nat)
  | elapsed
  | bodyPoll
  | responded (adaptor : HyperClientAdaptor M Req)
  | procQueueRemoved (ok : Bool)
  | tryRecv
  | returned
  | aborted
  | task (k : Nat) (e : TaskEv M Req)

/-- The places a reply comes from. -/
inductive Site
  | srvRequestErr
  | noData
  | response
  | responseErr
  | timeout
  | drain
  deriving DecidableEq, Repr

/-- The effects of a step. -/
inductive Out (M Req : Type)
  | accepted (m : InternalMsg M)
  | received (msg : RequestMsg M)
  | drained (msg : RequestMsg M)
  | sendRequest (msg : RequestMsg M) (req : Req)
  | replied (site : Site) (msg : RequestMsg M) (answer : InternalMsg M)
  | dropped (msg : RequestMsg M)
  | discarded (msg : RequestMsg M)
  | repolled
  | record (code : Nat) (version : String)
  | bus (op : BusOp)

/-- The bus operation of an output. -/
@[simp] def Out.bus? {M Req : Type} : Out M Req → Option BusOp
  | .bus op => some op
  | _ => none

/-- What the outputs `os` of the task `owner` do to the registrations. -/
def regs {M Req : Type} (owner : Nat) (b : Bus) (os : List (Out M Req)) : Bus :=
  (os.filterMap Out.bus?).foldl (·.apply owner ·) b

end Client
