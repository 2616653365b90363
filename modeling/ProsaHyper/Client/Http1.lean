import ProsaHyper.Client.Exit

/-!
# The HTTP/1 loop

The body of `loop` in `spawn_http1`. `http1Loop` is its head: with a message to send the request is
given to the sender and the in-flight `select!` is entered, else the idle one. The branches of the
two `select!` are steps; the handler of a branch runs after the other futures are dropped, so while
`process_http_response` is awaited nothing else is polled.
-/

set_option autoImplicit false

namespace Client

open Prosa Http

variable {M Req : Type}

/-- `HyperClientSocket::process_request`. -/
def processRequest (adaptor : HyperClientAdaptor M Req) (msg : RequestMsg M) (targetUrl : Url)
    (serviceName : String) : Option (RequestMsg M × Req) × List (Out M Req) :=
  match msg.takeData with
  | (some data, msg) =>
    match adaptor.processSrvRequest data targetUrl with
    | .ok httpRequest => (some (msg, httpRequest), [])
    | .error e => (none, [.replied .srvRequestErr msg (msg.returnErrorToSender none e)])
  | (none, msg) =>
    (none, [.replied .noData msg
      (msg.returnErrorToSender none (.unableToReachService serviceName))])

/-- The head of the loop. -/
def Sock.http1Loop (s : Sock M) (msgToSend : Option (RequestMsg M × Req)) :
    Sock M × List (Out M Req) :=
  match msgToSend with
  | some (msg, httpRequest) =>
    ({ s with
        pc := .inFlight ⟨msg, s.conn.takes, true⟩
        conn := s.conn.send msg.id },
      [.sendRequest msg httpRequest])
  | none => ({ s with pc := .idle true true }, [])

/-- The idle `select!`: `Some(msg) = rx_queue.recv()`, with `msg` taken off the queue. -/
def Sock.http1Recv (s : Sock M) (adaptor : HyperClientAdaptor M Req) (msg : InternalMsg M) :
    Sock M × List (Out M Req) :=
  match msg with
  | .request reqMsg =>
    let (msgToSend, os) := processRequest adaptor reqMsg s.self.target.url s.serviceName
    let (s', os') := s.http1Loop msgToSend
    (s', .received reqMsg :: os ++ os')
  | .response _ | .error _ => s.leave .panicked
  | .command | .config | .service _ => s.http1Loop none
  | .shutdown => (s.closeSocket none, [])

/-- hyper may answer an exchange with `r`, `n` parts of the body being there with the head: a
response only if it took the request. -/
def mayAnswer (accepted : Bool) (r : Except HyperError Response) (n : Nat) : Bool :=
  match r with
  | .ok resp => accepted && n ≤ resp.parts
  | .error e => (accepted || e == .canceled) && n == 0

/-- The effect of `message_histogram.record`. -/
def recordOut (r : Except HyperError Response) (version : String) : Out M Req :=
  match r with
  | .ok resp => .record resp.status (hyperVersionStr resp.version)
  | .error _ => .record 500 version

/-- The in-flight `select!`: `send_request` resolved in time. -/
def Sock.onResponse (s : Sock M) (r : Except HyperError Response) (n : Nat) :
    Option (Sock M × List (Out M Req)) :=
  match s.pc with
  | .inFlight x =>
    if mayAnswer x.accepted r n then
      some ({ s with
          pc := .processing x.msg (.start r n)
          conn := s.conn.answered r n },
        [recordOut r "HTTP/1"])
    else none
  | _ => none

/-- The in-flight `select!`: `http_timeout` elapsed. -/
def Sock.onElapsed (s : Sock M) : Option (Sock M × List (Out M Req)) :=
  match s.pc with
  | .inFlight x =>
    some (s.closeSocket none, [.replied .timeout x.msg
      (x.msg.returnErrorToSender none (.timeout s.serviceName s.self.httpTimeout))])
  | _ => none

/-- The adaptor polls the body of the response. -/
def Sock.onBodyPoll (s : Sock M) : Option (Sock M × List (Out M Req)) :=
  match s.pc with
  | .processing msg b => b.poll.map fun b' => ({ s with pc := .processing msg b' }, [])
  | _ => none

/-- The next part of the body reaches this host; the connection hands it over if it is polled. -/
def Sock.onFrame (s : Sock M) : Option (Sock M × List (Out M Req)) :=
  match s.pc with
  | .processing msg b =>
    b.arrive.map fun b' =>
      ({ s with
          pc := .processing msg (if s.pc.polls.contains .connection then b'.deliver else b') }, [])
  | _ => none

/-- The reply made of the answer of `process_http_response`. -/
def answerReply (msg : RequestMsg M) : Except ServiceError M → Out M Req
  | .ok r => .replied .response msg (msg.returnToSender r)
  | .error e => .replied .responseErr msg (msg.returnErrorToSender none e)

/-- `process_http_response` returned. -/
def Sock.onResponded (s : Sock M) (adaptor : HyperClientAdaptor M Req) :
    Option (Sock M × List (Out M Req)) :=
  match s.pc with
  | .processing msg b =>
    let (s', os) := s.http1Loop none
    some (s', answerReply msg (adaptor.processHttpResponse b.resp) :: os)
  | _ => none

end Client
