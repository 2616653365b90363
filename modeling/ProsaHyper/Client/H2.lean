import ProsaHyper.Client.Http1

/-!
# The HTTP/2 loop and its exchanges

The body of `loop` in `spawn_h2`, and the task it spawns for each request. The spawned task holds
the message; the loop goes on at once. The body of an HTTP/2 response is handed over by the task
hyper runs on the executor.
-/

set_option autoImplicit false

namespace Client

open Prosa Http

variable {M Req : Type}

/-- `Some(msg) = rx_queue.recv()` in `spawn_h2`, with `msg` taken off the queue. -/
def Sock.h2Recv (s : Sock M) (msg : InternalMsg M) : Sock M × List (Out M Req) :=
  match msg with
  | .request reqMsg =>
    match reqMsg.takeData with
    | (some data, msg) =>
      ({ s with pc := .idle true true, tasks := s.tasks ++ [⟨msg, .start data⟩] },
        [.received reqMsg])
    | (none, msg) =>
      ({ s with pc := .idle true true }, [.received reqMsg, .replied .noData msg
        (msg.returnErrorToSender none (.unableToReachService s.serviceName))])
  | .response _ | .error _ => s.leave .panicked
  | .command | .config | .service _ => ({ s with pc := .idle true true }, [])
  | .shutdown => (s.closeSocket none, [])

/-- One step of a spawned task. `alive`: the connection has not completed. -/
def Exchange.step (x : Exchange M) (self : HyperClientSocket) (serviceName : String)
    (alive : Bool) : TaskEv M Req → Option (Exchange M × List (Out M Req))
  | .start adaptor =>
    match x.pc with
    | .start data =>
      match adaptor.processSrvRequest data self.target.url with
      | .ok httpRequest => some ({ x with pc := .sending alive }, [.sendRequest x.msg httpRequest])
      | .error e => some ({ x with pc := .finished },
          [.replied .srvRequestErr x.msg (x.msg.returnErrorToSender none e)])
    | _ => none
  | .response r n =>
    match x.pc with
    | .sending accepted =>
      if mayAnswer accepted r n then
        some ({ x with pc := .processing (.start r n) }, [recordOut r "HTTP/2"])
      else none
    | _ => none
  | .elapsed =>
    match x.pc with
    | .sending _ => some ({ x with pc := .finished }, [.replied .timeout x.msg
        (x.msg.returnErrorToSender none (.timeout serviceName self.httpTimeout))])
    | _ => none
  | .frame =>
    match x.pc with
    | .processing b => b.arrive.map fun b' => ({ x with pc := .processing b'.deliver }, [])
    | _ => none
  | .bodyPoll =>
    match x.pc with
    | .processing b => b.poll.map fun b' => ({ x with pc := .processing b' }, [])
    | _ => none
  | .responded adaptor =>
    match x.pc with
    | .processing b => some ({ x with pc := .finished },
        [answerReply x.msg (adaptor.processHttpResponse b.resp)])
    | _ => none

/-- The `k`-th spawned task is resumed. -/
def Sock.onTask (s : Sock M) (k : Nat) (e : TaskEv M Req) : Option (Sock M × List (Out M Req)) :=
  match s.tasks[k]? with
  | none => none
  | some x =>
    (x.step s.self s.serviceName s.conn.completed.isNone e).map fun q =>
      ({ s with tasks := s.tasks.set k q.1 }, q.2)

end Client
