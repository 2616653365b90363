import ProsaHyper.Client.Step

/-!
# What a step of a socket can do

`Moves s e s' os` lists the steps of a socket one by one, guards included, and `moves_of_step` says
that `Sock.step` takes no other. Every invariant of a socket is proved by cases on it. The steps
that end the task are stated with `Sock.leave`, those of the loops with the state they lead to.
`TaskMoves` does the same for a task spawned by `spawn_h2`.
-/

set_option autoImplicit false

namespace Client

open Prosa Http

variable {M Req : Type}

/-- What `process_request` does: the request to send, the adaptor's error, or no data. -/
theorem processRequest_cases (adaptor : HyperClientAdaptor M Req) (msg : RequestMsg M) (url : Url)
    (name : String) :
    (∃ d req, msg.data = some d ∧ adaptor.processSrvRequest d url = .ok req ∧
      processRequest adaptor msg url name = (some (msg.takeData.2, req), [])) ∨
    (∃ d e, msg.data = some d ∧ adaptor.processSrvRequest d url = .error e ∧
      processRequest adaptor msg url name = (none, [.replied .srvRequestErr msg.takeData.2
        (msg.takeData.2.returnErrorToSender none e)])) ∨
    (msg.data = none ∧ processRequest adaptor msg url name = (none, [.replied .noData msg.takeData.2
        (msg.takeData.2.returnErrorToSender none (.unableToReachService name))])) := by
  unfold processRequest
  cases hd : msg.data with
  | none => simp [RequestMsg.takeData, hd]
  | some d =>
    simp only [RequestMsg.takeData, hd]
    cases hp : adaptor.processSrvRequest d url with
    | ok req => exact .inl ⟨d, req, rfl, hp, rfl⟩
    | error e => exact .inr (.inl ⟨d, e, rfl, hp, rfl⟩)

/-- The adaptor reads the same response. -/
theorem Reading.resp_poll {b b' : Reading} (h : b.poll = some b') : b'.resp = b.resp := by
  unfold Reading.poll at h
  split_ifs at h <;> cases h <;> rfl

theorem Reading.resp_arrive {b b' : Reading} (h : b.arrive = some b') : b'.resp = b.resp := by
  unfold Reading.arrive at h
  split at h <;> cases h
  rfl

/-- A message that is neither a request, an answer nor `Shutdown`: both loops ignore it. -/
def ignored : InternalMsg M → Bool
  | .command | .config | .service _ => true
  | _ => false

/-- An answer on a socket queue: both loops panic. -/
def isAnswer : InternalMsg M → Bool
  | .response _ | .error _ => true
  | _ => false

/-- The steps of a task spawned by `spawn_h2`. -/
inductive TaskMoves (x : Exchange M) (self : HyperClientSocket) (name : String) (alive : Bool) :
    TaskEv M Req → Exchange M → List (Out M Req) → Prop
  | sent {a : HyperClientAdaptor M Req} {d : M} {req : Req} : x.pc = .start d →
      a.processSrvRequest d self.target.url = .ok req →
      TaskMoves x self name alive (.start a) { x with pc := .sending alive }
        [.sendRequest x.msg req]
  | refused {a : HyperClientAdaptor M Req} {d : M} {err : ServiceError} : x.pc = .start d →
      a.processSrvRequest d self.target.url = .error err →
      TaskMoves x self name alive (.start a) { x with pc := .finished }
        [.replied .srvRequestErr x.msg (x.msg.returnErrorToSender none err)]
  | response {r : Except HyperError Response} {n : Nat} {accepted : Bool} :
      x.pc = .sending accepted → mayAnswer accepted r n = true →
      TaskMoves x self name alive (.response r n) { x with pc := .processing (.start r n) }
        [recordOut r "HTTP/2"]
  | elapsed {accepted : Bool} : x.pc = .sending accepted →
      TaskMoves x self name alive .elapsed { x with pc := .finished } [.replied .timeout x.msg
        (x.msg.returnErrorToSender none (.timeout name self.httpTimeout))]
  | frame {b b' : Reading} : x.pc = .processing b → b.arrive = some b' →
      TaskMoves x self name alive .frame { x with pc := .processing b'.deliver } []
  | bodyPoll {b b' : Reading} : x.pc = .processing b → b.poll = some b' →
      TaskMoves x self name alive .bodyPoll { x with pc := .processing b' } []
  | responded {a : HyperClientAdaptor M Req} {b : Reading} : x.pc = .processing b →
      TaskMoves x self name alive (.responded a) { x with pc := .finished }
        [answerReply x.msg (a.processHttpResponse b.resp)]

theorem taskMoves_of_step {x x' : Exchange M} {self : HyperClientSocket} {name : String}
    {alive : Bool} {e : TaskEv M Req} {os : List (Out M Req)}
    (h : x.step self name alive e = some (x', os)) : TaskMoves x self name alive e x' os := by
  cases e with
  | start a =>
    simp only [Exchange.step] at h
    split at h
    · rename_i d hp
      split at h <;> rename_i hreq <;> cases h
      · exact .sent hp hreq
      · exact .refused hp hreq
    · cases h
  | response r n =>
    simp only [Exchange.step] at h
    split at h
    · rename_i accepted hp
      split at h
      · rename_i hm
        cases h
        exact .response hp hm
      · cases h
    · cases h
  | elapsed =>
    simp only [Exchange.step] at h
    split at h
    · rename_i accepted hp
      cases h
      exact .elapsed hp
    · cases h
  | frame =>
    simp only [Exchange.step] at h
    split at h
    · rename_i b hp
      obtain ⟨b', hb, he⟩ := Option.map_eq_some_iff.1 h
      cases he
      exact .frame hp hb
    · cases h
  | bodyPoll =>
    simp only [Exchange.step] at h
    split at h
    · rename_i b hp
      obtain ⟨b', hb, he⟩ := Option.map_eq_some_iff.1 h
      cases he
      exact .bodyPoll hp hb
    · cases h
  | responded a =>
    simp only [Exchange.step] at h
    split at h
    · rename_i b hp
      cases h
      exact .responded hp
    · cases h

/-- The steps of a socket. -/
inductive Moves (s : Sock M) : Ev M Req → Sock M → List (Out M Req) → Prop
  | send {m : InternalMsg M} {q : Chan (InternalMsg M)} : s.rxQueue.tx = true →
      (∀ r, m.request? = some r → r.id ∉ s.used) → s.rxQueue.send m = some q →
      Moves s (.send m)
        { s with rxQueue := q, used := (m.request?.map (·.id)).toList ++ s.used } [.accepted m]
  | dropSenders : Moves s .dropSenders { s with rxQueue := s.rxQueue.setTx false } []
  | frame {msg : RequestMsg M} {b b' : Reading} : s.pc = .processing msg b → b.arrive = some b' →
      Moves s .frame { s with pc := .processing msg b' } []
  | answeredEarly {msg : RequestMsg M} {b : Reading} : s.pc = .processing msg b →
      s.conn.completed = none → s.conn.ready = true →
      Moves s .answeredEarly { s with conn := { s.conn with ready := false } } []
  | ioDropped : s.ioSpawned = true → Moves s .ioDropped { s with io := none } []
  | connectFailed {desc : String} : s.pc = .connect → Moves s (.connected (.error desc))
      (s.leave (.ended (.error (.io desc))) : _ × List (Out M Req)).1 s.drops
  | connectedH2 {fd : Nat} : s.pc = .connect → Moves s (.connected (.ok (some H2, fd)))
      { s with
        pc := .handshake, proto := .h2, self := { s.self with isHttp2 := true }
        socketId := fd, io := some fd } []
  | connectedHttp1 {alpn : Option String} {fd : Nat} : s.pc = .connect → alpn ≠ some H2 →
      Moves s (.connected (.ok (alpn, fd)))
        { s with pc := .handshake, proto := .http1, socketId := fd, io := some fd } []
  | handshaken {u : Unit} : s.pc = .handshake → Moves s (.handshaken (some (.ok u)))
      { s with pc := .addProcQueue, ioSpawned := s.proto == .h2 } []
  | handshakeFailed {r : Option (Except HyperError Unit)} {err : HyperProcError} :
      s.pc = .handshake → (∀ u, r ≠ some (.ok u)) → Moves s (.handshaken r)
      (s.leave (.ended (.error err)) : _ × List (Out M Req)).1 s.drops
  | procQueueAdded : s.pc = .addProcQueue → Moves s (.procQueueAdded true)
      { s with pc := .addService, rxQueue := s.rxQueue.setTx true }
      [.bus (.addProcQueue s.socketId)]
  | procQueueFailed {err : HyperProcError} : s.pc = .addProcQueue → Moves s (.procQueueAdded false)
      (s.leave (.ended (.error err)) : _ × List (Out M Req)).1 s.drops
  | serviceAdded : s.pc = .addService → Moves s (.serviceAdded true)
      { s with pc := .idle true true } [.bus (.addService s.serviceName s.socketId)]
  | serviceFailed {err : HyperProcError} : s.pc = .addService → Moves s (.serviceAdded false)
      (s.leave (.ended (.error err)) : _ × List (Out M Req)).1 s.drops
  | connPending : .connection ∈ s.pc.polls →
      Moves s (.connection none) s s.repolls
  | exchangeEnded : .connection ∈ s.pc.polls → s.conn.completed = none → s.conn.ready = false →
      s.conn.wire = [] → Moves s .exchangeEnded { s with conn := { s.conn with ready := true } } []
  | connErr {e : HyperError} : .connection ∈ s.pc.polls → Moves s (.connection (some (.error e)))
      { s with
        pc := .removeProcQueue s.pc.hand
        conn := { s.conn with completed := some (.error e) } } s.repolls
  | connOkIdle {u : Unit} : s.pc = .idle true true → Moves s (.connection (some (.ok u)))
      { s with pc := .idle false true, conn := { s.conn with completed := some (.ok ()) } }
      s.repolls
  | connOkPanic {u : Unit} : s.pc = .idle true false → Moves s (.connection (some (.ok u)))
      (({ s with conn := { s.conn with completed := some (.ok ()) } } : Sock M).leave .panicked :
        _ × List (Out M Req)).1 (s.repolls ++ s.drops)
  | connOkInFlight {u : Unit} {x : InFlight M} : s.pc = .inFlight x → x.conn = true →
      Moves s (.connection (some (.ok u)))
      { s with
        pc := .inFlight { x with conn := false }
        conn := { s.conn with completed := some (.ok ()) } } s.repolls
  | recvSend {a : HyperClientAdaptor M Req} {c : Bool} {r : RequestMsg M} {d : M} {req : Req}
      {q : Chan (InternalMsg M)} : s.pc = .idle c true → s.proto = .http1 →
      s.rxQueue.recv = some (.request r, q) → r.data = some d →
      a.processSrvRequest d s.self.target.url = .ok req →
      Moves s (.recv a)
        { s with
          rxQueue := q, pc := .inFlight ⟨r.takeData.2, s.conn.takes, true⟩
          conn := s.conn.send r.id } [.received r, .sendRequest r.takeData.2 req]
  | recvSpawn {a : HyperClientAdaptor M Req} {c : Bool} {r : RequestMsg M} {d : M}
      {q : Chan (InternalMsg M)} : s.pc = .idle c true → s.proto = .h2 →
      s.rxQueue.recv = some (.request r, q) → r.data = some d →
      Moves s (.recv a)
        { s with
          rxQueue := q, pc := .idle true true, tasks := s.tasks ++ [⟨r.takeData.2, .start d⟩] }
        [.received r]
  | recvRefuse {a : HyperClientAdaptor M Req} {c : Bool} {r : RequestMsg M} {d : M}
      {e : ServiceError} {q : Chan (InternalMsg M)} : s.pc = .idle c true → s.proto = .http1 →
      s.rxQueue.recv = some (.request r, q) → r.data = some d →
      a.processSrvRequest d s.self.target.url = .error e →
      Moves s (.recv a) { s with rxQueue := q, pc := .idle true true }
        [.received r, .replied .srvRequestErr r.takeData.2
          (r.takeData.2.returnErrorToSender none e)]
  | recvNoData {a : HyperClientAdaptor M Req} {c : Bool} {r : RequestMsg M}
      {q : Chan (InternalMsg M)} : s.pc = .idle c true →
      s.rxQueue.recv = some (.request r, q) → r.data = none →
      Moves s (.recv a) { s with rxQueue := q, pc := .idle true true }
        [.received r, .replied .noData r.takeData.2
          (r.takeData.2.returnErrorToSender none (.unableToReachService s.serviceName))]
  | recvPanic {a : HyperClientAdaptor M Req} {c : Bool} {m : InternalMsg M}
      {q : Chan (InternalMsg M)} : s.pc = .idle c true → s.rxQueue.recv = some (m, q) →
      isAnswer m = true →
      Moves s (.recv a) (({ s with rxQueue := q } : Sock M).leave .panicked :
        _ × List (Out M Req)).1 ({ s with rxQueue := q } : Sock M).drops
  | recvIgnored {a : HyperClientAdaptor M Req} {c : Bool} {m : InternalMsg M}
      {q : Chan (InternalMsg M)} : s.pc = .idle c true → s.rxQueue.recv = some (m, q) →
      ignored m = true → Moves s (.recv a) { s with rxQueue := q, pc := .idle true true } []
  | recvShutdown {a : HyperClientAdaptor M Req} {c : Bool} {q : Chan (InternalMsg M)} :
      s.pc = .idle c true → s.rxQueue.recv = some (.shutdown, q) →
      Moves s (.recv a) { s with rxQueue := q, pc := .removeProcQueue none } []
  | recvClosed : s.pc = .idle true true → s.rxQueue.tx = false → s.rxQueue.buf = [] →
      Moves s .recvClosed { s with pc := .idle true false } []
  | recvClosedPanic : s.pc = .idle false true → s.rxQueue.tx = false → s.rxQueue.buf = [] →
      Moves s .recvClosed (s.leave .panicked : _ × List (Out M Req)).1 s.drops
  | response {x : InFlight M} {r : Except HyperError Response} {n : Nat} : s.pc = .inFlight x →
      mayAnswer x.accepted r n = true →
      Moves s (.response r n)
        { s with
          pc := .processing x.msg (.start r n), conn := s.conn.answered r n }
        [recordOut r "HTTP/1"]
  | elapsed {x : InFlight M} : s.pc = .inFlight x →
      Moves s .elapsed { s with pc := .removeProcQueue none } [.replied .timeout x.msg
        (x.msg.returnErrorToSender none (.timeout s.serviceName s.self.httpTimeout))]
  | bodyPoll {msg : RequestMsg M} {b b' : Reading} : s.pc = .processing msg b →
      b.poll = some b' → Moves s .bodyPoll { s with pc := .processing msg b' } []
  | responded {a : HyperClientAdaptor M Req} {msg : RequestMsg M} {b : Reading} :
      s.pc = .processing msg b →
      Moves s (.responded a)
        { s with pc := .idle true true }
        [answerReply msg (a.processHttpResponse b.resp)]
  | removed {msg : Option (RequestMsg M)} : s.pc = .removeProcQueue msg →
      Moves s (.procQueueRemoved true) { s with pc := .drain msg }
        [.bus (.removeProcQueue s.socketId)]
  | removeFailed {msg : Option (RequestMsg M)} {err : HyperProcError} :
      s.pc = .removeProcQueue msg → Moves s (.procQueueRemoved false)
      (s.leave (.ended (.error err)) : _ × List (Out M Req)).1 s.drops
  | drainRequest {msg : Option (RequestMsg M)} {r : RequestMsg M} {q : Chan (InternalMsg M)} :
      s.pc = .drain msg → s.rxQueue.recv = some (.request r, q) →
      Moves s .tryRecv { s with rxQueue := q } [.drained r, .replied .drain r
        (r.returnErrorToSender none (.unableToReachService s.serviceName))]
  | drainOther {msg : Option (RequestMsg M)} {m : InternalMsg M} {q : Chan (InternalMsg M)} :
      s.pc = .drain msg → s.rxQueue.recv = some (m, q) → m.request? = none →
      Moves s .tryRecv { s with rxQueue := q } []
  | drainEmpty {msg : Option (RequestMsg M)} : s.pc = .drain msg → s.rxQueue.buf = [] →
      Moves s .tryRecv { s with pc := .drained msg } []
  | returned {msg : Option (RequestMsg M)} : s.pc = .drained msg →
      Moves s .returned (s.leave (.ended (.ok s.self)) : _ × List (Out M Req)).1 s.drops
  | aborted : s.pc.isAwait = true →
      Moves s .aborted (s.leave .aborted : _ × List (Out M Req)).1 s.drops
  | task {k : Nat} {e : TaskEv M Req} {x x' : Exchange M} {os : List (Out M Req)} :
      s.tasks[k]? = some x →
      x.step s.self s.serviceName s.conn.completed.isNone e = some (x', os) →
      Moves s (.task k e) { s with tasks := s.tasks.set k x' } os

theorem polls_connection {pc : Pc M} (h : .connection ∈ pc.polls) :
    (∃ r, pc = .idle true r) ∨ ∃ x, pc = .inFlight x ∧ x.conn = true := by
  cases pc with
  | idle c r =>
    cases c
    · cases r <;> simp [Pc.polls] at h
    · exact .inl ⟨r, rfl⟩
  | inFlight x =>
    refine .inr ⟨x, rfl, ?_⟩
    by_contra hc
    simp [Pc.polls, hc] at h
  | _ => simp [Pc.polls] at h

section
variable {s s' : Sock M} {os : List (Out M Req)}

theorem moves_send {m : InternalMsg M} (h : s.onSend m = some (s', os)) :
    Moves s (.send m) s' os := by
  unfold Sock.onSend at h
  split at h
  · rename_i hc
    simp only [Bool.and_eq_true, Option.all_eq_true, Bool.not_eq_true', List.contains_eq_mem,
      decide_eq_false_iff_not] at hc
    obtain ⟨q, hq, he⟩ := Option.map_eq_some_iff.1 h
    cases he
    exact .send hc.1 hc.2 hq
  · cases h

theorem moves_connected {r : Except String (Option String × Nat)}
    (h : s.onConnected r = some (s', os)) : Moves s (.connected r) s' os := by
  unfold Sock.onConnected at h
  split at h
  · rename_i hp
    split at h
    · cases h
      exact .connectFailed hp
    · rename_i alpn fd
      split at h
      · rename_i ha
        cases beq_iff_eq.1 ha
        cases h
        exact .connectedH2 hp
      · rename_i ha
        cases h
        exact .connectedHttp1 hp (by simpa using ha)
  · cases h

theorem moves_handshaken {r : Option (Except HyperError Unit)}
    (h : s.onHandshaken r = some (s', os)) : Moves s (.handshaken r) s' os := by
  unfold Sock.onHandshaken at h
  split at h
  · rename_i hp
    split at h <;> cases h
    · exact .handshaken hp
    · exact .handshakeFailed hp (by simp)
    · exact .handshakeFailed hp (by simp)
  · cases h

theorem moves_procQueueAdded {ok : Bool} (h : s.onProcQueueAdded ok = some (s', os)) :
    Moves s (.procQueueAdded ok : Ev M Req) s' os := by
  unfold Sock.onProcQueueAdded at h
  split at h
  · rename_i hp
    cases ok <;> cases h
    · exact .procQueueFailed hp
    · exact .procQueueAdded hp
  · cases h

theorem moves_serviceAdded {ok : Bool} (h : s.onServiceAdded ok = some (s', os)) :
    Moves s (.serviceAdded ok : Ev M Req) s' os := by
  unfold Sock.onServiceAdded at h
  split at h
  · rename_i hp
    cases ok <;> cases h
    · exact .serviceFailed hp
    · exact .serviceAdded hp
  · cases h

theorem moves_connection {r : Option (Except HyperError Unit)}
    (h : s.onConnection r = some (s', os)) : Moves s (.connection r) s' os := by
  unfold Sock.onConnection at h
  split at h
  · rename_i hc
    have hc : .connection ∈ s.pc.polls := by simpa using hc
    match r, h with
    | none, h => cases h; exact .connPending hc
    | some (.error e), h => cases h; exact .connErr hc
    | some (.ok u), h =>
      obtain ⟨recv, hp⟩ | ⟨x, hp, hx⟩ := polls_connection hc
      · simp only [hp] at h
        cases recv
        · cases h
          rw [← hp]
          exact .connOkPanic hp
        · cases h
          exact .connOkIdle hp
      · simp only [hp] at h
        cases h
        exact .connOkInFlight hp hx
  · cases h

theorem moves_exchangeEnded (h : s.onExchangeEnded = some (s', os)) :
    Moves s (.exchangeEnded : Ev M Req) s' os := by
  unfold Sock.onExchangeEnded at h
  split at h
  · rename_i hc
    simp only [Bool.and_eq_true, List.contains_iff_mem, Option.isNone_iff_eq_none,
      Bool.not_eq_true', List.isEmpty_iff] at hc
    obtain ⟨⟨⟨hp, hcomp⟩, hready⟩, hwire⟩ := hc
    cases h
    exact .exchangeEnded hp hcomp hready hwire
  · cases h

theorem moves_recv {a : HyperClientAdaptor M Req} (h : s.onRecv a = some (s', os)) :
    Moves s (.recv a) s' os := by
  unfold Sock.onRecv at h
  split at h
  · rename_i c hp
    split at h
    · cases h
    · rename_i m q hq
      dsimp only at h
      split at h
      · rename_i hpr
        cases m with
        | request r =>
          obtain ⟨d, req, hd, ha, hpc⟩ | ⟨d, e, hd, ha, hpc⟩ | ⟨hd, hpc⟩ :=
            processRequest_cases a r s.self.target.url s.serviceName
          · simp only [Sock.http1Recv, hpc, Sock.http1Loop] at h
            cases h
            exact .recvSend hp hpr hq hd ha
          · simp only [Sock.http1Recv, hpc, Sock.http1Loop] at h
            cases h
            exact .recvRefuse hp hpr hq hd ha
          · simp only [Sock.http1Recv, hpc, Sock.http1Loop] at h
            cases h
            exact .recvNoData hp hq hd
        | response r => cases h; exact .recvPanic hp hq rfl
        | error r => cases h; exact .recvPanic hp hq rfl
        | shutdown => cases h; exact .recvShutdown hp hq
        | command => cases h; exact .recvIgnored hp hq rfl
        | config => cases h; exact .recvIgnored hp hq rfl
        | service t => cases h; exact .recvIgnored hp hq rfl
      · rename_i hpr
        cases m with
        | request r =>
          cases hd : r.data with
          | some d =>
            simp only [Sock.h2Recv, RequestMsg.takeData, hd] at h
            cases h
            exact .recvSpawn hp hpr hq hd
          | none =>
            simp only [Sock.h2Recv, RequestMsg.takeData, hd] at h
            cases h
            exact .recvNoData hp hq hd
        | response r => cases h; exact .recvPanic hp hq rfl
        | error r => cases h; exact .recvPanic hp hq rfl
        | shutdown => cases h; exact .recvShutdown hp hq
        | command => cases h; exact .recvIgnored hp hq rfl
        | config => cases h; exact .recvIgnored hp hq rfl
        | service t => cases h; exact .recvIgnored hp hq rfl
  · cases h

theorem moves_recvClosed (h : s.onRecvClosed = some (s', os)) :
    Moves s (.recvClosed : Ev M Req) s' os := by
  unfold Sock.onRecvClosed at h
  split at h
  · rename_i c hp
    split at h
    · cases h
    · rename_i hb
      simp only [Bool.or_eq_true, Bool.not_eq_true', not_or, Bool.not_eq_true,
        Bool.not_eq_false, List.isEmpty_iff] at hb
      cases c <;> cases h
      · exact .recvClosedPanic hp hb.1 hb.2
      · exact .recvClosed hp hb.1 hb.2
  · cases h

theorem moves_response {r : Except HyperError Response} {n : Nat}
    (h : s.onResponse r n = some (s', os)) : Moves s (.response r n) s' os := by
  unfold Sock.onResponse at h
  split at h
  · rename_i x hp
    split at h
    · rename_i hm; cases h; exact .response hp hm
    · cases h
  · cases h

theorem moves_elapsed (h : s.onElapsed = some (s', os)) :
    Moves s (.elapsed : Ev M Req) s' os := by
  unfold Sock.onElapsed at h
  split at h
  · rename_i x hp; cases h; exact .elapsed hp
  · cases h

theorem moves_frame (h : s.onFrame = some (s', os)) : Moves s (.frame : Ev M Req) s' os := by
  unfold Sock.onFrame at h
  split at h
  · rename_i msg b hp
    obtain ⟨b', hb, he⟩ := Option.map_eq_some_iff.1 h
    rw [hp] at he
    cases he
    exact .frame hp hb
  · cases h

theorem moves_answeredEarly (h : s.onAnsweredEarly = some (s', os)) :
    Moves s (.answeredEarly : Ev M Req) s' os := by
  unfold Sock.onAnsweredEarly at h
  split at h
  · rename_i msg b hp
    split at h
    · rename_i hc
      simp only [Bool.and_eq_true, Option.isNone_iff_eq_none] at hc
      cases h
      exact .answeredEarly hp hc.1 hc.2
    · cases h
  · cases h

theorem moves_bodyPoll (h : s.onBodyPoll = some (s', os)) :
    Moves s (.bodyPoll : Ev M Req) s' os := by
  unfold Sock.onBodyPoll at h
  split at h
  · rename_i msg b hp
    obtain ⟨b', hb, he⟩ := Option.map_eq_some_iff.1 h
    cases he
    exact .bodyPoll hp hb
  · cases h

theorem moves_responded {a : HyperClientAdaptor M Req} (h : s.onResponded a = some (s', os)) :
    Moves s (.responded a) s' os := by
  unfold Sock.onResponded at h
  split at h
  · rename_i msg b hp; cases h; exact .responded hp
  · cases h

theorem moves_procQueueRemoved {ok : Bool} (h : s.onProcQueueRemoved ok = some (s', os)) :
    Moves s (.procQueueRemoved ok : Ev M Req) s' os := by
  unfold Sock.onProcQueueRemoved at h
  split at h
  · rename_i msg hp
    cases ok <;> cases h
    · exact .removeFailed hp
    · exact .removed hp
  · cases h

theorem moves_tryRecv (h : s.onTryRecv = some (s', os)) :
    Moves s (.tryRecv : Ev M Req) s' os := by
  unfold Sock.onTryRecv at h
  split at h
  · rename_i msg hp
    split at h
    · rename_i r q hq; cases h; exact .drainRequest hp hq
    · rename_i m q hne hq
      cases h
      refine .drainOther hp hq ?_
      cases m <;> first | rfl | exact absurd rfl (hne _)
    · rename_i hq; cases h; exact .drainEmpty hp (Chan.recv_eq_none.1 hq)
  · cases h

theorem moves_returned (h : s.onReturned = some (s', os)) :
    Moves s (.returned : Ev M Req) s' os := by
  unfold Sock.onReturned at h
  split at h
  · rename_i msg hp; cases h; exact .returned hp
  · cases h

theorem moves_aborted (h : s.onAborted = some (s', os)) :
    Moves s (.aborted : Ev M Req) s' os := by
  unfold Sock.onAborted at h
  split at h
  · rename_i ha; cases h; exact .aborted ha
  · cases h

theorem moves_task {k : Nat} {e : TaskEv M Req} (h : s.onTask k e = some (s', os)) :
    Moves s (.task k e) s' os := by
  unfold Sock.onTask at h
  split at h
  · cases h
  · rename_i x hx
    obtain ⟨q, hq, he⟩ := Option.map_eq_some_iff.1 h
    cases he
    exact .task hx hq

/-- **Every step is one of `Moves`.** -/
theorem moves_of_step {e : Ev M Req} (h : s.step e = some (s', os)) : Moves s e s' os := by
  cases e with
  | send m => exact moves_send h
  | dropSenders => cases h; exact .dropSenders
  | frame => exact moves_frame h
  | answeredEarly => exact moves_answeredEarly h
  | ioDropped =>
    simp only [Sock.step] at h
    split at h
    · rename_i hi; cases h; exact .ioDropped hi
    · cases h
  | connected r => exact moves_connected h
  | handshaken r => exact moves_handshaken h
  | procQueueAdded ok => exact moves_procQueueAdded h
  | serviceAdded ok => exact moves_serviceAdded h
  | connection r => exact moves_connection h
  | exchangeEnded => exact moves_exchangeEnded h
  | recv a => exact moves_recv h
  | recvClosed => exact moves_recvClosed h
  | response r n => exact moves_response h
  | elapsed => exact moves_elapsed h
  | bodyPoll => exact moves_bodyPoll h
  | responded a => exact moves_responded h
  | procQueueRemoved ok => exact moves_procQueueRemoved h
  | tryRecv => exact moves_tryRecv h
  | returned => exact moves_returned h
  | aborted => exact moves_aborted h
  | task k e => exact moves_task h

end

end Client
