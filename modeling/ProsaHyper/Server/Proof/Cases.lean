import ProsaHyper.Server.Proc

/-!
# The steps of the server

`Moves s e s' os`: what each step does, case by case. `moves_of_step` is proved once; every
invariant of the server is a case analysis on it.
-/

set_option autoImplicit false

namespace Server

open Prosa Http

variable {M : Type}

/-- The internal messages that `internal_run` panics on. -/
def panics : InternalMsg M → Bool
  | .request _ | .command | .config => true
  | _ => false

/-- The connection task that is resumed. -/
def Ev.conn? : Ev M → Option Nat
  | .handshaken i _ | .served i => some i
  | _ => none

/-- The steps of the server. -/
inductive Moves (urlIsSsl : Url → Bool) (adaptor : HyperServerAdaptor) (s : HyperServerProc M) :
    Ev M → HyperServerProc M → List (Out M) → Prop
  | internal {m : InternalMsg M} {q : Chan (InternalMsg M)} : s.internalRxQueue.send m = some q →
      Moves urlIsSsl adaptor s (.internal m) { s with internalRxQueue := q } []
  | queueSend {i : Nat} {m : InternalMsg M} {q : Chan (InternalMsg M)} :
      (s.queues i).send m = some q → Moves urlIsSsl adaptor s (.queueSend i m)
        { s with queues := Function.update s.queues i q } []
  | queueRecv {i : Nat} {m : InternalMsg M} {q : Chan (InternalMsg M)} :
      (s.queues i).recv = some (m, q) → Moves urlIsSsl adaptor s (.queueRecv i)
        { s with queues := Function.update s.queues i q } []
  | queueClosed {i : Nat} : Moves urlIsSsl adaptor s (.queueClosed i)
      { s with queues := Function.update s.queues i (s.queues i).dropRx } []
  | drawn : Moves urlIsSsl adaptor s .drawn { s with nextId := s.nextId + 1 } []
  | elapse {id : Nat} {p : PendingMsgs (RequestMsg M)} : s.pendingReq.elapse id = some p →
      Moves urlIsSsl adaptor s (.elapse id) { s with pendingReq := p } []
  | startFailed {err : ProcError M} : s.pc = .start →
      Moves urlIsSsl adaptor s (.started (.error err)) (s.leave (.ended (.error err))).1
        (s.leave (.ended (.error err))).2
  | started {u : Unit} {settings : HyperServerSettings} : s.pc = .start →
      settings.serviceTimeout = s.settings.serviceTimeout →
      Moves urlIsSsl adaptor s (.started (.ok u)) { s with pc := .bind, settings } [.bus .addProc]
  | bindFailed {desc : String} : s.pc = .bind →
      Moves urlIsSsl adaptor s (.bound (.error desc)) (s.leave (.ended (.error (.io desc)))).1
        (s.leave (.ended (.error (.io desc)))).2
  | bound {u : Unit} : s.pc = .bind →
      Moves urlIsSsl adaptor s (.bound (.ok u)) { s with pc := .select } []
  | recvPanic {m : InternalMsg M} {q : Chan (InternalMsg M)} : s.pc = .select →
      s.internalRxQueue.recv = some (m, q) → panics m = true → Moves urlIsSsl adaptor s .recv
        (({ s with internalRxQueue := q } : HyperServerProc M).leave .panicked).1
        (.took m :: (({ s with internalRxQueue := q } : HyperServerProc M).leave .panicked).2)
  | recvStale {m : InternalMsg M} {q : Chan (InternalMsg M)} {id : Nat} : s.pc = .select →
      s.internalRxQueue.recv = some (m, q) → m.answers? = some id → id ∉ s.pendingReq.msgs →
      Moves urlIsSsl adaptor s .recv { s with internalRxQueue := q } [.took m]
  | recvData {msg : ResponseMsg M} {q : Chan (InternalMsg M)} {hyperMsg : RequestMsg M} {data : M} :
      s.pc = .select → s.internalRxQueue.recv = some (.response msg, q) →
      s.pendingReq.msgs.lookup msg.id = some hyperMsg → msg.data = some data →
      Moves urlIsSsl adaptor s .recv
        { s with
          internalRxQueue := q
          pendingReq := s.pendingReq.erase msg.id
          replies := Function.update s.replies hyperMsg.responseQueue
            (.sent (hyperMsg.returnToSender data)) }
        [.took (.response msg), .replied .response hyperMsg (hyperMsg.returnToSender data)]
  | recvNoData {msg : ResponseMsg M} {q : Chan (InternalMsg M)} {hyperMsg : RequestMsg M} :
      s.pc = .select → s.internalRxQueue.recv = some (.response msg, q) →
      s.pendingReq.msgs.lookup msg.id = some hyperMsg → msg.data = none →
      Moves urlIsSsl adaptor s .recv
        (({ s with internalRxQueue := q, pendingReq := s.pendingReq.erase msg.id } :
          HyperServerProc M).drop [hyperMsg])
        [.took (.response msg), .dropped hyperMsg]
  | recvError {errMsg : ErrorMsg M} {q : Chan (InternalMsg M)} {hyperErrMsg : RequestMsg M} :
      s.pc = .select → s.internalRxQueue.recv = some (.error errMsg, q) →
      s.pendingReq.msgs.lookup errMsg.id = some hyperErrMsg →
      Moves urlIsSsl adaptor s .recv
        { s with
          internalRxQueue := q
          pendingReq := s.pendingReq.erase errMsg.id
          replies := Function.update s.replies hyperErrMsg.responseQueue
            (.sent (hyperErrMsg.returnErrorToSender errMsg.data errMsg.err)) }
        [.took (.error errMsg), .replied .responseErr hyperErrMsg
          (hyperErrMsg.returnErrorToSender errMsg.data errMsg.err)]
  | recvService {table : ServiceTable} {q : Chan (InternalMsg M)} : s.pc = .select →
      s.internalRxQueue.recv = some (.service table, q) → Moves urlIsSsl adaptor s .recv
        { s with internalRxQueue := q, service := table } [.took (.service table)]
  | recvShutdown {q : Chan (InternalMsg M)} : s.pc = .select →
      s.internalRxQueue.recv = some (.shutdown, q) → Moves urlIsSsl adaptor s .recv
        { s with internalRxQueue := q, pc := .removeProc } [.took .shutdown, .terminate]
  | dispatch {httpMsg : RequestMsg M} {q : Chan (RequestMsg M)} {queue : Nat} {data : M} :
      s.pc = .select → s.httpRx.recv = some (httpMsg, q) →
      s.service.getProcService httpMsg.service (some queue) = true → httpMsg.data = some data →
      Moves urlIsSsl adaptor s (.recvHttp (some queue))
        { s with
          httpRx := q
          pc := .sending queue (RequestMsg.new s.nextId httpMsg.service data serviceQueue)
            httpMsg.takeData.2
          nextId := s.nextId + 1 } []
  | refuse {httpMsg : RequestMsg M} {q : Chan (RequestMsg M)} {sel : Option Nat} :
      s.pc = .select → s.httpRx.recv = some (httpMsg, q) →
      s.service.getProcService httpMsg.service sel = true → sel = none ∨ httpMsg.data = none →
      Moves urlIsSsl adaptor s (.recvHttp sel)
        { s with
          httpRx := q
          replies := Function.update s.replies httpMsg.responseQueue
            (.sent (httpMsg.takeData.2.returnErrorToSender httpMsg.data
              (.unableToReachService httpMsg.service))) }
        [.replied .unable httpMsg.takeData.2 (httpMsg.takeData.2.returnErrorToSender httpMsg.data
          (.unableToReachService httpMsg.service))]
  | sent {queue : Nat} {request httpMsg : RequestMsg M} {q : Chan (InternalMsg M)} :
      s.pc = .sending queue request httpMsg →
      (s.queues queue).send (.request request) = some q → Moves urlIsSsl adaptor s .sent
        { s with
          pc := .select
          queues := Function.update s.queues queue q
          pendingReq := s.pendingReq.pushWithId request.id httpMsg }
        [.dispatched httpMsg request queue]
  | sendFailed {queue : Nat} {request httpMsg : RequestMsg M} {err : ProcError M} :
      s.pc = .sending queue request httpMsg → (s.queues queue).rx = false →
      Moves urlIsSsl adaptor s .sent (s.leave (.ended (.error err))).1
        (s.leave (.ended (.error err))).2
  | acceptFailed {desc : String} : s.pc = .select →
      Moves urlIsSsl adaptor s (.accept (.error desc)) (s.leave (.ended (.error (.io desc)))).1
        (s.leave (.ended (.error (.io desc)))).2
  | accepted {u : Unit} : s.pc = .select → Moves urlIsSsl adaptor s (.accept (.ok u))
      { s with conns := s.conns ++ [⟨.handshaking, false⟩] } []
  | pulled {id : Nat} {msg : RequestMsg M} : s.pc = .select → id ∈ s.pendingReq.expired →
      s.pendingReq.msgs.lookup id = some msg → Moves urlIsSsl adaptor s (.pull id)
        { s with
          pendingReq := s.pendingReq.erase id
          replies := Function.update s.replies msg.responseQueue
            (.sent (msg.takeData.2.returnErrorToSender msg.data
              (.timeout msg.service s.settings.serviceTimeout))) }
        [.replied .timeout msg.takeData.2 (msg.takeData.2.returnErrorToSender msg.data
          (.timeout msg.service s.settings.serviceTimeout))]
  | procRemoved : s.pc = .removeProc → Moves urlIsSsl adaptor s (.procRemoved true)
      (s.leave (.ended (.ok ()))).1 (.bus .removeProc :: (s.leave (.ended (.ok ()))).2)
  | procRemoveFailed {err : ProcError M} : s.pc = .removeProc →
      Moves urlIsSsl adaptor s (.procRemoved false) (s.leave (.ended (.error err))).1
        (s.leave (.ended (.error err))).2
  | conn {i : Nat} {e : Ev M} {c : Conn} {os : List (Out M)} : e.conn? = some i →
      (∀ o ∈ os, ∃ delta version, o = .socket delta version) →
      Moves urlIsSsl adaptor s e { s with conns := s.conns.set i c } os
  | call {i : Nat} {c : Conn} : s.conns[i]? = some c → c.pc = .serving →
      c.isHttp2 = true ∨ s.calling i = false →
      Moves urlIsSsl adaptor s (.call i) { s with calls := s.calls ++ [⟨i, .requesting⟩] } []
  | opened {c : Nat} {call : Call M} {srvName : String} {req : M} {handler : SrvRespHandler M} :
      s.calls[c]? = some call → call.pc = .requesting →
      Moves urlIsSsl adaptor s (.processed c (.srvReq srvName req handler))
        { s with
          calls := s.calls.set c
            { call with pc := .sending (RequestMsg.new s.nextId srvName req c) handler }
          nextId := s.nextId + 1
          replies := Function.update s.replies c .open }
        [.opened (RequestMsg.new s.nextId srvName req c)]
  | processed {c : Nat} {call : Call M} {resp : HyperResp M} {res : Except HttpError Response}
      {os : List (Out M)} : s.calls[c]? = some call → call.pc = .requesting →
      (∀ o ∈ os, ∃ code version, o = .count code version) →
      Moves urlIsSsl adaptor s (.processed c resp)
        { s with calls := s.calls.set c { call with pc := .done res } } (os ++ [.completed c res])
  | callSent {c : Nat} {call : Call M} {msg : RequestMsg M} {handler : SrvRespHandler M}
      {q : Chan (RequestMsg M)} : s.calls[c]? = some call → call.pc = .sending msg handler →
      s.httpRx.send msg = some q → Moves urlIsSsl adaptor s (.callSent c)
        { s with calls := s.calls.set c { call with pc := .waiting handler }, httpRx := q } []
  | callSendFailed {c : Nat} {call : Call M} {msg : RequestMsg M} {handler : SrvRespHandler M} :
      s.calls[c]? = some call → call.pc = .sending msg handler → s.httpRx.rx = false →
      Moves urlIsSsl adaptor s (.callSent c)
        (({ s with calls := s.calls.set c { call with pc := .waiting handler } } :
          HyperServerProc M).drop [msg]) [.dropped msg]
  | callAnswered {c : Nat} {call : Call M} {handler : SrvRespHandler M}
      {m : Option (InternalMsg M)} : s.calls[c]? = some call → call.pc = .waiting handler →
      (s.replies c).recv = some m → Moves urlIsSsl adaptor s (.callAnswered c)
        { s with
          calls := s.calls.set c { call with pc := .done (waitInternResp adaptor handler m) } }
        (countRes (waitInternResp adaptor handler m) ++
          [.completed c (waitInternResp adaptor handler m)])
  | callCancelled {c : Nat} {call : Call M} : s.calls[c]? = some call → call.pc.msg? = none →
      call.pc.isLive = true → Moves urlIsSsl adaptor s (.callCancelled c)
        { s with calls := s.calls.set c { call with pc := .cancelled } } []
  | sendCancelled {c : Nat} {call : Call M} {msg : RequestMsg M} {handler : SrvRespHandler M} :
      s.calls[c]? = some call → call.pc = .sending msg handler →
      Moves urlIsSsl adaptor s (.callCancelled c)
        (({ s with calls := s.calls.set c { call with pc := .cancelled } } :
          HyperServerProc M).drop [msg]) [.dropped msg]

section
variable {urlIsSsl : Url → Bool} {adaptor : HyperServerAdaptor} {s s' : HyperServerProc M}
  {os : List (Out M)}

theorem moves_recv (h : s.onRecv = some (s', os)) : Moves urlIsSsl adaptor s .recv s' os := by
  unfold HyperServerProc.onRecv at h
  split at h
  · rename_i hp
    split at h
    · cases h
    · rename_i m q hq
      dsimp only at h
      split at h
      · cases h; exact .recvPanic hp hq rfl
      · cases h; exact .recvPanic hp hq rfl
      · cases h; exact .recvPanic hp hq rfl
      · split at h
        · rename_i hn
          cases h
          exact .recvStale hp hq rfl (PendingMsgs.pullMsg_eq_none.1 hn)
        · rename_i hyperMsg p hpull
          obtain ⟨hl, rfl⟩ := PendingMsgs.pullMsg_eq_some.1 hpull
          split at h
          · rename_i data hd; cases h; exact .recvData hp hq hl hd
          · rename_i hd; cases h; exact .recvNoData hp hq hl hd
      · split at h
        · rename_i hn
          cases h
          exact .recvStale hp hq rfl (PendingMsgs.pullMsg_eq_none.1 hn)
        · rename_i hyperErrMsg p hpull
          obtain ⟨hl, rfl⟩ := PendingMsgs.pullMsg_eq_some.1 hpull
          cases h
          exact .recvError hp hq hl
      · cases h; exact .recvService hp hq
      · cases h; exact .recvShutdown hp hq
  · cases h

theorem moves_recvHttp {sel : Option Nat} (h : s.onRecvHttp sel = some (s', os)) :
    Moves urlIsSsl adaptor s (.recvHttp sel) s' os := by
  unfold HyperServerProc.onRecvHttp at h
  split at h
  · rename_i hp
    split at h
    · cases h
    · rename_i httpMsg q hq
      split at h
      · rename_i hs
        dsimp only [RequestMsg.takeData] at h
        split at h
        · rename_i queue data hd
          cases h
          exact .dispatch hp hq hs hd
        · rename_i hn
          cases h
          refine .refuse hp hq hs ?_
          by_contra hc
          obtain ⟨hsel, hdata⟩ := not_or.1 hc
          obtain ⟨queue, hsel⟩ := Option.ne_none_iff_exists'.1 hsel
          obtain ⟨data, hdata⟩ := Option.ne_none_iff_exists'.1 hdata
          exact hn queue data hsel hdata
      · cases h
  · cases h

theorem moves_sent (h : s.onSent = some (s', os)) : Moves urlIsSsl adaptor s .sent s' os := by
  unfold HyperServerProc.onSent at h
  split at h
  · rename_i hp
    split at h
    · obtain ⟨q, hq, he⟩ := Option.map_eq_some_iff.1 h
      cases he
      exact .sent hp hq
    · rename_i hrx
      cases h
      exact .sendFailed hp (by simpa using hrx)
  · cases h

theorem moves_pull {id : Nat} (h : s.onPull id = some (s', os)) :
    Moves urlIsSsl adaptor s (.pull id) s' os := by
  unfold HyperServerProc.onPull at h
  split at h
  · rename_i hp
    split at h
    · cases h
    · split at h
      · cases h
      · rename_i msg p hpull
        obtain ⟨he, hl, rfl⟩ := PendingMsgs.pull_eq_some.1 hpull
        cases h
        exact .pulled hp he hl
  · cases h

theorem countRes_counts (res : Except HttpError Response) :
    ∀ o ∈ (countRes res : List (Out M)), ∃ code version, o = .count code version := by
  cases res <;> simp [countRes]

theorem moves_processed {c : Nat} {resp : HyperResp M} (h : s.onProcessed c resp = some (s', os)) :
    Moves urlIsSsl adaptor s (.processed c resp) s' os := by
  unfold HyperServerProc.onProcessed at h
  split at h
  · cases h
  · rename_i call hc
    split at h
    · rename_i hp
      split at h
      · cases h; exact .opened hc hp
      · cases h; exact .processed hc hp (countRes_counts _)
      · cases h
        have hcount : ∀ o ∈ ([.count 503 none] : List (Out M)), ∃ code version,
            o = .count code version := by simp
        exact .processed hc hp hcount
    · cases h

theorem moves_callSent {c : Nat} (h : s.onCallSent c = some (s', os)) :
    Moves urlIsSsl adaptor s (.callSent c) s' os := by
  unfold HyperServerProc.onCallSent at h
  split at h
  · cases h
  · rename_i call hc
    split at h
    · rename_i msg handler hp
      split at h
      · obtain ⟨q, hq, he⟩ := Option.map_eq_some_iff.1 h
        cases he
        exact .callSent hc hp hq
      · rename_i hrx
        cases h
        exact .callSendFailed hc hp (by simpa using hrx)
    · cases h

theorem moves_callAnswered {c : Nat} (h : s.onCallAnswered adaptor c = some (s', os)) :
    Moves urlIsSsl adaptor s (.callAnswered c) s' os := by
  unfold HyperServerProc.onCallAnswered at h
  split at h
  · cases h
  · rename_i call hc
    split at h
    · rename_i handler hp
      obtain ⟨m, hm, he⟩ := Option.map_eq_some_iff.1 h
      cases he
      exact .callAnswered hc hp hm
    · cases h

theorem moves_callCancelled {c : Nat} (h : s.onCallCancelled c = some (s', os)) :
    Moves urlIsSsl adaptor s (.callCancelled c) s' os := by
  unfold HyperServerProc.onCallCancelled at h
  split at h
  · cases h
  · rename_i call hc
    split at h
    · rename_i hp; cases h; exact .callCancelled hc (by rw [hp]; rfl) (by rw [hp]; rfl)
    · rename_i hp; cases h; exact .callCancelled hc (by rw [hp]; rfl) (by rw [hp]; rfl)
    · rename_i hp; cases h; exact .sendCancelled hc hp
    · cases h
    · cases h

theorem moves_conn {i : Nat} {r : Except String (Option String)} :
    (s.onHandshaken i r = some (s', os) → Moves urlIsSsl adaptor s (.handshaken i r) s' os) ∧
      (s.onServed i = some (s', os) → Moves urlIsSsl adaptor s (.served i) s' os) := by
  constructor
  · intro h
    unfold HyperServerProc.onHandshaken at h
    split at h
    · split at h <;> cases h
      · exact .conn rfl (by simp)
      · exact .conn rfl (by simp)
    · cases h
  · intro h
    unfold HyperServerProc.onServed at h
    split at h
    · split at h <;> cases h
      exact .conn rfl (by simp)
    · cases h

/-- **Every step is one of `Moves`.** -/
theorem moves_of_step {e : Ev M} (h : s.step urlIsSsl adaptor e = some (s', os)) :
    Moves urlIsSsl adaptor s e s' os := by
  cases e with
  | internal m =>
    obtain ⟨q, hq, he⟩ := Option.map_eq_some_iff.1 h
    cases he
    exact .internal hq
  | queueSend i m =>
    obtain ⟨q, hq, he⟩ := Option.map_eq_some_iff.1 h
    cases he
    exact .queueSend hq
  | queueRecv i =>
    obtain ⟨⟨m, q⟩, hq, he⟩ := Option.map_eq_some_iff.1 h
    cases he
    exact .queueRecv hq
  | queueClosed i => cases h; exact .queueClosed
  | drawn => cases h; exact .drawn
  | elapse id =>
    obtain ⟨p, hp, he⟩ := Option.map_eq_some_iff.1 h
    cases he
    exact .elapse hp
  | started r =>
    simp only [HyperServerProc.step, HyperServerProc.onStarted] at h
    split at h
    · rename_i hp
      cases r <;> cases h
      · exact .startFailed hp
      · exact .started hp rfl
    · cases h
  | bound r =>
    simp only [HyperServerProc.step, HyperServerProc.onBound] at h
    split at h
    · rename_i hp
      cases r <;> cases h
      · exact .bindFailed hp
      · exact .bound hp
    · cases h
  | recv => exact moves_recv h
  | recvHttp sel => exact moves_recvHttp h
  | sent => exact moves_sent h
  | accept r =>
    simp only [HyperServerProc.step, HyperServerProc.onAccept] at h
    split at h
    · rename_i hp
      cases r <;> cases h
      · exact .acceptFailed hp
      · exact .accepted hp
    · cases h
  | pull id => exact moves_pull h
  | procRemoved ok =>
    simp only [HyperServerProc.step, HyperServerProc.onProcRemoved] at h
    split at h
    · rename_i hp
      cases ok <;> cases h
      · exact .procRemoveFailed hp
      · exact .procRemoved hp
    · cases h
  | handshaken i r => exact moves_conn.1 h
  | served i => exact (moves_conn (r := .error "")).2 h
  | call i =>
    simp only [HyperServerProc.step, HyperServerProc.onCall] at h
    split at h
    · rename_i isHttp2 hc
      split at h
      · rename_i hb
        cases h
        exact .call hc rfl (by simpa using hb)
      · cases h
    · cases h
  | processed c resp => exact moves_processed h
  | callSent c => exact moves_callSent h
  | callAnswered c => exact moves_callAnswered h
  | callCancelled c => exact moves_callCancelled h

/-! ## The outputs of connection tasks and calls -/

/-- An output of a connection task or of a call about itself. -/
def Out.plain : Out M → Bool
  | .completed _ _ | .count _ _ | .socket _ _ => true
  | _ => false

theorem plain_socket (h : ∀ o ∈ os, ∃ delta version, o = .socket delta version) {o : Out M}
    (hm : o ∈ os) : o.plain = true := by
  obtain ⟨delta, version, rfl⟩ := h o hm
  rfl

theorem plain_completed {c : Nat} {res : Except HttpError Response}
    (h : ∀ o ∈ os, ∃ code version, o = .count code version) {o : Out M}
    (hm : o ∈ os ++ [.completed c res]) : o.plain = true := by
  rcases List.mem_append.1 hm with hm | hm
  · obtain ⟨code, version, rfl⟩ := h o hm
    rfl
  · cases List.mem_singleton.1 hm
    rfl

/-! ## The replies -/

/-- The replies of a step from `s`: the place, the message that is answered and the answer. -/
inductive Replies (s : HyperServerProc M) : Ev M → Site → RequestMsg M → InternalMsg M → Prop
  | response {msg : ResponseMsg M} {q : Chan (InternalMsg M)} {hyperMsg : RequestMsg M} {data : M} :
      s.internalRxQueue.recv = some (.response msg, q) →
      s.pendingReq.msgs.lookup msg.id = some hyperMsg → msg.data = some data →
      Replies s .recv .response hyperMsg (hyperMsg.returnToSender data)
  | error {errMsg : ErrorMsg M} {q : Chan (InternalMsg M)} {hyperErrMsg : RequestMsg M} :
      s.internalRxQueue.recv = some (.error errMsg, q) →
      s.pendingReq.msgs.lookup errMsg.id = some hyperErrMsg →
      Replies s .recv .responseErr hyperErrMsg
        (hyperErrMsg.returnErrorToSender errMsg.data errMsg.err)
  | timeout {id : Nat} {msg : RequestMsg M} : id ∈ s.pendingReq.expired →
      s.pendingReq.msgs.lookup id = some msg →
      Replies s (.pull id) .timeout msg.takeData.2 (msg.takeData.2.returnErrorToSender msg.data
        (.timeout msg.service s.settings.serviceTimeout))
  | unable {sel : Option Nat} {httpMsg : RequestMsg M} {q : Chan (RequestMsg M)} :
      s.httpRx.recv = some (httpMsg, q) → sel = none ∨ httpMsg.data = none →
      Replies s (.recvHttp sel) .unable httpMsg.takeData.2
        (httpMsg.takeData.2.returnErrorToSender httpMsg.data
          (.unableToReachService httpMsg.service))

theorem replied_notMem_leave {s : HyperServerProc M} {pc : RunPc M} {site : Site}
    {msg : RequestMsg M} {a : InternalMsg M} : .replied site msg a ∉ (s.leave pc).2 := by
  simp [HyperServerProc.leave]

/-- **Every reply is one of `Replies`.** -/
theorem reply_of_step {e : Ev M} (h : s.step urlIsSsl adaptor e = some (s', os)) {site : Site}
    {msg : RequestMsg M} {a : InternalMsg M} (ho : .replied site msg a ∈ os) :
    Replies s e site msg a := by
  cases moves_of_step h with
  | recvData _ hq hl hd =>
    have he := (List.mem_cons.1 ho).resolve_left (by simp)
    cases List.mem_singleton.1 he
    exact .response hq hl hd
  | recvError _ hq hl =>
    have he := (List.mem_cons.1 ho).resolve_left (by simp)
    cases List.mem_singleton.1 he
    exact .error hq hl
  | pulled _ he hl =>
    cases List.mem_singleton.1 ho
    exact .timeout he hl
  | refuse _ hq _ hn =>
    cases List.mem_singleton.1 ho
    exact .unable hq hn
  | startFailed | bindFailed | sendFailed | acceptFailed | procRemoveFailed =>
    exact absurd ho replied_notMem_leave
  | recvPanic | procRemoved =>
    exact absurd ((List.mem_cons.1 ho).resolve_left (by simp)) replied_notMem_leave
  | conn _ hc => cases plain_socket hc ho
  | processed _ _ hc => cases plain_completed hc ho
  | callAnswered => cases plain_completed (countRes_counts _) ho
  | _ => simp at ho

end

end Server
