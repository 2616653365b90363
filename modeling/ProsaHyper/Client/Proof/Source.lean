import ProsaHyper.Client.Proof.Books
import ProsaHyper.Client.Proof.Sessions
import ProsaHyper.Client.Proof.Tasks

/-!
# Where an answer comes from

What both loops keep for the message they work on: the request their queue accepted, the HTTP
request the adaptor made of its data, and the outcome of that exchange. Nothing else goes into the
answer, whatever the other exchanges of the socket do.

* `sourced_of_run`: the invariant, place by place.
* `answers_explained`: each answer of a socket is made of the request it answers.
-/

set_option autoImplicit false

namespace Client

open Prosa Http

variable {M Req : Type}

/-- `process_srv_request` of `adaptor` is called. -/
def Ev.prepares (adaptor : HyperClientAdaptor M Req) : Ev M Req → Prop
  | .recv a | .task _ (.start a) => a = adaptor
  | _ => False

/-- The request whose exchange an event resolves, and the outcome. -/
def Ev.outcome? (s : Sock M) : Ev M Req → Option (RequestMsg M × Except HyperError Response)
  | .response resp _ => s.pc.hand.map (·, resp)
  | .task k (.response resp _) => (s.tasks[k]?).map fun x => (x.msg, resp)
  | _ => none

/-- `msg` is what is left of a request that the queue accepted, with the data `d`. -/
def Requested (os : List (Out M Req)) (msg : RequestMsg M) (d : M) : Prop :=
  ∃ r, .accepted (.request r) ∈ os ∧ r.data = some d ∧ msg = r.takeData.2

/-- `msg` was sent to the backend at `url`, as the HTTP request the adaptor made of its data. -/
structure Exchanged (tr : List (Rec (Sock M) (Ev M Req) (Out M Req))) (url : Url)
    (msg : RequestMsg M) (d : M) : Prop where
  requested : Requested (outs tr) msg d
  sent : ∃ r ∈ tr, ∃ adaptor req, r.ev.prepares adaptor ∧
    adaptor.processSrvRequest d url = .ok req ∧ .sendRequest msg req ∈ r.out

/-- The exchange of `msg` was answered with `resp`. -/
structure Resolved (tr : List (Rec (Sock M) (Ev M Req) (Out M Req))) (url : Url)
    (msg : RequestMsg M) (d : M) (resp : Except HyperError Response) : Prop
    extends Exchanged tr url msg d where
  outcome : ∃ r ∈ tr, r.ev.outcome? r.pre = some (msg, resp)

/-- What a spawned task works on. -/
def Exchange.Sourced (x : Exchange M) (tr : List (Rec (Sock M) (Ev M Req) (Out M Req)))
    (url : Url) : Prop :=
  match x.pc with
  | .start d => Requested (outs tr) x.msg d
  | .sending _ => ∃ d, Exchanged tr url x.msg d
  | .processing b => ∃ d, Resolved tr url x.msg d b.resp
  | .finished => True

/-- What a socket works on. -/
structure Sourced (tr : List (Rec (Sock M) (Ev M Req) (Out M Req))) (s : Sock M) : Prop where
  queued : ∀ r, .request r ∈ s.rxQueue.buf → .accepted (.request r) ∈ outs tr
  flight : ∀ x, s.pc = .inFlight x → ∃ d, Exchanged tr s.self.target.url x.msg d
  processing : ∀ msg b, s.pc = .processing msg b → ∃ d, Resolved tr s.self.target.url msg d b.resp
  tasks : ∀ x ∈ s.tasks, x.Sourced tr s.self.target.url

section
variable {tr tr' : List (Rec (Sock M) (Ev M Req) (Out M Req))} {url : Url} {msg : RequestMsg M}
  {d : M} (hs : ∀ r ∈ tr, r ∈ tr')
include hs

theorem outs_mono {o : Out M Req} (ho : o ∈ outs tr) : o ∈ outs tr' := by
  obtain ⟨r, hm, ho⟩ := mem_outs.1 ho
  exact mem_outs.2 ⟨r, hs r hm, ho⟩

theorem Requested.mono (h : Requested (outs tr) msg d) : Requested (outs tr') msg d := by
  obtain ⟨r, ho, hd, hmsg⟩ := h
  exact ⟨r, outs_mono hs ho, hd, hmsg⟩

theorem Exchanged.mono (h : Exchanged tr url msg d) : Exchanged tr' url msg d := by
  obtain ⟨hreq, r, hm, hsent⟩ := h
  exact ⟨hreq.mono hs, r, hs r hm, hsent⟩

theorem Resolved.mono {resp : Except HyperError Response} (h : Resolved tr url msg d resp) :
    Resolved tr' url msg d resp := by
  obtain ⟨hex, r, hm, hout⟩ := h
  exact ⟨hex.mono hs, r, hs r hm, hout⟩

theorem Exchange.Sourced.mono {x : Exchange M} (h : x.Sourced tr url) : x.Sourced tr' url := by
  unfold Exchange.Sourced at h ⊢
  cases hp : x.pc with
  | start => rw [hp] at h; exact h.mono hs
  | sending => rw [hp] at h; exact h.imp fun _ h => h.mono hs
  | processing => rw [hp] at h; exact h.imp fun _ h => h.mono hs
  | finished => trivial

end

section
variable {s s' : Sock M} {e : Ev M Req} {os : List (Out M Req)}

/-- A queued request was queued before, or was just accepted. -/
theorem queued_of_step {r : RequestMsg M} (h : s.step e = some (s', os))
    (hm : .request r ∈ s'.rxQueue.buf) :
    .request r ∈ s.rxQueue.buf ∨ .accepted (.request r) ∈ os := by
  cases moves_of_step h with
  | send _ _ hq =>
    rw [(Chan.send_eq_some hq).2.2.1] at hm
    rcases List.mem_append.1 hm with hm | hm
    · exact .inl hm
    · exact .inr (by rw [List.mem_singleton.1 hm]; exact List.mem_cons_self)
  | recvSend _ _ hq | recvSpawn _ _ hq | recvRefuse _ _ hq | recvNoData _ hq | recvIgnored _ hq
  | recvShutdown _ hq | drainRequest _ hq | drainOther _ hq =>
    rw [(Chan.recv_eq_some hq).1]
    exact .inl (List.mem_cons_of_mem _ hm)
  | connectFailed | handshakeFailed | procQueueFailed | serviceFailed | connOkPanic | recvPanic
  | recvClosedPanic | removeFailed | returned | aborted => cases hm
  | _ => exact .inl hm

/-- A request that is received was queued. -/
theorem queued_of_received {r : RequestMsg M} (h : s.step e = some (s', os))
    (ho : .received r ∈ os) : .request r ∈ s.rxQueue.buf := by
  have answered {msg : RequestMsg M} {res : Except ServiceError M} :
      (.received r : Out M Req) ≠ answerReply msg res := by
    cases res <;> simp [answerReply]
  cases mem_step h ho with
  | received _ hq =>
    rw [(Chan.recv_eq_some hq).1]
    exact List.mem_cons_self
  | responded _ _ he => exact absurd he answered
  | task _ ht =>
    cases ht with
    | responded _ he => exact absurd he answered

/-- The request in flight was in flight before, or was just made of one in the queue. -/
theorem flight_of_step {x : InFlight M} (h : s.step e = some (s', os)) (hp : s'.pc = .inFlight x) :
    (∃ y, s.pc = .inFlight y ∧ y.msg = x.msg) ∨
      ∃ r d adaptor req, .request r ∈ s.rxQueue.buf ∧ r.data = some d ∧ x.msg = r.takeData.2 ∧
        e.prepares adaptor ∧ adaptor.processSrvRequest d s.self.target.url = .ok req ∧
        .sendRequest x.msg req ∈ os := by
  cases moves_of_step h with
  | @recvSend a _ r d req _ _ _ hq hd hreq =>
    cases hp
    refine .inr ⟨r, d, a, req, ?_, hd, rfl, rfl, hreq, by simp⟩
    rw [(Chan.recv_eq_some hq).1]
    exact List.mem_cons_self
  | connOkInFlight hp' =>
    cases hp
    exact .inl ⟨_, hp', rfl⟩
  | send | dropSenders | ioDropped | connPending | exchangeEnded | answeredEarly | task =>
    exact .inl ⟨x, hp, rfl⟩
  | drainRequest hp' | drainOther hp' => cases hp'.symm.trans hp
  | _ => cases hp

/-- A spawned task keeps track of what it works on. -/
theorem exchange_sourced {tr : List (Rec (Sock M) (Ev M Req) (Out M Req))} {k : Nat}
    {te : TaskEv M Req} {x x' : Exchange M} (hx : x.Sourced tr s.self.target.url)
    (hk : s.tasks[k]? = some x)
    (h : x.step s.self s.serviceName s.conn.completed.isNone te = some (x', os)) :
    x'.Sourced (tr ++ [⟨s, .task k te, os, s'⟩]) s.self.target.url := by
  have hold : x.Sourced (tr ++ [⟨s, .task k te, os, s'⟩]) s.self.target.url :=
    hx.mono fun r hm => List.mem_append_left _ hm
  have hlast : (⟨s, .task k te, os, s'⟩ : Rec (Sock M) (Ev M Req) (Out M Req)) ∈
      tr ++ [⟨s, .task k te, os, s'⟩] := List.mem_append_right _ List.mem_cons_self
  unfold Exchange.Sourced at hold
  cases taskMoves_of_step h with
  | @sent a d req hp hreq =>
    rw [hp] at hold
    exact ⟨d, hold, _, hlast, a, req, rfl, hreq, List.mem_cons_self⟩
  | refused | elapsed | responded => trivial
  | @response r n _ hp =>
    rw [hp] at hold
    obtain ⟨d, hex⟩ := hold
    exact ⟨d, hex, _, hlast, by rw [Ev.outcome?, hk]; rfl⟩
  | @frame b b' hp hb =>
    rw [hp] at hold
    obtain ⟨d, hres⟩ := hold
    refine ⟨d, ?_⟩
    have hresp : b'.deliver.resp = b.resp := (Reading.resp_arrive hb :)
    rw [hresp]
    exact hres
  | bodyPoll hp hb =>
    rw [hp] at hold
    obtain ⟨d, hres⟩ := hold
    refine ⟨d, ?_⟩
    rw [Reading.resp_poll hb]
    exact hres

/-- **A step keeps track** of what the socket works on. -/
theorem step_sourced {tr : List (Rec (Sock M) (Ev M Req) (Out M Req))} (hs : Sourced tr s)
    (h : s.step e = some (s', os)) : Sourced (tr ++ [⟨s, e, os, s'⟩]) s' := by
  have grow : ∀ r ∈ tr, r ∈ tr ++ [⟨s, e, os, s'⟩] := fun r hm => List.mem_append_left _ hm
  have hlast : (⟨s, e, os, s'⟩ : Rec (Sock M) (Ev M Req) (Out M Req)) ∈
      tr ++ [⟨s, e, os, s'⟩] := List.mem_append_right _ List.mem_cons_self
  have hurl : s'.self.target.url = s.self.target.url := by rw [step_target h]
  refine ⟨fun r hm => ?_, fun x hp => ?_, fun msg b hp => ?_, fun x hm => ?_⟩
  · rcases queued_of_step h hm with hm | hm
    · exact outs_mono grow (hs.queued r hm)
    · exact mem_outs.2 ⟨_, hlast, hm⟩
  · rw [hurl]
    rcases flight_of_step h hp with ⟨y, hy, hmsg⟩ | ⟨r, d, a, req, hq, hd, hmsg, hprep, hreq, hsent⟩
    · obtain ⟨d, hex⟩ := hs.flight y hy
      rw [← hmsg]
      exact ⟨d, hex.mono grow⟩
    · exact ⟨d, ⟨r, outs_mono grow (hs.queued r hq), hd, hmsg⟩, _, hlast, a, req, hprep, hreq,
        hsent⟩
  · rw [hurl]
    rcases step_processing_resp h hp with ⟨b', hb, hresp⟩ | ⟨x, n, hx, rfl, rfl, -⟩
    · obtain ⟨d, hres⟩ := hs.processing msg b' hb
      rw [← hresp]
      exact ⟨d, hres.mono grow⟩
    · obtain ⟨d, hex⟩ := hs.flight x hx
      exact ⟨d, hex.mono grow, _, hlast, by simp [Ev.outcome?, hx]⟩
  · rw [hurl]
    rcases step_tasks h with ⟨k, te, y, y', rfl, hk, hst, ht⟩ | ⟨-, ht | ⟨r, d, hrec, hd, ht⟩⟩
    · rw [ht] at hm
      rcases List.mem_or_eq_of_mem_set hm with hm | rfl
      · exact (hs.tasks x hm).mono grow
      · exact exchange_sourced (hs.tasks y (List.mem_of_getElem? hk)) hk hst
    · rw [ht] at hm
      exact (hs.tasks x hm).mono grow
    · rw [ht] at hm
      rcases List.mem_append.1 hm with hm | hm
      · exact (hs.tasks x hm).mono grow
      · cases List.mem_singleton.1 hm
        exact ⟨r, outs_mono grow (hs.queued r (queued_of_received h hrec)), hd, rfl⟩

end

/-- **What a socket works on** comes from the requests its queue accepted. -/
theorem sourced_of_run {s : Sock M} {tr : List (Rec (Sock M) (Ev M Req) (Out M Req))}
    (hr : (socketMachine M Req).Run tr s) : Sourced tr s := by
  induction hr with
  | start hi =>
    obtain ⟨self, name, rfl⟩ := hi
    exact ⟨fun _ h => (by cases h), fun _ h => (by cases h), fun _ _ h => (by cases h),
      fun _ h => (by cases h)⟩
  | next _ hst ih => exact step_sourced ih hst

/-! ## The answers -/

/-- Why the event `e` of the socket `s`, after the history `tr`, answers `msg` with `a` from
`site`. -/
inductive Answer (tr : List (Rec (Sock M) (Ev M Req) (Out M Req))) (s : Sock M) (e : Ev M Req)
    (msg : RequestMsg M) : Site → InternalMsg M → Prop
  | response {d d' : M} {adaptor : HyperClientAdaptor M Req} {resp : Except HyperError Response} :
      Resolved tr s.self.target.url msg d resp → e.responds adaptor →
      adaptor.processHttpResponse resp = .ok d' →
      Answer tr s e msg .response (msg.returnToSender d')
  | responseErr {d : M} {adaptor : HyperClientAdaptor M Req} {resp : Except HyperError Response}
      {err : ServiceError} : Resolved tr s.self.target.url msg d resp → e.responds adaptor →
      adaptor.processHttpResponse resp = .error err →
      Answer tr s e msg .responseErr (msg.returnErrorToSender none err)
  | timeout {d : M} : Exchanged tr s.self.target.url msg d → Answer tr s e msg .timeout
      (msg.returnErrorToSender none (.timeout s.serviceName s.self.httpTimeout))
  | srvRequestErr {d : M} {adaptor : HyperClientAdaptor M Req} {err : ServiceError} :
      Requested (outs tr) msg d → e.prepares adaptor →
      adaptor.processSrvRequest d s.self.target.url = .error err →
      Answer tr s e msg .srvRequestErr (msg.returnErrorToSender none err)
  | noData {r : RequestMsg M} : .accepted (.request r) ∈ outs tr → r.data = none →
      msg = r.takeData.2 → Answer tr s e msg .noData
        (msg.returnErrorToSender none (.unableToReachService s.serviceName))
  | drain : .accepted (.request msg) ∈ outs tr → Answer tr s e msg .drain
      (msg.returnErrorToSender none (.unableToReachService s.serviceName))

section
variable {s s' : Sock M} {e : Ev M Req} {os : List (Out M Req)}
  {tr : List (Rec (Sock M) (Ev M Req) (Out M Req))} {site : Site} {msg msg' : RequestMsg M}
  {a : InternalMsg M}

/-- The answer the adaptor made of an outcome. -/
theorem Answer.of_resolved {d : M} {adaptor : HyperClientAdaptor M Req}
    {resp : Except HyperError Response} (hres : Resolved tr s.self.target.url msg' d resp)
    (he : e.responds adaptor) (ho : (.replied site msg a : Out M Req) =
      answerReply msg' (adaptor.processHttpResponse resp)) : Answer tr s e msg site a := by
  cases hr : adaptor.processHttpResponse resp with
  | ok d' =>
    rw [hr] at ho
    cases ho
    exact .response hres he hr
  | error err =>
    rw [hr] at ho
    cases ho
    exact .responseErr hres he hr

/-- **A step answers** the message it works on. -/
theorem answer_of_step (hs : Sourced tr s) (h : s.step e = some (s', os))
    (ho : .replied site msg a ∈ os) : Answer tr s e msg site a := by
  have queued {m : InternalMsg M} {q : Chan (InternalMsg M)} (hq : s.rxQueue.recv = some (m, q)) :
      m ∈ s.rxQueue.buf := by
    rw [(Chan.recv_eq_some hq).1]
    exact List.mem_cons_self
  cases moves_of_step h with
  | recvRefuse _ _ hq hd hreq =>
    cases List.mem_singleton.1 ((List.mem_cons.1 ho).resolve_left (by simp))
    exact .srvRequestErr ⟨_, hs.queued _ (queued hq), hd, rfl⟩ rfl hreq
  | recvNoData _ hq hd =>
    cases List.mem_singleton.1 ((List.mem_cons.1 ho).resolve_left (by simp))
    exact .noData (hs.queued _ (queued hq)) hd rfl
  | @elapsed x hp =>
    cases List.mem_singleton.1 ho
    obtain ⟨d, hex⟩ := hs.flight x hp
    exact .timeout hex
  | @responded _ msg b hp =>
    obtain ⟨d, hres⟩ := hs.processing msg b hp
    exact .of_resolved hres rfl (List.mem_singleton.1 ho)
  | drainRequest _ hq =>
    cases List.mem_singleton.1 ((List.mem_cons.1 ho).resolve_left (by simp))
    exact .drain (hs.queued _ (queued hq))
  | @task k te x x' _ hk hst =>
    have hx := hs.tasks x (List.mem_of_getElem? hk)
    unfold Exchange.Sourced at hx
    cases taskMoves_of_step hst with
    | refused hp hreq =>
      rw [hp] at hx
      cases List.mem_singleton.1 ho
      exact .srvRequestErr hx rfl hreq
    | elapsed hp =>
      rw [hp] at hx
      cases List.mem_singleton.1 ho
      obtain ⟨d, hex⟩ := hx
      exact .timeout hex
    | responded hp =>
      rw [hp] at hx
      obtain ⟨d, hres⟩ := hx
      exact .of_resolved hres rfl (List.mem_singleton.1 ho)
    | @response r => cases r <;> cases List.mem_singleton.1 ho
    | _ => simp at ho
  | connOkPanic =>
    rcases List.mem_append.1 ho with ho | ho
    · exact absurd ho replied_notMem_repolls
    · exact absurd ho replied_notMem_drops
  | recvPanic => exact absurd ho replied_notMem_drops
  | @response _ r => cases r <;> cases List.mem_singleton.1 ho
  | _ =>
    first
    | exact absurd ho replied_notMem_drops
    | exact absurd ho replied_notMem_repolls
    | simp at ho

end

/-! ## The settings of a socket -/

section
variable {urlIsSsl : Url → Bool} {s s' : HyperClientProc M} {e : ProcEv M Req}
  {os : List (ProcOut M Req)}

/-- The settings are given once. -/
theorem step_settings (h : s.step urlIsSsl e = some (s', os)) : s'.settings = s.settings := by
  cases procMoves_of_step h <;> rfl

theorem settings_of_run {s₀ : HyperClientProc M}
    {tr : List (Rec (HyperClientProc M) (ProcEv M Req) (ProcOut M Req))}
    (hr : ((clientMachine M Req urlIsSsl).startAt s₀).Run tr s) : s.settings = s₀.settings := by
  induction hr with
  | start hi => rw [show _ = s₀ from hi]
  | next _ hst ih => rw [step_settings hst, ih]

theorem settings_of_mem {tr : List (Rec (HyperClientProc M) (ProcEv M Req) (ProcOut M Req))}
    (hr : (clientMachine M Req urlIsSsl).Run tr s)
    {r : Rec (HyperClientProc M) (ProcEv M Req) (ProcOut M Req)} (hm : r ∈ tr) :
    s.settings = r.pre.settings := by
  obtain ⟨ta, tb, rfl⟩ := List.append_of_mem hm
  obtain ⟨-, hst, hrest⟩ := hr.split
  rw [settings_of_run hrest, step_settings hst]

theorem HyperClientSocket.new_url (target : TargetSetting) (httpTimeout : Nat) :
    (HyperClientSocket.new urlIsSsl target httpTimeout).target.url = target.url := by
  unfold HyperClientSocket.new
  dsimp only
  split
  · rfl
  · split <;> rfl

/-- What the socket `x` was set up with: the service it offers, its timeout, and its backend. -/
structure Configured (settings : HyperClientSettings) (x : Sock M) : Prop where
  name : x.serviceName = settings.serviceName
  limit : x.self.httpTimeout = settings.httpTimeout
  backend : ∃ b ∈ settings.backends, x.self.target.url = b.url

/-- Every socket offers the service of the processor. -/
theorem step_named (hs : ∀ t ∈ s.clientSockets, t.sock.serviceName = s.settings.serviceName)
    (h : s.step urlIsSsl e = some (s', os)) :
    ∀ t ∈ s'.clientSockets, t.sock.serviceName = s'.settings.serviceName := by
  have joined {i : Nat} {t : SockTask M} (ht : s.clientSockets[i]? = some t) :
      ∀ t' ∈ s.clientSockets.set i { t with joined := true },
        t'.sock.serviceName = s.settings.serviceName :=
    forall_mem_set hs (hs t (List.mem_of_getElem? ht))
  have dropped : ∀ t' ∈ s.clientSockets.map fun t => { t with aborting := !t.joined },
      t'.sock.serviceName = s.settings.serviceName := by
    intro t' ht'
    obtain ⟨t, ht, rfl⟩ := List.mem_map.1 ht'
    exact hs t ht
  cases procMoves_of_step h with
  | created =>
    intro t ht
    rcases List.mem_append.1 ht with ht | ht
    · exact hs t ht
    · obtain ⟨b, i, -, rfl⟩ := create_cases ht
      rfl
  | recvPanic | recvClosedPanic | returned => exact dropped
  | respawned _ ht =>
    intro t' ht'
    rcases List.mem_append.1 ht' with ht' | ht'
    · exact joined ht t' ht'
    · rw [List.mem_singleton.1 ht']
      rfl
  | joinedErr _ ht | joinError _ ht => exact joined ht
  | @sock i e t x os ht _ _ hx =>
    refine forall_mem_set hs ?_
    rw [show x.serviceName = t.sock.serviceName from (step_names hx).1]
    exact hs t (List.mem_of_getElem? ht)
  | _ => exact hs

/-- **Every socket is configured** by the settings of the processor. -/
theorem configured_of_run {tr : List (Rec (HyperClientProc M) (ProcEv M Req) (ProcOut M Req))}
    (hr : (clientMachine M Req urlIsSsl).Run tr s) {i : Nat} {t : SockTask M}
    (ht : s.clientSockets[i]? = some t) : Configured s.settings t.sock := by
  have hnamed : ∀ t ∈ s.clientSockets, t.sock.serviceName = s.settings.serviceName := by
    refine hr.state_invariant
      (I := fun s => ∀ t ∈ s.clientSockets, t.sock.serviceName = s.settings.serviceName) ?_
      fun _ _ _ _ hs hst => step_named hs hst
    rintro s ⟨settings, rfl⟩ t ht
    cases ht
  obtain ⟨socket, hcreated, hsess⟩ := (sessions_of_run hr).spawned i t ht
  obtain ⟨b, hb, rfl⟩ := Option.map_eq_some_iff.1 hcreated
  refine ⟨hnamed t (List.mem_of_getElem? ht), by rw [hsess.self]; rfl, b,
    List.mem_of_getElem? hb, ?_⟩
  rw [hsess.self]
  exact HyperClientSocket.new_url b s.settings.httpTimeout

end

/-- The answer `a` to `msg` comes from socket `i`, which has the history `own`, as the steps of the
processor show it. -/
structure Explained (urlIsSsl : Url → Bool)
    (ta : List (Rec (HyperClientProc M) (ProcEv M Req) (ProcOut M Req)))
    (r : Rec (HyperClientProc M) (ProcEv M Req) (ProcOut M Req)) (i : Nat) (site : Site)
    (msg : RequestMsg M) (a : InternalMsg M) (t : SockTask M) (e : Ev M Req)
    (own : List (Rec (Sock M) (Ev M Req) (Out M Req))) : Prop where
  here : r.pre.clientSockets[i]? = some t
  event : r.ev = .sock i e
  run : (socketMachine M Req).Run own t.sock
  shown : ∀ r' ∈ own, ∃ r ∈ ta, (sockets M Req urlIsSsl).Shows i r r'
  configured : Configured r.pre.settings t.sock
  answer : Answer own t.sock e msg site a

/-- **Every answer is explained**: in every run of the processor a request is answered with what its
own data and its own exchange give, or refused unsent. -/
theorem answers_explained {urlIsSsl : Url → Bool} {s : HyperClientProc M}
    {tr ta tb : List (Rec (HyperClientProc M) (ProcEv M Req) (ProcOut M Req))}
    {r : Rec (HyperClientProc M) (ProcEv M Req) (ProcOut M Req)}
    (hr : (clientMachine M Req urlIsSsl).Run tr s) (htr : tr = ta ++ r :: tb) {i : Nat}
    {site : Site} {msg : RequestMsg M} {a : InternalMsg M}
    (ho : .sock i (.replied site msg a) ∈ r.out) :
    ∃ t e own, Explained urlIsSsl ta r i site msg a t e own := by
  subst htr
  obtain ⟨hr₀, hst, -⟩ := hr.split
  obtain ⟨s₀, e, os, s₁⟩ := r
  have hst : s₀.step urlIsSsl e = some (s₁, os) := hst
  cases procMoves_of_step hst with
  | @sock j e t x os ht _ _ hx =>
    obtain ⟨o, hsock, heq⟩ := List.mem_map.1 ho
    cases heq
    have hcomp : ((sockets M Req urlIsSsl).comps s₀)[i]? = some t.sock := by
      simp [sockets, ht]
    obtain ⟨own, hrun, -, hshows⟩ := (sockets M Req urlIsSsl).project hr₀ hcomp
    exact ⟨t, e, own, ht, rfl, hrun, hshows, configured_of_run hr₀ ht,
      answer_of_step (sourced_of_run hrun) hx hsock⟩
  | _ => simp at ho

/-- The only socket gets the response to request 7. -/
def getsResponse : List (ProcEv Nat Nat) :=
  .started (.ok ()) :: registered.map (.sock 0) ++
    [.sock 0 (.send (.request ⟨7, "svc", some 1, 0⟩)), .sock 0 (.recv echo),
      .sock 0 (.response (.ok ⟨200, .http11, [], []⟩) 1)]

theorem getsResponse_explained : ∃ q r t e own,
    (clientMachine Nat Nat noSsl).exec (HyperClientProc.new oneBackend) getsResponse = some q ∧
      r.out = [.sock 0 (.replied .response ⟨7, "svc", none, 0⟩ (.response ⟨7, some 0⟩))] ∧
      Explained noSsl q.1 r 0 .response ⟨7, "svc", none, 0⟩ (.response ⟨7, some 0⟩) t e own := by
  have hsome : ((clientMachine Nat Nat noSsl).exec (HyperClientProc.new oneBackend)
    getsResponse).isSome = true := rfl
  have hrun := Machine.run_get (init_proc oneBackend noSsl) hsome
  have hstep : ∃ s, (clientMachine Nat Nat noSsl).step
      (((clientMachine Nat Nat noSsl).exec (HyperClientProc.new oneBackend)
        getsResponse).get hsome).2 (.sock 0 (.responded echo)) =
      some (s, [.sock 0 (.replied .response ⟨7, "svc", none, 0⟩ (.response ⟨7, some 0⟩))]) :=
    ⟨_, rfl⟩
  obtain ⟨s, hstep⟩ := hstep
  obtain ⟨t, e, own, hex⟩ := answers_explained (hrun.next hstep) rfl List.mem_cons_self
  exact ⟨_, _, t, e, own, (Option.some_get hsome).symm, rfl, hex⟩

end Client
