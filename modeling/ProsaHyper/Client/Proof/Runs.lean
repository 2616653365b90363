import ProsaHyper.Client.Proof.Balance

/-!
# What every run of a socket keeps

* `accepted_eq`: an id is accepted at most once, so it is taken and replied to at most once.
* `answers_of_run`: what a reply says depends on the place it comes from only.
* `shape_of_run`: HTTP/1 spawns no task; a task that is over has no queue.
* `regs_of_run`: what is registered on the bus follows from where the task is.
-/

set_option autoImplicit false

namespace Client

open Prosa Http

variable {M Req : Type} {s s' : Sock M} {e : Ev M Req} {os : List (Out M Req)}

theorem init_new (self : HyperClientSocket) (name : String) :
    (socketMachine M Req).init (Sock.new self name) := ⟨self, name, rfl⟩

@[simp] theorem tally_drops (f : Out M Req → Nat) (s : Sock M) :
    tally f s.drops = tally (fun msg => f (.dropped msg)) s.pc.hand.toList +
      tally (fun msg => f (.discarded msg)) (s.rxQueue.buf.filterMap InternalMsg.request?) := by
  simp [Sock.drops, tally_map]

theorem mem_drops {o : Out M Req} (h : o ∈ s.drops) :
    ∃ msg, (s.pc.hand = some msg ∧ o = .dropped msg) ∨
      .request msg ∈ s.rxQueue.buf ∧ o = .discarded msg := by
  simp only [Sock.drops, List.mem_append, List.mem_map, Option.mem_toList,
    List.mem_filterMap] at h
  rcases h with ⟨msg, hm, rfl⟩ | ⟨msg, ⟨m, hm, hr⟩, rfl⟩
  · exact ⟨msg, .inl ⟨hm, rfl⟩⟩
  · cases m <;> cases hr
    exact ⟨msg, .inr ⟨hm, rfl⟩⟩

theorem replied_notMem_drops {site : Site} {msg : RequestMsg M} {a : InternalMsg M} :
    (.replied site msg a : Out M Req) ∉ s.drops := by
  intro h
  obtain ⟨m, ⟨-, hm⟩ | ⟨-, hm⟩⟩ := mem_drops h <;> cases hm

theorem replied_notMem_repolls {site : Site} {msg : RequestMsg M} {a : InternalMsg M} :
    (.replied site msg a : Out M Req) ∉ s.repolls := by
  unfold Sock.repolls
  split <;> simp

/-- The outputs of a spawned task: it sends, replies or records. -/
inductive TaskOut (x : Exchange M) (self : HyperClientSocket) (name : String) :
    TaskEv M Req → Out M Req → Prop
  | sent {a : HyperClientAdaptor M Req} {req : Req} :
      TaskOut x self name (.start a) (.sendRequest x.msg req)
  | refused {a : HyperClientAdaptor M Req} {err : ServiceError} : TaskOut x self name (.start a)
      (.replied .srvRequestErr x.msg (x.msg.returnErrorToSender none err))
  | recorded {r : Except HyperError Response} {n code : Nat} {version : String} :
      TaskOut x self name (.response r n) (.record code version)
  | timedOut : TaskOut x self name .elapsed (.replied .timeout x.msg
      (x.msg.returnErrorToSender none (.timeout name self.httpTimeout)))
  | responded {a : HyperClientAdaptor M Req} {resp : Except HyperError Response}
      {r : Except ServiceError M} {o : Out M Req} : a.processHttpResponse resp = r →
      o = answerReply x.msg r → TaskOut x self name (.responded a) o

theorem mem_exchange {x x' : Exchange M} {self : HyperClientSocket} {name : String} {alive : Bool}
    {e : TaskEv M Req} (h : x.step self name alive e = some (x', os)) {o : Out M Req}
    (ho : o ∈ os) : TaskOut x self name e o := by
  cases taskMoves_of_step h with
  | sent =>
    cases List.mem_singleton.1 ho
    exact .sent
  | refused =>
    cases List.mem_singleton.1 ho
    exact .refused
  | @response r =>
    cases r <;> cases List.mem_singleton.1 ho <;> exact .recorded
  | elapsed =>
    cases List.mem_singleton.1 ho
    exact .timedOut
  | frame | bodyPoll => cases ho
  | responded => exact .responded rfl (List.mem_singleton.1 ho)

/-- The outputs of a step, with what they come from. -/
inductive StepOut (s : Sock M) : Ev M Req → Out M Req → Prop
  | accepted {m : InternalMsg M} : StepOut s (.send m) (.accepted m)
  | received {a : HyperClientAdaptor M Req} {c : Bool} {r : RequestMsg M}
      {q : Chan (InternalMsg M)} : s.pc = .idle c true → s.rxQueue.recv = some (.request r, q) →
      StepOut s (.recv a) (.received r)
  | sent {a : HyperClientAdaptor M Req} {c : Bool} {r : RequestMsg M} {req : Req} :
      s.pc = .idle c true → StepOut s (.recv a) (.sendRequest r.takeData.2 req)
  | refused {a : HyperClientAdaptor M Req} {c : Bool} {r : RequestMsg M} {err : ServiceError} :
      s.pc = .idle c true → s.proto = .http1 → StepOut s (.recv a) (.replied .srvRequestErr
        r.takeData.2 (r.takeData.2.returnErrorToSender none err))
  | noData {a : HyperClientAdaptor M Req} {r : RequestMsg M} :
      StepOut s (.recv a) (.replied .noData r.takeData.2
        (r.takeData.2.returnErrorToSender none (.unableToReachService s.serviceName)))
  | recorded {r : Except HyperError Response} {n code : Nat} {version : String} :
      StepOut s (.response r n) (.record code version)
  | timedOut {x : InFlight M} : s.pc = .inFlight x →
      StepOut s .elapsed (.replied .timeout x.msg
        (x.msg.returnErrorToSender none (.timeout s.serviceName s.self.httpTimeout)))
  | responded {a : HyperClientAdaptor M Req} {msg : RequestMsg M} {b : Reading}
      {r : Except ServiceError M} {o : Out M Req} : s.pc = .processing msg b →
      a.processHttpResponse b.resp = r → o = answerReply msg r → StepOut s (.responded a) o
  | queueAdded : s.pc = .addProcQueue →
      StepOut s (.procQueueAdded true) (.bus (.addProcQueue s.socketId))
  | serviceAdded : s.pc = .addService →
      StepOut s (.serviceAdded true) (.bus (.addService s.serviceName s.socketId))
  | queueRemoved {msg : Option (RequestMsg M)} : s.pc = .removeProcQueue msg →
      StepOut s (.procQueueRemoved true) (.bus (.removeProcQueue s.socketId))
  | drained {r : RequestMsg M} : StepOut s .tryRecv (.drained r)
  | drainReply {r : RequestMsg M} : StepOut s .tryRecv (.replied .drain r
      (r.returnErrorToSender none (.unableToReachService s.serviceName)))
  | repolled {r : Option (Except HyperError Unit)} : StepOut s (.connection r) .repolled
  | dropped {e : Ev M Req} {msg : RequestMsg M} : s.pc.hand = some msg → StepOut s e (.dropped msg)
  | discarded {e : Ev M Req} {msg : RequestMsg M} : .request msg ∈ s.rxQueue.buf →
      StepOut s e (.discarded msg)
  | task {k : Nat} {e : TaskEv M Req} {x : Exchange M} {o : Out M Req} : s.tasks[k]? = some x →
      TaskOut x s.self s.serviceName e o → StepOut s (.task k e) o

theorem stepOut_drops {o : Out M Req} (ho : o ∈ s.drops) : StepOut s e o := by
  obtain ⟨msg, ⟨hm, rfl⟩ | ⟨hm, rfl⟩⟩ := mem_drops ho
  · exact .dropped hm
  · exact .discarded hm

theorem stepOut_repolls {o : Out M Req} {r : Option (Except HyperError Unit)}
    (ho : o ∈ s.repolls) : StepOut s (.connection r) o := by
  unfold Sock.repolls at ho
  split at ho
  · cases List.mem_singleton.1 ho
    exact .repolled
  · cases ho

/-- **Every output of a step is one of `StepOut`.** -/
theorem mem_step (h : s.step e = some (s', os)) {o : Out M Req} (ho : o ∈ os) :
    StepOut s e o := by
  cases moves_of_step h with
  | send =>
    cases List.mem_singleton.1 ho
    exact .accepted
  | procQueueAdded hp =>
    cases List.mem_singleton.1 ho
    exact .queueAdded hp
  | serviceAdded hp =>
    cases List.mem_singleton.1 ho
    exact .serviceAdded hp
  | removed hp =>
    cases List.mem_singleton.1 ho
    exact .queueRemoved hp
  | connPending | connErr | connOkIdle | connOkInFlight => exact stepOut_repolls ho
  | connOkPanic =>
    rcases List.mem_append.1 ho with ho | ho
    · exact stepOut_repolls ho
    · exact stepOut_drops ho
  | recvSend hp _ hq =>
    simp only [List.mem_cons, List.not_mem_nil, or_false] at ho
    rcases ho with rfl | rfl
    · exact .received hp hq
    · exact .sent hp
  | recvSpawn hp _ hq =>
    cases List.mem_singleton.1 ho
    exact .received hp hq
  | recvRefuse hp hpr hq =>
    simp only [List.mem_cons, List.not_mem_nil, or_false] at ho
    rcases ho with rfl | rfl
    · exact .received hp hq
    · exact .refused hp hpr
  | recvNoData hp hq =>
    simp only [List.mem_cons, List.not_mem_nil, or_false] at ho
    rcases ho with rfl | rfl
    · exact .received hp hq
    · exact .noData
  | @recvPanic _ _ m q hp hq =>
    obtain ⟨msg, ⟨hm, rfl⟩ | ⟨hm, rfl⟩⟩ := mem_drops ho
    · exact .dropped hm
    · refine .discarded ?_
      rw [(Chan.recv_eq_some hq).1]
      exact List.mem_cons_of_mem _ hm
  | @response _ r =>
    cases r <;> cases List.mem_singleton.1 ho <;> exact .recorded
  | elapsed hp =>
    cases List.mem_singleton.1 ho
    exact .timedOut hp
  | responded hp => exact .responded hp rfl (List.mem_singleton.1 ho)
  | drainRequest =>
    simp only [List.mem_cons, List.not_mem_nil, or_false] at ho
    rcases ho with rfl | rfl
    · exact .drained
    · exact .drainReply
  | task hx hst => exact .task hx (mem_exchange hst ho)
  | connectFailed | handshakeFailed | procQueueFailed | serviceFailed | recvClosedPanic
  | removeFailed | returned | aborted => exact stepOut_drops ho
  | _ => cases ho

/-! ## Identifiers -/

/-- The ids used are those accepted, and no id is used twice. -/
theorem step_used (id : Nat) (h : s.step e = some (s', os)) :
    s'.used.count id = s.used.count id + tally (acceptedOf id) os ∧
      (s.used.Nodup → s'.used.Nodup) := by
  cases moves_of_step h with
  | @send m q _ hf _ =>
    cases m with
    | request r =>
      refine ⟨?_, fun hn => List.nodup_cons.2 ⟨hf r rfl, hn⟩⟩
      simp [hit, List.count_cons]
    | _ => simp [msgHit]
  | @response x r _ _ _ => cases r <;> simp [recordOut]
  | @responded a _ b _ => cases a.processHttpResponse b.resp <;> simp [answerReply]
  | task _ hst => simp [(exchange_balanced id hst).2.2.2.1]
  | _ => simp [Sock.leave]

theorem accepted_eq {tr : List (Rec (Sock M) (Ev M Req) (Out M Req))}
    (hr : (socketMachine M Req).Run tr s) (id : Nat) :
    tally (acceptedOf id) (outs tr) = s.used.count id := by
  induction hr with
  | start hi =>
    obtain ⟨self, name, rfl⟩ := hi
    rfl
  | next _ hst ih =>
    have := (step_used id hst).1
    simp only [outs_append, outs_single, tally_append]
    omega

section
variable {tr : List (Rec (Sock M) (Ev M Req) (Out M Req))} (hr : (socketMachine M Req).Run tr s)
include hr

/-- **No request is accepted twice.** -/
theorem accepted_le (id : Nat) : tally (acceptedOf id) (outs tr) ≤ 1 := by
  rw [accepted_eq hr]
  refine List.nodup_iff_count.1 (hr.state_invariant (I := fun s => s.used.Nodup) ?_ ?_) id
  · rintro s ⟨self, name, rfl⟩
    exact List.nodup_nil
  · intro s e s' os hs hst
    exact (step_used 0 hst).2 hs

theorem taken_le (id : Nat) : tally (takenOf id) (outs tr) ≤ 1 :=
  Nat.le_trans ((queueCustody M Req).settled_le hr id) (accepted_le hr id)

theorem replied_le (id : Nat) : tally (repliedOf id) (outs tr) ≤ 1 :=
  Nat.le_trans ((handCustody M Req).settled_le hr id) (taken_le hr id)

end

/-! ## What a reply says -/

/-- The answer `a` to `msg` that comes from `site`. -/
def Site.says (site : Site) (name : String) (timeout : Nat) (msg : RequestMsg M)
    (a : InternalMsg M) : Prop :=
  match site with
  | .noData | .drain => a = msg.returnErrorToSender none (.unableToReachService name)
  | .timeout => a = msg.returnErrorToSender none (.timeout name timeout)
  | .response => ∃ d, a = msg.returnToSender d
  | .srvRequestErr | .responseErr => ∃ err, a = msg.returnErrorToSender none err

/-- **Every reply says what its place says.** -/
theorem step_answers (h : s.step e = some (s', os)) {site : Site} {msg : RequestMsg M}
    {a : InternalMsg M} (ho : .replied site msg a ∈ os) :
    site.says s.serviceName s.self.httpTimeout msg a := by
  have answered : ∀ {m : RequestMsg M} {r : Except ServiceError M},
      (.replied site msg a : Out M Req) = answerReply m r →
        site.says s.serviceName s.self.httpTimeout msg a := by
    intro m r he
    cases r <;> cases he <;> exact ⟨_, rfl⟩
  cases mem_step h ho with
  | refused => exact ⟨_, rfl⟩
  | noData | timedOut | drainReply => rfl
  | responded _ _ he => exact answered he
  | task _ ht =>
    cases ht with
    | refused => exact ⟨_, rfl⟩
    | timedOut => rfl
    | responded _ he => exact answered he

theorem step_names (h : s.step e = some (s', os)) :
    s'.serviceName = s.serviceName ∧ s'.self.httpTimeout = s.self.httpTimeout := by
  cases moves_of_step h <;> exact ⟨rfl, rfl⟩

theorem step_target (h : s.step e = some (s', os)) : s'.self.target = s.self.target := by
  cases moves_of_step h <;> rfl

theorem answers_of_run {tr : List (Rec (Sock M) (Ev M Req) (Out M Req))}
    (hr : (socketMachine M Req).Run tr s) {site : Site} {msg : RequestMsg M} {a : InternalMsg M}
    (ho : .replied site msg a ∈ outs tr) : site.says s.serviceName s.self.httpTimeout msg a := by
  induction hr with
  | start => cases ho
  | next _ hst ih =>
    rw [(step_names hst).1, (step_names hst).2]
    rcases List.mem_append.1 (by simpa using ho) with ho | ho
    · exact ih ho
    · exact step_answers hst ho

/-! ## Shape -/

/-- HTTP/1 spawns no task, and a task that is over has dropped its queue. What a task returns is the
socket as it stands. -/
structure Shape (s : Sock M) : Prop where
  fresh : s.pc = .connect → s.tasks = []
  http1 : s.proto = .http1 → s.tasks = []
  closed : s.pc.isOver = true → s.rxQueue.rx = false
  result : ∀ self, s.pc = .ended (.ok self) → self = s.self

theorem Shape.buf_nil (h : Shape s) (ho : s.pc.isOver = true) : s.rxQueue.buf = [] :=
  s.rxQueue.closed (h.closed ho)

theorem Shape.leave (h : Shape s) (pc : Pc M) (hp : pc ≠ .connect)
    (hr : ∀ self, pc = .ended (.ok self) → self = s.self) :
    Shape (s.leave pc : _ × List (Out M Req)).1 :=
  ⟨fun hc => absurd hc hp, h.http1, fun _ => rfl, hr⟩

theorem Shape.inside (hp : s.pc ≠ .connect) (h1 : s.proto = .http1 → s.tasks = [])
    (ho : s.pc.isOver = false) : Shape s :=
  ⟨fun hc => absurd hc hp, h1, fun h => by simp [ho] at h, fun _ h => by simp [h, Pc.isOver] at ho⟩

theorem step_shape (hs : Shape s) (h : s.step e = some (s', os)) : Shape s' := by
  obtain ⟨hf, h1, hc, hr⟩ := hs
  have hs : Shape s := ⟨hf, h1, hc, hr⟩
  cases moves_of_step h with
  | send _ _ hq =>
    refine ⟨hf, h1, fun ho => ?_, hr⟩
    have hrx := (Chan.send_eq_some hq).1
    rw [hc ho] at hrx
    cases hrx
  | dropSenders | ioDropped | connPending | exchangeEnded | answeredEarly => exact ⟨hf, h1, hc, hr⟩
  | connectedH2 hp => exact .inside (by simp) (fun h => by cases h) rfl
  | connectedHttp1 hp _ => exact .inside (by simp) (fun _ => hf hp) rfl
  | recvSpawn hp hpr _ _ =>
    have hne : s.proto ≠ .http1 := by simp [hpr]
    exact .inside (by simp) (fun h => absurd h hne) rfl
  | recvPanic | connOkPanic =>
    exact ⟨(fun h => by cases h), h1, fun _ => rfl, by simp [Sock.leave]⟩
  | drainRequest hp _ | drainOther hp _ _ =>
    exact ⟨hf, h1, fun ho => absurd ho (by simp [hp, Pc.isOver]), hr⟩
  | task hx _ =>
    have nil : s.tasks ≠ [] := fun hn => by simp [hn] at hx
    exact ⟨fun hp => absurd (hf hp) nil, fun hp => absurd (h1 hp) nil, hc, hr⟩
  | returned hp => exact hs.leave _ (by simp) fun self h => by cases h; rfl
  | _ => first | exact hs.leave _ (by simp) (by simp) | exact .inside (by simp) h1 rfl

theorem shape_of_run {tr : List (Rec (Sock M) (Ev M Req) (Out M Req))}
    (hr : (socketMachine M Req).Run tr s) : Shape s := by
  refine hr.state_invariant (I := Shape) ?_ fun _ _ _ _ hs hst => step_shape hs hst
  rintro s ⟨self, name, rfl⟩
  exact ⟨fun _ => rfl, fun _ => rfl, (fun h => by cases h), by simp [Sock.new]⟩

theorem Pc.polls_of_isOver {pc : Pc M} (h : pc.isOver = true) : pc.polls = [] := by
  cases pc <;> first | rfl | cases h

theorem Pc.isAwait_of_isOver {pc : Pc M} (h : pc.isOver = true) : pc.isAwait = false := by
  cases pc <;> first | rfl | cases h

/-- A task that is over stays as it is. -/
theorem step_over (ho : s.pc.isOver = true) (h : s.step e = some (s', os)) : s'.pc = s.pc := by
  cases moves_of_step h with
  | send | dropSenders | ioDropped | task | connPending | exchangeEnded | answeredEarly => rfl
  | connErr hp => simp [Pc.polls_of_isOver ho] at hp
  | aborted ha => simp [Pc.isAwait_of_isOver ho] at ha
  | _ => rename_i hp; simp_all [Pc.isOver]

/-! ## Registrations -/

theorem regs_append (owner : Nat) (b : Bus) (os os' : List (Out M Req)) :
    regs owner b (os ++ os') = regs owner (regs owner b os) os' := by
  simp [regs]

theorem regs_of_silent {os : List (Out M Req)} (h : ∀ o ∈ os, o.bus? = none) (owner : Nat)
    (b : Bus) : regs owner b os = b := by
  rw [regs, List.filterMap_eq_nil_iff.2 h]
  rfl

theorem bus?_drops {o : Out M Req} (h : o ∈ s.drops) : o.bus? = none := by
  obtain ⟨msg, ⟨-, rfl⟩ | ⟨-, rfl⟩⟩ := mem_drops h <;> rfl

theorem bus?_repolls {o : Out M Req} (h : o ∈ s.repolls) : o.bus? = none := by
  unfold Sock.repolls at h
  split at h <;> simp_all

theorem bus?_answerReply (msg : RequestMsg M) (r : Except ServiceError M) :
    (answerReply msg r : Out M Req).bus? = none := by
  cases r <;> rfl

theorem bus?_recordOut (r : Except HyperError Response) (v : String) :
    (recordOut r v : Out M Req).bus? = none := by
  cases r <;> rfl

theorem bus?_exchange {x x' : Exchange M} {self : HyperClientSocket} {name : String}
    {alive : Bool} {e : TaskEv M Req} (h : x.step self name alive e = some (x', os)) {o : Out M Req}
    (ho : o ∈ os) : o.bus? = none := by
  cases mem_exchange h ho with
  | responded _ he => rw [he, bus?_answerReply]
  | _ => rfl

/-- What is registered for a task of the queue `id`; `none` where it depends on the past. -/
def Pc.registration (owner : Nat) (name : String) (id : Nat) : Pc M → Option Bus
  | .connect | .handshake | .addProcQueue | .drain _ | .drained _ | .ended (.ok _) => some Bus.empty
  | .addService => some ⟨[(id, owner)], []⟩
  | .idle _ _ | .inFlight _ | .processing _ _ | .removeProcQueue _ =>
    some ⟨[(id, owner)], [(name, id)]⟩
  | .ended (.error _) | .panicked | .aborted => none

/-- A registration follows from the one before and the bus operations of the step. -/
theorem step_regs {owner : Nat} {b' : Bus} (h : s.step e = some (s', os))
    (hb : s'.pc.registration owner s'.serviceName s'.socketId = some b') :
    ∃ b, s.pc.registration owner s.serviceName s.socketId = some b ∧ regs owner b os = b' := by
  cases moves_of_step h with
  | send | dropSenders | ioDropped | exchangeEnded | answeredEarly =>
    exact ⟨b', hb, regs_of_silent (by simp) _ _⟩
  | connPending => exact ⟨b', hb, regs_of_silent (fun _ => bus?_repolls) _ _⟩
  | task _ hst => exact ⟨b', hb, regs_of_silent (fun _ => bus?_exchange hst) _ _⟩
  | procQueueAdded hp | serviceAdded hp | removed hp =>
    cases hb
    exact ⟨_, by rw [hp]; rfl, by simp [regs, Bus.apply, Bus.empty]⟩
  | connErr hp =>
    refine ⟨b', ?_, regs_of_silent (fun _ => bus?_repolls) _ _⟩
    obtain ⟨r, hp⟩ | ⟨x, hp, -⟩ := polls_connection hp <;> rw [hp] <;> exact hb
  | connOkIdle hp | connOkInFlight hp _ =>
    exact ⟨b', by rw [hp]; exact hb, regs_of_silent (fun _ => bus?_repolls) _ _⟩
  | @response _ r _ hp _ =>
    refine ⟨b', by rw [hp]; exact hb, regs_of_silent (fun o ho => ?_) _ _⟩
    rw [List.mem_singleton.1 ho, bus?_recordOut]
  | responded hp =>
    refine ⟨b', by rw [hp]; exact hb, regs_of_silent (fun o ho => ?_) _ _⟩
    rw [List.mem_singleton.1 ho, bus?_answerReply]
  | returned hp =>
    exact ⟨b', by rw [hp]; exact hb, regs_of_silent (fun _ => bus?_drops) _ _⟩
  | connectFailed | handshakeFailed | procQueueFailed | serviceFailed | connOkPanic | recvPanic
  | recvClosedPanic | removeFailed | aborted => cases hb
  | connectedH2 hp | handshaken hp | frame hp _ | bodyPoll hp _ | elapsed hp
  | recvSend hp _ _ _ _ | recvSpawn hp _ _ _ | recvRefuse hp _ _ _ _ | recvNoData hp _ _
  | recvIgnored hp _ _ | recvShutdown hp _ | recvClosed hp _ _ | drainRequest hp _
  | drainOther hp _ _ | drainEmpty hp _ | connectedHttp1 hp _ =>
    rw [hp]
    exact ⟨b', by first | exact hb | (rw [hp] at hb; exact hb), regs_of_silent (by simp) _ _⟩

/-- **The bus follows the task.** -/
theorem regs_of_run {tr : List (Rec (Sock M) (Ev M Req) (Out M Req))} {owner : Nat} {b : Bus}
    (hr : (socketMachine M Req).Run tr s)
    (hb : s.pc.registration owner s.serviceName s.socketId = some b) :
    regs owner Bus.empty (outs tr) = b := by
  induction hr generalizing b with
  | start hi =>
    obtain ⟨self, name, rfl⟩ := hi
    cases hb
    rfl
  | next _ hst ih =>
    obtain ⟨b₀, h₀, h₁⟩ := step_regs hst hb
    rw [outs_append, outs_single, regs_append, ih h₀, h₁]

/-! ## A socket to run -/

def plainSocket : HyperClientSocket := ⟨⟨"http://localhost:8080", none, 3000⟩, false, 200⟩

def echo : HyperClientAdaptor Nat Nat := ⟨fun d _ => .ok d, fun _ => .ok 0⟩

/-- Connecting over HTTP/1 and registering the queue. -/
def registered : List (Ev Nat Nat) :=
  [.connected (.ok (none, 3)), .handshaken (some (.ok ())), .procQueueAdded true,
    .serviceAdded true]

/-- The same over HTTP/2. -/
def registeredH2 : List (Ev Nat Nat) :=
  [.connected (.ok (some H2, 3)), .handshaken (some (.ok ())), .procQueueAdded true,
    .serviceAdded true]

end Client
