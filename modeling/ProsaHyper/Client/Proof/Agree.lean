import Mathlib.Data.List.Nodup
import ProsaHyper.Client.Proof.Order

/-!
# The two loops agree

The exchange of a request is written twice: `spawn_http1` runs it in the loop, through
`process_request` and `msg_to_send`, `spawn_h2` in a task of its own. A `Plan` says what does not
depend on this: the adaptor, the settings, and how the exchange of each request ends. `expected` is
the reply it makes of a request and `request` what it sends.

* `step_serves`: every step of either loop follows the plan.
* `loops_agree`: an HTTP/1 run and an HTTP/2 run of one plan on the same messages issue the same
  replies and send the same requests, whatever the order of the spawned tasks.
-/

set_option autoImplicit false

namespace Client

open Prosa Http

variable {M Req : Type}

/-! ## Plans -/

/-- The adaptor and the settings of a socket, and the outcome of the exchange of each request:
`none` if it times out. -/
structure Plan (M Req : Type) where
  adaptor : HyperClientAdaptor M Req
  name : String
  url : Url
  timeout : Nat
  outcome : Nat → Option (Except HyperError Response)

namespace Plan

variable (P : Plan M Req)

/-- What is given to the sender for `r`. -/
def request (r : RequestMsg M) : Option Req :=
  match r.data with
  | none => none
  | some d => (P.adaptor.processSrvRequest d P.url).toOption

/-- The reply made of the outcome of the exchange of `r`. -/
def answer (r : RequestMsg M) : InternalMsg M :=
  match P.outcome r.id with
  | none => r.takeData.2.returnErrorToSender none (.timeout P.name P.timeout)
  | some resp =>
    match P.adaptor.processHttpResponse resp with
    | .ok d => r.takeData.2.returnToSender d
    | .error e => r.takeData.2.returnErrorToSender none e

/-- The reply to `r`. -/
def expected (r : RequestMsg M) : InternalMsg M :=
  match r.data with
  | none => r.takeData.2.returnErrorToSender none (.unableToReachService P.name)
  | some d =>
    match P.adaptor.processSrvRequest d P.url with
    | .ok _ => P.answer r
    | .error e => r.takeData.2.returnErrorToSender none e

/-- `r` is sent, and its exchange times out. -/
def TimesOut (r : RequestMsg M) : Prop := (P.request r).isSome = true ∧ P.outcome r.id = none

/-- The event of a spawned task is one of the plan. -/
def taskAdmits (x : Exchange M) : TaskEv M Req → Prop
  | .start a | .responded a => a = P.adaptor
  | .response r _ => P.outcome x.msg.id = some r
  | .elapsed => P.outcome x.msg.id = none
  | .frame | .bodyPoll => True

/-- The event is one of the plan: it calls its adaptor, an exchange ends as it says, and neither the
connection ends nor is the task aborted. -/
def Admits (s : Sock M) : Ev M Req → Prop
  | .recv a | .responded a => a = P.adaptor
  | .response r _ => ∀ x, s.pc = .inFlight x → P.outcome x.msg.id = some r
  | .elapsed => ∀ x, s.pc = .inFlight x → P.outcome x.msg.id = none
  | .task k e => ∀ x, s.tasks[k]? = some x → P.taskAdmits x e
  | .connection (some _) | .aborted => False
  | _ => True

/-- The settings of the socket are those of the plan. -/
structure Fits (s : Sock M) : Prop where
  name : s.serviceName = P.name
  url : s.self.target.url = P.url
  timeout : s.self.httpTimeout = P.timeout

/-- No request is sent after one that times out. -/
def TimeoutLastSent (l : List (InternalMsg M)) : Prop :=
  l.Pairwise fun m m' => ∀ r r', m = .request r → m' = .request r' → P.TimesOut r →
    P.request r' = none

/-- No request with data comes after one that times out. -/
def TimeoutLast (l : List (InternalMsg M)) : Prop :=
  l.Pairwise fun m m' => ∀ r r', m = .request r → m' = .request r' → P.TimesOut r → r'.data = none

end Plan

@[simp] def Out.accepted? : Out M Req → Option (InternalMsg M)
  | .accepted m => some m
  | _ => none

/-- The reply of an output, with the id of the request. -/
@[simp] def Out.reply? : Out M Req → Option (Nat × InternalMsg M)
  | .replied _ msg a => some (msg.id, a)
  | _ => none

/-- What an output gives to the sender, with the message it is for. -/
@[simp] def Out.send? : Out M Req → Option (RequestMsg M × Req)
  | .sendRequest msg req => some (msg, req)
  | _ => none

/-- The messages accepted by the queue, in order. -/
def acceptedMsgs (os : List (Out M Req)) : List (InternalMsg M) := os.filterMap Out.accepted?

/-- The replies issued, in order. -/
def replies (os : List (Out M Req)) : List (Nat × InternalMsg M) := os.filterMap Out.reply?

/-- The requests sent, in order. -/
def sends (os : List (Out M Req)) : List (RequestMsg M × Req) := os.filterMap Out.send?

/-- A run of the plan over `proto`, on messages other than `Shutdown`, `Response` and `Error`. -/
structure Plan.Drives (P : Plan M Req) (proto : Proto)
    (tr : List (Rec (Sock M) (Ev M Req) (Out M Req))) (s : Sock M) : Prop where
  run : (socketMachine M Req).Run tr s
  proto : s.proto = proto
  fits : P.Fits s
  admits : Machine.Along P.Admits tr
  quiet : ∀ m ∈ acceptedMsgs (outs tr), m.request?.isSome = true ∨ ignored m = true

/-- Every message accepted was taken off the queue, and no exchange is in progress. -/
structure Complete (tr : List (Rec (Sock M) (Ev M Req) (Out M Req))) (s : Sock M) : Prop where
  taken : s.rxQueue.buf = []
  kept : ∀ id, tally (discardedOf id) (outs tr) = 0
  hand : s.pc.hand = none
  tasks : ∀ x ∈ s.tasks, x.open? = false

/-- The same replies are issued and the same requests sent, up to their order. -/
structure Agree (tr tr' : List (Rec (Sock M) (Ev M Req) (Out M Req))) : Prop where
  replies : (replies (outs tr)).Perm (replies (outs tr'))
  sends : (sends (outs tr)).Perm (sends (outs tr'))

/-! ## Following a plan -/

section
variable {P : Plan M Req} {acc : List (InternalMsg M)} {s s' : Sock M} {e : Ev M Req}
  {os : List (Out M Req)}

/-- A spawned task works on an accepted request, and has got as far as the plan says. -/
structure Plan.Tasked (P : Plan M Req) (acc : List (InternalMsg M)) (x : Exchange M) : Prop where
  source : ∃ r, .request r ∈ acc ∧ x.msg = r.takeData.2 ∧
    (∀ d, x.pc = .start d → r.data = some d) ∧
    (∀ b, x.pc = .sending b → (P.request r).isSome = true) ∧
    ∀ b, x.pc = .processing b → (P.request r).isSome = true ∧ P.outcome r.id = some b.resp

/-- In `close_socket!`. -/
def Pc.draining : Pc M → Bool
  | .removeProcQueue _ | .drain _ | .drained _ => true
  | _ => false

/-- The state of a socket that follows the plan, `acc` being the messages its queue accepted. -/
structure Plan.Serves (P : Plan M Req) (acc : List (InternalMsg M)) (s : Sock M) : Prop where
  queue : ∃ l, acc = l ++ s.rxQueue.buf
  flight : ∀ x, s.pc = .inFlight x → ∃ l r, acc = l ++ .request r :: s.rxQueue.buf ∧
    x.msg = r.takeData.2 ∧ (P.request r).isSome = true
  processing : ∀ msg b, s.pc = .processing msg b → ∃ r, .request r ∈ acc ∧ msg = r.takeData.2 ∧
    (P.request r).isSome = true ∧ P.outcome r.id = some b.resp
  closing : s.pc.draining = true → s.pc.hand = none ∧
    ∃ l r l', acc = l ++ .request r :: (l' ++ s.rxQueue.buf) ∧ P.TimesOut r
  tasks : ∀ x ∈ s.tasks, P.Tasked acc x

/-- The outputs that follow the plan: what is replied and what is sent is what the plan says of an
accepted request, one that was not sent has nothing to send, and none is dropped. -/
def Plan.Faithful (P : Plan M Req) (acc : List (InternalMsg M)) : Out M Req → Prop
  | .replied site msg a => ∃ r, .request r ∈ acc ∧ msg.id = r.id ∧ a = P.expected r ∧
    (site = .srvRequestErr ∨ site = .noData ∨ site = .drain → P.request r = none)
  | .sendRequest msg req => ∃ r, .request r ∈ acc ∧ msg = r.takeData.2 ∧ P.request r = some req
  | .dropped _ => False
  | _ => True

theorem Plan.Faithful.mono {o : Out M Req} {acc' : List (InternalMsg M)} (h : P.Faithful acc o)
    (hs : acc ⊆ acc') : P.Faithful acc' o := by
  cases o with
  | replied => obtain ⟨r, hr, h⟩ := h; exact ⟨r, hs hr, h⟩
  | sendRequest => obtain ⟨r, hr, h⟩ := h; exact ⟨r, hs hr, h⟩
  | _ => exact h

theorem Plan.Tasked.mono {x : Exchange M} {acc' : List (InternalMsg M)} (h : P.Tasked acc x)
    (hs : acc ⊆ acc') : P.Tasked acc' x := by
  obtain ⟨r, hr, h⟩ := h.source
  exact ⟨r, hs hr, h⟩

theorem faithful_drops (hh : s.pc.hand = none) :
    ∀ o ∈ (s.drops : List (Out M Req)), P.Faithful acc o := by
  intro o ho
  simp only [Sock.drops, hh, Option.toList_none, List.map_nil, List.nil_append, List.mem_map] at ho
  obtain ⟨msg, -, rfl⟩ := ho
  trivial

theorem faithful_repolls : ∀ o ∈ (s.repolls : List (Out M Req)), P.Faithful acc o := by
  intro o ho
  unfold Sock.repolls at ho
  split at ho
  · rw [List.mem_singleton.1 ho]
    trivial
  · cases ho

/-- Another message is accepted. -/
theorem Plan.Serves.send (hs : P.Serves acc s) {m : InternalMsg M} {q : Chan (InternalMsg M)}
    (hq : s.rxQueue.send m = some q) (used : List Nat) :
    P.Serves (acc ++ [m]) { s with rxQueue := q, used } := by
  have hb : q.buf = s.rxQueue.buf ++ [m] := (Chan.send_eq_some hq).2.2.1
  have hsub : acc ⊆ acc ++ [m] := List.subset_append_left _ _
  refine ⟨?_, fun x hx => ?_, fun msg b hp => ?_, fun hd => ?_,
    fun x hx => (hs.tasks x hx).mono hsub⟩
  · obtain ⟨l, hl⟩ := hs.queue
    exact ⟨l, by rw [hl, hb, List.append_assoc]⟩
  · obtain ⟨l, r, hl, h⟩ := hs.flight x hx
    exact ⟨l, r, by simp [hl, hb], h⟩
  · obtain ⟨r, hr, h⟩ := hs.processing msg b hp
    exact ⟨r, hsub hr, h⟩
  · obtain ⟨hh, l, r, l', hl, ht⟩ := hs.closing hd
    exact ⟨hh, l, r, l', by simp [hl, hb], ht⟩

/-- The task goes on, or ends, without an exchange in hand. -/
theorem Plan.Serves.plain (hs : P.Serves acc s) {l : List (InternalMsg M)}
    (hb : s.rxQueue.buf = l ++ s'.rxQueue.buf) (ht : s'.tasks = s.tasks)
    (hp : s'.pc.hand = none ∧ s'.pc.draining = false) : P.Serves acc s' := by
  obtain ⟨hh, hd⟩ := hp
  refine ⟨?_, fun x hx => by simp [hx] at hh, fun msg b hx => by simp [hx] at hh,
    fun h => by simp [hd] at h, by rw [ht]; exact hs.tasks⟩
  obtain ⟨l₀, hl₀⟩ := hs.queue
  exact ⟨l₀ ++ l, by rw [hl₀, hb, List.append_assoc]⟩

/-- The adaptor works on the outcome of an exchange. -/
theorem Plan.Serves.work (hs : P.Serves acc s) (hb : s'.rxQueue.buf = s.rxQueue.buf)
    (ht : s'.tasks = s.tasks) {msg : RequestMsg M} {b : Reading} (hp : s'.pc = .processing msg b)
    (hw : ∃ r, .request r ∈ acc ∧ msg = r.takeData.2 ∧ (P.request r).isSome = true ∧
      P.outcome r.id = some b.resp) : P.Serves acc s' := by
  refine ⟨by rw [hb]; exact hs.queue, fun x hx => ?_, fun msg' b' hp' => ?_, fun hd => ?_,
    by rw [ht]; exact hs.tasks⟩
  · cases hp.symm.trans hx
  · cases hp.symm.trans hp'
    exact hw
  · rw [hp] at hd
    cases hd

/-- The socket closes after a timeout. -/
theorem Plan.Serves.close (hs : P.Serves acc s) {q : List (InternalMsg M)}
    (hb : s.rxQueue.buf = q ++ s'.rxQueue.buf) (ht : s'.tasks = s.tasks) (hh : s'.pc.hand = none)
    (hc : ∃ l r l', acc = l ++ .request r :: (l' ++ s.rxQueue.buf) ∧ P.TimesOut r) :
    P.Serves acc s' := by
  obtain ⟨l, r, l', hl, htime⟩ := hc
  rw [hb] at hl
  refine ⟨⟨l ++ .request r :: (l' ++ q), by simp [hl]⟩, fun x hx => by simp [hx] at hh,
    fun msg b hx => by simp [hx] at hh, fun _ => ⟨hh, l, r, l' ++ q, by simp [hl], htime⟩,
    by rw [ht]; exact hs.tasks⟩

section
variable {r : RequestMsg M} {d : M}

theorem Plan.request_of_ok {req : Req} (hd : r.data = some d)
    (ha : P.adaptor.processSrvRequest d P.url = .ok req) : P.request r = some req := by
  simp [Plan.request, hd, ha, Except.toOption]

theorem Plan.request_of_error {err : ServiceError} (hd : r.data = some d)
    (ha : P.adaptor.processSrvRequest d P.url = .error err) :
    P.request r = none ∧ P.expected r = r.takeData.2.returnErrorToSender none err := by
  simp [Plan.request, Plan.expected, hd, ha, Except.toOption]

end

/-- A request that is sent is answered with its outcome. -/
theorem Plan.expected_of_request {r : RequestMsg M} (h : (P.request r).isSome = true) :
    P.expected r = P.answer r := by
  unfold Plan.request at h
  unfold Plan.expected
  split at h
  · cases h
  · rename_i d hd
    cases ha : P.adaptor.processSrvRequest d P.url with
    | ok => rfl
    | error => simp [ha, Except.toOption] at h

section
variable {r : RequestMsg M} (hr : .request r ∈ acc)
include hr

/-- A refusal for want of data. -/
theorem faithful_noData (hd : r.data = none) {site : Site} {msg : RequestMsg M}
    (hmsg : msg = r ∨ msg = r.takeData.2) : P.Faithful acc (.replied site msg
      (msg.returnErrorToSender none (.unableToReachService P.name)) : Out M Req) := by
  have hid : msg.id = r.id := by rcases hmsg with rfl | rfl <;> rfl
  have hno : msg.data = none := by rcases hmsg with rfl | rfl <;> first | exact hd | rfl
  refine ⟨r, hr, hid, ?_, fun _ => by simp [Plan.request, hd]⟩
  simp [Plan.expected, hd, RequestMsg.returnErrorToSender, hid, hno]

theorem faithful_refused {d : M} {err : ServiceError} (hd : r.data = some d)
    (ha : P.adaptor.processSrvRequest d P.url = .error err) :
    P.Faithful acc (.replied .srvRequestErr r.takeData.2
      (r.takeData.2.returnErrorToSender none err) : Out M Req) := by
  obtain ⟨hreq, hexp⟩ := Plan.request_of_error hd ha
  exact ⟨r, hr, rfl, hexp.symm, fun _ => hreq⟩

theorem faithful_timeout (ht : P.TimesOut r) : P.Faithful acc (.replied .timeout r.takeData.2
    (r.takeData.2.returnErrorToSender none (.timeout P.name P.timeout)) : Out M Req) := by
  refine ⟨r, hr, rfl, ?_, fun h => by simp at h⟩
  rw [Plan.expected_of_request ht.1]
  simp [Plan.answer, ht.2]

theorem faithful_answer {resp : Except HyperError Response} (hreq : (P.request r).isSome = true)
    (ho : P.outcome r.id = some resp) : P.Faithful acc
      (answerReply r.takeData.2 (P.adaptor.processHttpResponse resp) : Out M Req) := by
  cases ha : P.adaptor.processHttpResponse resp with
  | ok d =>
    refine ⟨r, hr, rfl, ?_, fun h => by simp at h⟩
    rw [Plan.expected_of_request hreq]
    simp [Plan.answer, ho, ha]
  | error err =>
    refine ⟨r, hr, rfl, ?_, fun h => by simp at h⟩
    rw [Plan.expected_of_request hreq]
    simp [Plan.answer, ho, ha]

end

/-- **A spawned task follows the plan.** -/
theorem step_tasked {x x' : Exchange M} {self : HyperClientSocket} {alive : Bool}
    {e : TaskEv M Req} (hx : P.Tasked acc x) (hurl : self.target.url = P.url)
    (htime : self.httpTimeout = P.timeout) (ha : P.taskAdmits x e)
    (h : x.step self P.name alive e = some (x', os)) :
    P.Tasked acc x' ∧ ∀ o ∈ os, P.Faithful acc o := by
  obtain ⟨r, hr, hmsg, hstart, hsending, hproc⟩ := hx.source
  have hid : x.msg.id = r.id := by rw [hmsg, RequestMsg.takeData_id]
  cases taskMoves_of_step h with
  | sent hp hreq =>
    rw [hurl, ha] at hreq
    have hsome := Plan.request_of_ok (hstart _ hp) hreq
    refine ⟨⟨r, hr, hmsg, by simp, fun _ _ => by simp [hsome], by simp⟩, fun o ho => ?_⟩
    rw [List.mem_singleton.1 ho]
    exact ⟨r, hr, hmsg, hsome⟩
  | refused hp hreq =>
    rw [hurl, ha] at hreq
    refine ⟨⟨r, hr, hmsg, by simp, by simp, by simp⟩, fun o ho => ?_⟩
    rw [List.mem_singleton.1 ho, hmsg]
    exact faithful_refused hr (hstart _ hp) hreq
  | @response resp n _ hp =>
    refine ⟨⟨r, hr, hmsg, by simp, by simp, fun b hb => ?_⟩, fun o ho => ?_⟩
    · cases hb
      refine ⟨hsending _ hp, ?_⟩
      rw [← hid]
      exact ha
    · rw [List.mem_singleton.1 ho]
      cases resp <;> trivial
  | elapsed hp =>
    refine ⟨⟨r, hr, hmsg, by simp, by simp, by simp⟩, fun o ho => ?_⟩
    have hout : P.outcome r.id = none := by rw [← hid]; exact ha
    rw [List.mem_singleton.1 ho, hmsg, htime]
    exact faithful_timeout hr ⟨hsending _ hp, hout⟩
  | frame hp hb =>
    refine ⟨⟨r, hr, hmsg, by simp, by simp, fun b' hb' => ?_⟩, by simp⟩
    cases hb'
    have hresp := Reading.resp_arrive hb
    simpa [Reading.deliver, hresp] using hproc _ hp
  | bodyPoll hp hb =>
    refine ⟨⟨r, hr, hmsg, by simp, by simp, fun b' hb' => ?_⟩, by simp⟩
    cases hb'
    rw [Reading.resp_poll hb]
    exact hproc _ hp
  | responded hp =>
    refine ⟨⟨r, hr, hmsg, by simp, by simp, by simp⟩, fun o ho => ?_⟩
    obtain ⟨hreq, hout⟩ := hproc _ hp
    rw [List.mem_singleton.1 ho, hmsg, ha]
    exact faithful_answer hr hreq hout

/-- What was taken off the queue was accepted. -/
theorem Plan.Serves.taken (hs : P.Serves acc s) {m : InternalMsg M} {q : Chan (InternalMsg M)}
    (hq : s.rxQueue.recv = some (m, q)) : s.rxQueue.buf = [m] ++ q.buf ∧ m ∈ acc ∧
      ∃ l, acc = l ++ m :: q.buf := by
  have hb := (Chan.recv_eq_some hq).1
  obtain ⟨l, hl⟩ := hs.queue
  rw [hb] at hl
  exact ⟨hb, by simp [hl], l, hl⟩

/-- **Every step follows the plan.** -/
theorem step_serves (hs : P.Serves acc s) (hf : P.Fits s) (ha : P.Admits s e)
    (hquiet : ∀ m ∈ acc, m.request?.isSome = true ∨ ignored m = true) (hlast : P.TimeoutLast acc)
    (hsend : ∀ m, e ≠ .send m) (h : s.step e = some (s', os)) :
    P.Serves acc s' ∧ ∀ o ∈ os, P.Faithful acc o := by
  cases moves_of_step h with
  | send => exact absurd rfl (hsend _)
  | dropSenders | ioDropped | exchangeEnded | answeredEarly =>
    exact ⟨⟨hs.queue, hs.flight, hs.processing, hs.closing, hs.tasks⟩, by simp⟩
  | connPending =>
    exact ⟨⟨hs.queue, hs.flight, hs.processing, hs.closing, hs.tasks⟩, faithful_repolls⟩
  | connErr | connOkIdle | connOkPanic | connOkInFlight | aborted => exact ha.elim
  | connectFailed hp | handshakeFailed hp | procQueueFailed hp | serviceFailed hp
  | recvClosedPanic hp =>
    exact ⟨hs.plain (l := s.rxQueue.buf) (by simp [Sock.leave]) rfl ⟨rfl, rfl⟩,
      faithful_drops (by simp [hp])⟩
  | removeFailed hp | returned hp =>
    exact ⟨hs.plain (l := s.rxQueue.buf) (by simp [Sock.leave]) rfl ⟨rfl, rfl⟩,
      faithful_drops (hs.closing (by rw [hp]; rfl)).1⟩
  | connectedH2 | connectedHttp1 | handshaken | recvClosed =>
    exact ⟨hs.plain (l := []) rfl rfl ⟨rfl, rfl⟩, by simp⟩
  | procQueueAdded | serviceAdded =>
    exact ⟨hs.plain (l := []) rfl rfl ⟨rfl, rfl⟩, by simp [Plan.Faithful]⟩
  | recvIgnored hp hq => exact ⟨hs.plain (hs.taken hq).1 rfl ⟨rfl, rfl⟩, by simp⟩
  | @recvPanic _ _ m q hp hq hm =>
    have hqm := hquiet m (hs.taken hq).2.1
    cases m <;> simp [isAnswer, ignored] at hm hqm
  | recvShutdown hp hq => rcases hquiet _ (hs.taken hq).2.1 with hr | hr <;> cases hr
  | @recvSend a _ r d req q hp _ hq hd hreq =>
    rw [hf.url, ha] at hreq
    have hsome := Plan.request_of_ok hd hreq
    obtain ⟨-, hr, l, hl⟩ := hs.taken hq
    refine ⟨⟨⟨l ++ [.request r], by simp [hl]⟩, fun x hx => ?_, (fun _ _ hp => by cases hp),
      (fun hc => by cases hc), hs.tasks⟩, fun o ho => ?_⟩
    · cases hx
      exact ⟨l, r, hl, rfl, by simp [hsome]⟩
    · simp only [List.mem_cons, List.not_mem_nil, or_false] at ho
      rcases ho with rfl | rfl
      · trivial
      · exact ⟨r, hr, rfl, hsome⟩
  | @recvSpawn _ _ r d q hp _ hq hd =>
    obtain ⟨hb, hr, -⟩ := hs.taken hq
    have hplain : P.Serves acc { s with rxQueue := q, pc := .idle true true } :=
      hs.plain hb rfl ⟨rfl, rfl⟩
    refine ⟨⟨hplain.queue, hplain.flight, hplain.processing, hplain.closing, fun x hx => ?_⟩,
      by simp [Plan.Faithful]⟩
    rcases List.mem_append.1 hx with hx | hx
    · exact hs.tasks x hx
    · rw [List.mem_singleton.1 hx]
      exact ⟨r, hr, rfl, fun d' hd' => by cases hd'; exact hd, by simp, by simp⟩
  | recvRefuse hp _ hq hd hreq =>
    rw [hf.url, ha] at hreq
    obtain ⟨hb, hr, -⟩ := hs.taken hq
    refine ⟨hs.plain hb rfl ⟨rfl, rfl⟩, fun o ho => ?_⟩
    simp only [List.mem_cons, List.not_mem_nil, or_false] at ho
    rcases ho with rfl | rfl
    · trivial
    · exact faithful_refused hr hd hreq
  | recvNoData hp hq hd =>
    obtain ⟨hb, hr, -⟩ := hs.taken hq
    refine ⟨hs.plain hb rfl ⟨rfl, rfl⟩, fun o ho => ?_⟩
    simp only [List.mem_cons, List.not_mem_nil, or_false] at ho
    rcases ho with rfl | rfl
    · trivial
    · rw [hf.name]
      exact faithful_noData hr hd (.inr rfl)
  | @response x resp n hp =>
    obtain ⟨l, r, hl, hmsg, hreq⟩ := hs.flight x hp
    have hout : P.outcome r.id = some resp := by
      rw [← RequestMsg.takeData_id r, ← hmsg]
      exact ha x hp
    refine ⟨hs.work rfl rfl rfl ⟨r, by simp [hl], hmsg, hreq, hout⟩, fun o ho => ?_⟩
    rw [List.mem_singleton.1 ho]
    cases resp <;> trivial
  | frame hp hb =>
    obtain ⟨r, hr, hmsg, hreq, hout⟩ := hs.processing _ _ hp
    refine ⟨hs.work rfl rfl rfl ⟨r, hr, hmsg, hreq, ?_⟩, by simp⟩
    rw [hout, Reading.resp_arrive hb]
  | bodyPoll hp hb =>
    obtain ⟨r, hr, hmsg, hreq, hout⟩ := hs.processing _ _ hp
    refine ⟨hs.work rfl rfl rfl ⟨r, hr, hmsg, hreq, ?_⟩, by simp⟩
    rw [hout, Reading.resp_poll hb]
  | responded hp =>
    obtain ⟨r, hr, rfl, hreq, hout⟩ := hs.processing _ _ hp
    refine ⟨hs.plain (l := []) rfl rfl ⟨rfl, rfl⟩, fun o ho => ?_⟩
    rw [List.mem_singleton.1 ho, ha]
    exact faithful_answer hr hreq hout
  | @elapsed x hp =>
    obtain ⟨l, r, hl, hmsg, hreq⟩ := hs.flight x hp
    have ht : P.TimesOut r := by
      refine ⟨hreq, ?_⟩
      rw [← RequestMsg.takeData_id r, ← hmsg]
      exact ha x hp
    refine ⟨hs.close (q := []) rfl rfl rfl ⟨l, r, [], hl, ht⟩, fun o ho => ?_⟩
    rw [List.mem_singleton.1 ho, hmsg, hf.name, hf.timeout]
    exact faithful_timeout (by simp [hl]) ht
  | removed hp =>
    obtain ⟨hh, hc⟩ := hs.closing (by rw [hp]; rfl)
    exact ⟨hs.close (q := []) rfl rfl (by simpa [hp] using hh) hc, by simp [Plan.Faithful]⟩
  | drainEmpty hp =>
    obtain ⟨hh, hc⟩ := hs.closing (by rw [hp]; rfl)
    exact ⟨hs.close (q := []) rfl rfl (by simpa [hp] using hh) hc, by simp⟩
  | @drainRequest _ r q hp hq =>
    obtain ⟨hb, hr, -⟩ := hs.taken hq
    obtain ⟨hh, l, r₀, l', hl, ht⟩ := hs.closing (by rw [hp]; rfl)
    have hd : r.data = none := by
      rw [Plan.TimeoutLast, hl, hb, List.pairwise_append] at hlast
      exact (List.pairwise_cons.1 hlast.2.1).1 _ (by simp) _ _ rfl rfl ht
    refine ⟨hs.close hb rfl hh ⟨l, r₀, l', hl, ht⟩, fun o ho => ?_⟩
    simp only [List.mem_cons, List.not_mem_nil, or_false] at ho
    rcases ho with rfl | rfl
    · trivial
    · rw [hf.name]
      exact faithful_noData hr hd (.inl rfl)
  | drainOther hp hq =>
    obtain ⟨hh, hc⟩ := hs.closing (by rw [hp]; rfl)
    exact ⟨hs.close (hs.taken hq).1 rfl hh hc, by simp⟩
  | @task k e x x' os hx hst =>
    rw [hf.name] at hst
    obtain ⟨hx', hos⟩ := step_tasked (hs.tasks x (List.mem_of_getElem? hx)) hf.url hf.timeout
      (ha x hx) hst
    refine ⟨⟨hs.queue, hs.flight, hs.processing, hs.closing, fun y hy => ?_⟩, hos⟩
    rcases List.mem_or_eq_of_mem_set hy with hy | rfl
    · exact hs.tasks y hy
    · exact hx'

theorem Plan.Fits.of_step (hf : P.Fits s') (h : s.step e = some (s', os)) : P.Fits s := by
  obtain ⟨hname, htime⟩ := step_names h
  refine ⟨hname ▸ hf.name, ?_, htime ▸ hf.timeout⟩
  rw [← step_target h]
  exact hf.url

/-- Only a send makes the queue accept a message. -/
theorem acceptedMsgs_of_step (h : s.step e = some (s', os)) (hsend : ∀ m, e ≠ .send m) :
    acceptedMsgs os = [] := by
  refine List.filterMap_eq_nil_iff.2 fun o ho => ?_
  cases o with
  | accepted m =>
    cases mem_step h ho with
    | accepted => exact absurd rfl (hsend _)
    | @responded _ _ _ r _ _ _ he => cases r <;> cases he
    | task _ ht => cases ht with
      | @responded _ _ r _ _ he => cases r <;> cases he
  | _ => rfl

variable {tr : List (Rec (Sock M) (Ev M Req) (Out M Req))}

@[simp] theorem acceptedMsgs_append (os os' : List (Out M Req)) :
    acceptedMsgs (os ++ os') = acceptedMsgs os ++ acceptedMsgs os' := by
  simp [acceptedMsgs]

/-- **A run follows its plan.** -/
theorem serves_of_run (hr : (socketMachine M Req).Run tr s) (hf : P.Fits s)
    (ha : Machine.Along P.Admits tr)
    (hquiet : ∀ m ∈ acceptedMsgs (outs tr), m.request?.isSome = true ∨ ignored m = true)
    (hlast : P.TimeoutLast (acceptedMsgs (outs tr))) :
    P.Serves (acceptedMsgs (outs tr)) s ∧
      ∀ o ∈ outs tr, P.Faithful (acceptedMsgs (outs tr)) o := by
  induction hr with
  | start hi =>
    obtain ⟨self, name, rfl⟩ := hi
    exact ⟨⟨⟨[], rfl⟩, (fun x h => by cases h), (fun _ _ h => by cases h), (fun h => by cases h),
      fun x hx => by cases hx⟩, by simp⟩
  | @next tr s s' e os _ hst ih =>
    obtain ⟨ha, hae⟩ := Machine.along_append.1 ha
    have hae := Machine.along_single.1 hae
    rw [outs_append, acceptedMsgs_append, outs_single] at hquiet hlast ⊢
    have hquiet' : ∀ m ∈ acceptedMsgs (outs tr), m.request?.isSome = true ∨ ignored m = true :=
      fun m hm => hquiet m (List.mem_append_left _ hm)
    have hlast' : P.TimeoutLast (acceptedMsgs (outs tr)) :=
      List.Pairwise.sublist (List.sublist_append_left _ _) hlast
    have hf := hf.of_step hst
    obtain ⟨hs, hos⟩ := ih hf ha hquiet' hlast'
    have hsub := List.subset_append_left (acceptedMsgs (outs tr)) (acceptedMsgs os)
    by_cases hsend : ∃ m, e = .send m
    · obtain ⟨m, rfl⟩ := hsend
      have hst : s.step (.send m) = some (s', os) := hst
      cases moves_of_step hst with
      | send _ _ hq =>
        refine ⟨hs.send hq _, fun o ho => ?_⟩
        rcases List.mem_append.1 ho with ho | ho
        · exact (hos o ho).mono hsub
        · rw [List.mem_singleton.1 ho]
          trivial
    · have hne : ∀ m, e ≠ .send m := fun m he => hsend ⟨m, he⟩
      rw [acceptedMsgs_of_step hst hne, List.append_nil]
      obtain ⟨hs', hos'⟩ := step_serves hs hf hae hquiet' hlast' hne hst
      refine ⟨hs', fun o ho => ?_⟩
      rcases List.mem_append.1 ho with ho | ho
      · exact hos o ho
      · exact hos' o ho

end

/-! ## Agreement -/

section
variable {P : Plan M Req} {proto : Proto} {s : Sock M}
  {tr : List (Rec (Sock M) (Ev M Req) (Out M Req))}

/-- The requests among the accepted messages. -/
theorem acceptedIds_eq (os : List (Out M Req)) :
    acceptedIds os = ((acceptedMsgs os).filterMap InternalMsg.request?).map (·.id) := by
  rw [acceptedMsgs, List.filterMap_filterMap, List.map_filterMap, acceptedIds]
  refine List.filterMap_congr fun o _ => ?_
  cases o <;> rfl

theorem nodup_acceptedIds (hr : (socketMachine M Req).Run tr s) :
    (acceptedIds (outs tr)).Nodup := by
  refine List.nodup_iff_count.2 fun id => Nat.le_trans (Nat.le_of_eq ?_) (accepted_le hr id)
  rw [acceptedIds, count_filterMap]
  refine tally_congr fun o _ => ?_
  cases o with
  | accepted m => cases m <;> simp [msgHit, hit]
  | _ => simp

/-- An accepted request is known by its id. -/
theorem request_of_id (hr : (socketMachine M Req).Run tr s) {r r' : RequestMsg M}
    (hm : .request r ∈ acceptedMsgs (outs tr)) (hm' : .request r' ∈ acceptedMsgs (outs tr))
    (hid : r.id = r'.id) : r = r' := by
  have hnodup := nodup_acceptedIds hr
  rw [acceptedIds_eq] at hnodup
  exact List.inj_on_of_nodup_map hnodup (List.mem_filterMap.2 ⟨_, hm, rfl⟩)
    (List.mem_filterMap.2 ⟨_, hm', rfl⟩) hid

theorem mem_replies {os : List (Out M Req)} {id : Nat} {a : InternalMsg M} :
    (id, a) ∈ replies os ↔ ∃ site msg, .replied site msg a ∈ os ∧ msg.id = id := by
  rw [replies, List.mem_filterMap]
  constructor
  · rintro ⟨o, ho, he⟩
    cases o with
    | replied site msg =>
      cases he
      exact ⟨site, msg, ho, rfl⟩
    | _ => cases he
  · rintro ⟨site, msg, ho, rfl⟩
    exact ⟨_, ho, rfl⟩

theorem mem_sends {os : List (Out M Req)} {msg : RequestMsg M} {req : Req} :
    (msg, req) ∈ sends os ↔ .sendRequest msg req ∈ os := by
  rw [sends, List.mem_filterMap]
  constructor
  · rintro ⟨o, ho, he⟩
    cases o with
    | sendRequest =>
      cases he
      exact ho
    | _ => cases he
  · exact fun ho => ⟨_, ho, rfl⟩

theorem nodup_replies (hr : (socketMachine M Req).Run tr s) : (replies (outs tr)).Nodup := by
  refine List.Nodup.of_map (·.1) (List.nodup_iff_count.2 fun id => ?_)
  refine Nat.le_trans (Nat.le_of_eq ?_) (replied_le hr id)
  rw [replies, List.map_filterMap, count_filterMap]
  refine tally_congr fun o _ => ?_
  cases o <;> simp [hit]

theorem nodup_sends (hr : (socketMachine M Req).Run tr s) : (sends (outs tr)).Nodup := by
  refine List.Nodup.of_map (·.1.id) (List.nodup_iff_count.2 fun id => ?_)
  refine Nat.le_trans (Nat.le_of_eq ?_)
    (Nat.le_trans ((sendCustody M Req).settled_le hr id) (taken_le hr id))
  rw [sends, List.map_filterMap, count_filterMap]
  refine tally_congr fun o _ => ?_
  cases o <;> simp [sendCustody, hit]

/-- What a run of the plan does with its messages. -/
theorem Plan.Drives.serves (h : P.Drives proto tr s)
    (hl : P.TimeoutLast (acceptedMsgs (outs tr))) :
    ∀ o ∈ outs tr, P.Faithful (acceptedMsgs (outs tr)) o :=
  (serves_of_run h.run h.fits h.admits h.quiet hl).2

theorem Complete.held (hc : Complete tr s) (id : Nat) : held s id = 0 ∧ unsent s id = 0 := by
  have hz : ∀ x ∈ s.tasks, Exchange.holds id x = 0 ∧ Exchange.owes id x = 0 := by
    intro x hx
    have hopen := hc.tasks x hx
    have hsent : x.unsent? = false := by
      cases hp : x.pc <;> simp_all [Exchange.open?, Exchange.unsent?]
    simp [Exchange.holds, Exchange.owes, hopen, hsent]
  refine ⟨?_, tally_eq_zero.2 fun x hx => (hz x hx).2⟩
  rw [Client.held, inHand, hc.hand, tally_eq_zero.2 fun x hx => (hz x hx).1]
  rfl

section
variable (h : P.Drives proto tr s) (hl : P.TimeoutLast (acceptedMsgs (outs tr)))
  (hc : Complete tr s) {r : RequestMsg M} (hr : .request r ∈ acceptedMsgs (outs tr))
include h hl hc hr

/-- In a complete run every accepted request is taken and answered once. -/
theorem answered_of_complete : tally (takenOf r.id) (outs tr) = 1 ∧
    tally (repliedOf r.id) (outs tr) = 1 := by
  have hpos : 0 < tally (acceptedOf r.id) (outs tr) := by
    obtain ⟨o, ho, he⟩ := List.mem_filterMap.1 hr
    refine tally_pos_iff.2 ⟨o, ho, ?_⟩
    cases o <;> cases he
    simp [hit]
  have hone := Nat.le_antisymm (accepted_le h.run r.id) hpos
  have hq := (queueCustody M Req).balance h.run r.id
  have hh := (handCustody M Req).balance h.run r.id
  have hdisc := hc.kept r.id
  have hdrop : tally (droppedOf r.id) (outs tr) = 0 := tally_eq_zero.2 fun o ho => by
    have hf := h.serves hl o ho
    cases o with
    | dropped => exact hf.elim
    | _ => rfl
  have hheld := (hc.held r.id).1
  have hqueued : queued s r.id = 0 := by
    rw [queued, hc.taken]
    rfl
  simp only [queueCustody, handCustody] at hq hh
  omega

theorem mem_replies_of_complete : (r.id, P.expected r) ∈ replies (outs tr) := by
  obtain ⟨o, ho, hpos⟩ := tally_pos_iff.1
    (Nat.lt_of_lt_of_eq Nat.one_pos (answered_of_complete h hl hc hr).2.symm)
  cases o with
  | replied site msg a =>
    have hid : msg.id = r.id := hit_pos.1 hpos
    obtain ⟨r', hr', hid', rfl, -⟩ := h.serves hl _ ho
    cases request_of_id h.run hr hr' (hid.symm.trans hid')
    exact mem_replies.2 ⟨site, msg, ho, hid⟩
  | _ => cases hpos

theorem mem_sends_of_complete {req : Req} (hreq : P.request r = some req) :
    (r.takeData.2, req) ∈ sends (outs tr) := by
  have hunsent : tally (unsentReplyOf r.id) (outs tr) = 0 := tally_eq_zero.2 fun o ho => by
    by_contra hne
    have hpos := Nat.pos_of_ne_zero hne
    have hf := h.serves hl o ho
    cases o with
    | replied site msg a =>
      obtain ⟨r', hr', hid', -, hsite⟩ := hf
      have hs : (site = .srvRequestErr ∨ site = .noData ∨ site = .drain) ∧ msg.id = r.id := by
        cases site with
        | srvRequestErr | noData | drain => exact ⟨by simp, hit_pos.1 hpos⟩
        | _ => cases hpos
      cases request_of_id h.run hr hr' (hs.2.symm.trans hid')
      cases hreq.symm.trans (hsite hs.1)
    | _ => cases hpos
  have hbal := (sendCustody M Req).balance h.run r.id
  have htaken := (answered_of_complete h hl hc hr).1
  have hown := (hc.held r.id).2
  simp only [sendCustody] at hbal
  obtain ⟨o, ho, hpos⟩ := tally_pos_iff.1
    (show 0 < tally (sentOf r.id) (outs tr) by omega)
  cases o with
  | sendRequest msg req' =>
    have hid : msg.id = r.id := hit_pos.1 hpos
    obtain ⟨r', hr', hmsg, hreq'⟩ := h.serves hl _ ho
    have hid' : r'.id = r.id := by rw [← hid, hmsg, RequestMsg.takeData_id]
    cases request_of_id h.run hr hr' hid'.symm
    cases hreq.symm.trans hreq'
    rw [← hmsg]
    exact mem_sends.2 ho
  | _ => cases hpos

end

/-- The replies of a complete run are those the plan expects. -/
theorem replies_of_complete (h : P.Drives proto tr s)
    (hl : P.TimeoutLast (acceptedMsgs (outs tr))) (hc : Complete tr s) {id : Nat}
    {a : InternalMsg M} : (id, a) ∈ replies (outs tr) ↔
      ∃ r, .request r ∈ acceptedMsgs (outs tr) ∧ id = r.id ∧ a = P.expected r := by
  constructor
  · intro hm
    obtain ⟨site, msg, ho, rfl⟩ := mem_replies.1 hm
    obtain ⟨r, hr, hid, ha, -⟩ := h.serves hl _ ho
    exact ⟨r, hr, hid, ha⟩
  · rintro ⟨r, hr, rfl, rfl⟩
    exact mem_replies_of_complete h hl hc hr

/-- What a complete run sends is what the plan sends. -/
theorem sends_of_complete (h : P.Drives proto tr s)
    (hl : P.TimeoutLast (acceptedMsgs (outs tr))) (hc : Complete tr s) {msg : RequestMsg M}
    {req : Req} : (msg, req) ∈ sends (outs tr) ↔
      ∃ r, .request r ∈ acceptedMsgs (outs tr) ∧ msg = r.takeData.2 ∧ P.request r = some req := by
  constructor
  · exact fun hm => h.serves hl _ (mem_sends.1 hm)
  · rintro ⟨r, hr, rfl, hreq⟩
    exact mem_sends_of_complete h hl hc hr hreq

/-- **The two loops agree.** An HTTP/1 run and an HTTP/2 run of one plan, on the same messages,
issue the same replies and send the same requests, if a timeout is followed by no request with
data. -/
theorem loops_agree {s' : Sock M} {tr' : List (Rec (Sock M) (Ev M Req) (Out M Req))}
    (h : P.Drives .http1 tr s) (h' : P.Drives .h2 tr' s') (hc : Complete tr s)
    (hc' : Complete tr' s') (hm : acceptedMsgs (outs tr) = acceptedMsgs (outs tr'))
    (hl : P.TimeoutLast (acceptedMsgs (outs tr))) : Agree tr tr' := by
  have hl' := hl
  rw [hm] at hl'
  constructor
  · refine (List.perm_ext_iff_of_nodup (nodup_replies h.run) (nodup_replies h'.run)).2 ?_
    rintro ⟨id, a⟩
    rw [replies_of_complete h hl hc, replies_of_complete h' hl' hc', hm]
  · refine (List.perm_ext_iff_of_nodup (nodup_sends h.run) (nodup_sends h'.run)).2 ?_
    rintro ⟨msg, req⟩
    rw [sends_of_complete h hl hc, sends_of_complete h' hl' hc', hm]

end

/-! ## Two runs of a plan -/

/-- An adaptor that refuses the data 2. -/
def picky : HyperClientAdaptor Nat Nat :=
  ⟨fun d _ => if d = 2 then .error (.protocolError "refused") else .ok d, fun _ => .ok 0⟩

/-- The plan for `picky` in which every exchange ends with `r`. -/
def pickyPlan (r : Option (Except HyperError Response)) : Plan Nat Nat :=
  ⟨picky, "svc", "http://localhost:8080", 200, fun _ => r⟩

/-- Request 7 is to be sent, request 8 to be refused by `picky`. -/
def twoRequests : List (Ev Nat Nat) :=
  [.send (.request ⟨7, "svc", some 1, 0⟩), .send (.request ⟨8, "svc", some 2, 0⟩)]

/-- What the queue accepts of them. -/
def acceptedTwo : List (InternalMsg Nat) :=
  [.request ⟨7, "svc", some 1, 0⟩, .request ⟨8, "svc", some 2, 0⟩]

/-- Request 7 times out, and request 8 is drained. -/
def drainedHttp1 : List (Ev Nat Nat) :=
  registered ++ twoRequests ++ [.recv picky, .elapsed, .procQueueRemoved true, .tryRecv, .tryRecv,
    .returned]

/-- Request 7 times out, and request 8 is refused. -/
def refusedH2 : List (Ev Nat Nat) :=
  registeredH2 ++ twoRequests ++ [.recv picky, .recv picky, .task 0 (.start picky),
    .task 0 .elapsed, .task 1 (.start picky)]

/-- The only request sent times out, and the next one is answered otherwise over HTTP/1 than over
HTTP/2. -/
theorem refused_after_timeout : ∃ q q',
    (socketMachine Nat Nat).exec (Sock.new plainSocket "svc") drainedHttp1 = some q ∧
      (socketMachine Nat Nat).exec (Sock.new plainSocket "svc") refusedH2 = some q' ∧
      (pickyPlan none).Drives .http1 q.1 q.2 ∧ (pickyPlan none).Drives .h2 q'.1 q'.2 ∧
      Complete q.1 q.2 ∧ Complete q'.1 q'.2 ∧
      acceptedMsgs (outs q.1) = acceptedMsgs (outs q'.1) ∧
      (pickyPlan none).TimeoutLastSent (acceptedMsgs (outs q.1)) ∧ ¬ Agree q.1 q'.1 := by
  refine ⟨_, _, (Option.some_get rfl).symm, (Option.some_get rfl).symm,
    ⟨Machine.run_get (init_new _ _) rfl, rfl, ⟨rfl, rfl, rfl⟩, ?_, ?_⟩,
    ⟨Machine.run_get (init_new _ _) rfl, rfl, ⟨rfl, rfl, rfl⟩, ?_, ?_⟩,
    ⟨rfl, fun _ => rfl, rfl, by decide⟩, ⟨rfl, fun _ => rfl, rfl, by decide⟩, rfl, ?_, ?_⟩
  · refine Machine.along_exec (Option.some_get rfl).symm ?_
    simp [drainedHttp1, registered, twoRequests, Plan.Admits, pickyPlan]
  · exact (by decide : ∀ m ∈ acceptedTwo, m.request?.isSome = true ∨ ignored m = true)
  · refine Machine.along_exec (Option.some_get rfl).symm ?_
    simp [refusedH2, registeredH2, twoRequests, Plan.Admits, Plan.taskAdmits, pickyPlan]
  · exact (by decide : ∀ m ∈ acceptedTwo, m.request?.isSome = true ∨ ignored m = true)
  · show (pickyPlan none).TimeoutLastSent acceptedTwo
    simp [Plan.TimeoutLastSent, acceptedTwo, Plan.request, pickyPlan, picky, Except.toOption]
  · intro h
    have hm : (8, RequestMsg.returnErrorToSender ⟨8, "svc", some 2, 0⟩ none
        (.unableToReachService "svc")) ∈ replies (outs (((socketMachine Nat Nat).exec
          (Sock.new plainSocket "svc") refusedH2).get rfl).1) :=
      h.replies.mem_iff.1 (by decide)
    exact absurd hm (by decide)

/-- Request 7 is answered, and request 8 is refused. -/
def refusedHttp1 : List (Ev Nat Nat) :=
  registered ++ twoRequests ++ [.recv picky, .response (.ok ⟨200, .http11, [], []⟩) 1,
    .responded picky, .recv picky]

/-- The same over HTTP/2, where the second task ends first. -/
def answeredH2 : List (Ev Nat Nat) :=
  registeredH2 ++ twoRequests ++ [.recv picky, .recv picky, .task 1 (.start picky),
    .task 0 (.start picky), .task 0 (.response (.ok ⟨200, .http11, [], []⟩) 1),
    .task 0 (.responded picky)]

theorem answered_agree : ∃ q q',
    (socketMachine Nat Nat).exec (Sock.new plainSocket "svc") refusedHttp1 = some q ∧
      (socketMachine Nat Nat).exec (Sock.new plainSocket "svc") answeredH2 = some q' ∧
      Agree q.1 q'.1 := by
  refine ⟨_, _, (Option.some_get rfl).symm, (Option.some_get rfl).symm,
    loops_agree (P := pickyPlan (some (.ok ⟨200, .http11, [], []⟩)))
      ⟨Machine.run_get (init_new _ _) rfl, rfl, ⟨rfl, rfl, rfl⟩, ?_, ?_⟩
      ⟨Machine.run_get (init_new _ _) rfl, rfl, ⟨rfl, rfl, rfl⟩, ?_, ?_⟩
      ⟨rfl, fun _ => rfl, rfl, by decide⟩ ⟨rfl, fun _ => rfl, rfl, by decide⟩ rfl ?_⟩
  · refine Machine.along_exec (Option.some_get rfl).symm ?_
    simp [refusedHttp1, registered, twoRequests, Plan.Admits, pickyPlan]
  · exact (by decide : ∀ m ∈ acceptedTwo, m.request?.isSome = true ∨ ignored m = true)
  · refine Machine.along_exec (Option.some_get rfl).symm ?_
    simp [answeredH2, registeredH2, twoRequests, Plan.Admits, Plan.taskAdmits, pickyPlan]
  · exact (by decide : ∀ m ∈ acceptedTwo, m.request?.isSome = true ∨ ignored m = true)
  · show Plan.TimeoutLast _ acceptedTwo
    simp [Plan.TimeoutLast, acceptedTwo, Plan.TimesOut, pickyPlan]

end Client
