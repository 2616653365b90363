import ProsaHyper.Client.Proof.Runs

/-!
# The order of an HTTP/1 socket

HTTP/1 responses carry no identifier. That each one answers the request it is taken for rests on
`msg_to_send`: the loop gives a request to the sender only when the one before is answered, and
after a timeout it drops the connection.

* `step_fifo`: a step takes from the front of what is due and adds to its end.
* `Wired`: the connection carries at most the request of the exchange in flight.
* `Outcome`: where in the history the outcome of a request was found.
* `in_order`: the four of them over a whole run.
-/

set_option autoImplicit false

namespace Client

open Prosa Http

variable {M Req : Type} {s s' : Sock M} {e : Ev M Req} {os : List (Out M Req)}
  {tr : List (Rec (Sock M) (Ev M Req) (Out M Req))}

/-- A socket that has spawned no task had spawned none before. -/
theorem step_tasks_nil (h : s.step e = some (s', os)) (ht : s'.tasks = []) : s.tasks = [] := by
  cases moves_of_step h with
  | recvSpawn => simp at ht
  | task hx _ =>
    have hl := congrArg List.length ht
    simpa using hl
  | _ => exact ht

theorem tasks_nil_of_run {s₀ : Sock M} (hr : ((socketMachine M Req).startAt s₀).Run tr s)
    (ht : s.tasks = []) : s₀.tasks = [] := by
  induction hr with
  | start hi => cases hi; exact ht
  | next _ hst ih => exact ih (step_tasks_nil hst ht)

/-! ## First in, first out -/

/-- The id of the request accepted by the queue. -/
@[simp] def acceptedId : Out M Req → Option Nat
  | .accepted m => m.request?.map (·.id)
  | _ => none

@[simp] def repliedId : Out M Req → Option Nat
  | .replied _ msg _ => some msg.id
  | _ => none

/-- The ids of the requests accepted, in order. -/
def acceptedIds (os : List (Out M Req)) : List Nat := os.filterMap acceptedId

/-- The ids of the requests replied to, in order. -/
def repliedIds (os : List (Out M Req)) : List Nat := os.filterMap repliedId

/-- The request the loop has still to answer; the one kept by `close_socket!` is not. -/
def Pc.due : Pc M → List Nat
  | .inFlight x => [x.msg.id]
  | .processing msg _ => [msg.id]
  | _ => []

/-- The ids of the requests of a list of queued messages. -/
def requestIds (l : List (InternalMsg M)) : List Nat := l.filterMap fun m => m.request?.map (·.id)

/-- The ids of the requests to be answered, in the order this will happen. -/
def Sock.due (s : Sock M) : List Nat := s.pc.due ++ requestIds s.rxQueue.buf

@[simp] theorem acceptedIds_cons (o : Out M Req) (os : List (Out M Req)) :
    acceptedIds (o :: os) = (acceptedId o).toList ++ acceptedIds os := by
  rw [acceptedIds, List.filterMap_cons]
  cases acceptedId o <;> rfl

@[simp] theorem repliedIds_cons (o : Out M Req) (os : List (Out M Req)) :
    repliedIds (o :: os) = (repliedId o).toList ++ repliedIds os := by
  rw [repliedIds, List.filterMap_cons]
  cases repliedId o <;> rfl

@[simp] theorem acceptedIds_nil : acceptedIds ([] : List (Out M Req)) = [] := rfl
@[simp] theorem repliedIds_nil : repliedIds ([] : List (Out M Req)) = [] := rfl

@[simp] theorem acceptedIds_append (os os' : List (Out M Req)) :
    acceptedIds (os ++ os') = acceptedIds os ++ acceptedIds os' := by
  simp [acceptedIds]

@[simp] theorem repliedIds_append (os os' : List (Out M Req)) :
    repliedIds (os ++ os') = repliedIds os ++ repliedIds os' := by
  simp [repliedIds]

theorem requestIds_recv {c c' : Chan (InternalMsg M)} {m : InternalMsg M}
    (h : c.recv = some (m, c')) :
    requestIds c.buf = (m.request?.map (·.id)).toList ++ requestIds c'.buf := by
  rw [(Chan.recv_eq_some h).1]
  cases m <;> rfl

theorem requestIds_send {c c' : Chan (InternalMsg M)} {m : InternalMsg M}
    (h : c.send m = some c') :
    requestIds c'.buf = requestIds c.buf ++ (m.request?.map (·.id)).toList := by
  rw [(Chan.send_eq_some h).2.2.1, requestIds, List.filterMap_append]
  cases m <;> rfl

theorem repliedIds_drops (s : Sock M) : repliedIds (s.drops : List (Out M Req)) = [] := by
  refine List.filterMap_eq_nil_iff.2 fun o ho => ?_
  obtain ⟨msg, ⟨-, rfl⟩ | ⟨-, rfl⟩⟩ := mem_drops ho <;> rfl

theorem repliedIds_repolls (s : Sock M) : repliedIds (s.repolls : List (Out M Req)) = [] := by
  unfold Sock.repolls
  split <;> rfl

/-- **First in, first out**: what a step answers comes from the front of what was due. -/
theorem step_fifo (h : s.step e = some (s', os)) (ht : s'.tasks = []) :
    (repliedIds os ++ s'.due).Sublist (s.due ++ acceptedIds os) := by
  cases moves_of_step h with
  | send _ _ hq => simp [Sock.due, requestIds_send hq]
  | task hx => simp [step_tasks_nil h ht] at hx
  | recvSpawn => simp at ht
  | connectFailed | handshakeFailed | procQueueFailed | serviceFailed | recvClosedPanic
  | removeFailed | returned | aborted | recvPanic =>
    rw [repliedIds_drops]
    exact List.nil_sublist _
  | connOkPanic =>
    rw [repliedIds_append, repliedIds_repolls, repliedIds_drops]
    exact List.nil_sublist _
  | connErr hp =>
    rw [repliedIds_repolls]
    exact (List.sublist_append_right _ _).trans (List.sublist_append_left _ _)
  | connPending | exchangeEnded | answeredEarly => simp [Sock.due, repliedIds_repolls]
  | connOkIdle hp | connOkInFlight hp _ => simp [Sock.due, Pc.due, hp, repliedIds_repolls]
  | recvSend hp _ hq _ _ | recvRefuse hp _ hq _ _ | recvNoData hp hq _ | recvShutdown hp hq
  | drainRequest hp hq | recvIgnored hp hq _ | drainOther hp hq _ =>
    simp [Sock.due, Pc.due, hp, requestIds_recv hq]
  | @response _ r _ hp _ => cases r <;> simp [Sock.due, Pc.due, hp, recordOut]
  | @responded a _ b hp =>
    cases a.processHttpResponse b.resp <;> simp [Sock.due, Pc.due, hp, answerReply]
  | dropSenders | ioDropped => simp [Sock.due]
  | connectedH2 hp | connectedHttp1 hp _ | handshaken hp | procQueueAdded hp | serviceAdded hp
  | frame hp _ | recvClosed hp _ _ | elapsed hp | bodyPoll hp _ | removed hp | drainEmpty hp _ =>
    simp [Sock.due, Pc.due, hp]

theorem fifo_of_run (hr : (socketMachine M Req).Run tr s) (ht : s.tasks = []) :
    (repliedIds (outs tr) ++ s.due).Sublist (acceptedIds (outs tr)) := by
  induction hr with
  | start hi =>
    obtain ⟨self, name, rfl⟩ := hi
    exact List.nil_sublist _
  | @next tr s s' e os _ hst ih =>
    have hrec := ih (step_tasks_nil hst ht)
    have hstep := step_fifo hst ht
    simp only [outs_append, outs_single, repliedIds_append, acceptedIds_append, List.append_assoc]
    calc (repliedIds (outs tr) ++ (repliedIds os ++ s'.due)).Sublist
          (repliedIds (outs tr) ++ (s.due ++ acceptedIds os)) := hstep.append_left _
      _ |>.Sublist (acceptedIds (outs tr) ++ acceptedIds os) := by
          rw [← List.append_assoc]
          exact hrec.append_right _

/-! ## One at a time -/

/-- Some request is given to the sender. -/
def Sends (os : List (Out M Req)) : Prop := ∃ msg req, .sendRequest msg req ∈ os

/-- Without spawned tasks only the idle loop sends, and has then the request in flight. -/
theorem step_sends (h : s.step e = some (s', os)) (ht : s'.tasks = []) (hs : Sends os) :
    (∃ c, s.pc = .idle c true) ∧ ∃ msg req, .sendRequest msg req ∈ os ∧
      s'.pc = .inFlight ⟨msg, s.conn.takes, true⟩ ∧ s'.conn = s.conn.send msg.id := by
  obtain ⟨msg, req, hm⟩ := hs
  cases mem_step h hm with
  | sent =>
    cases moves_of_step h with
    | recvSend hp =>
      exact ⟨⟨_, hp⟩, _, _, List.mem_cons_of_mem _ (List.mem_singleton.2 rfl), rfl, rfl⟩
    | recvPanic => obtain ⟨_, ⟨-, h⟩ | ⟨-, h⟩⟩ := mem_drops hm <;> cases h
    | _ => simp at hm
  | @responded _ _ _ r _ _ _ he => cases r <;> cases he
  | task hx => simp [step_tasks_nil h ht] at hx

/-- What only an idle loop can do is not done elsewhere. -/
theorem not_sends (h : s.step e = some (s', os)) (ht : s'.tasks = [])
    (hp : ∀ c, s.pc ≠ .idle c true) : ¬ Sends os := by
  intro hs
  obtain ⟨⟨c, hc⟩, -⟩ := step_sends h ht hs
  exact hp c hc

/-- Only the end of the task drops a message. -/
theorem step_dropped (id : Nat) (h : s.step e = some (s', os)) (ho : s'.pc.isOver = false) :
    tally (droppedOf id) os = 0 := by
  cases moves_of_step h with
  | task _ hst => exact (exchange_balanced id hst).2.2.2.2.1
  | @response _ r => cases r <;> simp [recordOut]
  | @responded a _ b => cases a.processHttpResponse b.resp <;> simp [answerReply]
  | connectFailed | handshakeFailed | procQueueFailed | serviceFailed | connOkPanic | recvPanic
  | recvClosedPanic | removeFailed | returned | aborted => cases ho
  | _ => simp

theorem dropped_of_run (hr : (socketMachine M Req).Run tr s) (ho : s.pc.isOver = false)
    (id : Nat) : tally (droppedOf id) (outs tr) = 0 := by
  induction hr with
  | start => rfl
  | @next tr s s' e os _ hst ih =>
    have hpre : s.pc.isOver = false := by
      by_contra hc
      have hc : s.pc.isOver = true := by simpa using hc
      rw [step_over hc hst, hc] at ho
      cases ho
    simp only [outs_append, outs_single, tally_append, ih hpre, step_dropped id hst ho]

/-- When the idle loop has no task, whatever was given to the sender is answered. -/
theorem answered_of_idle (hr : (socketMachine M Req).Run tr s) (ht : s.tasks = []) {c r : Bool}
    (hp : s.pc = .idle c r) {id : Nat} (hs : 0 < tally (sentOf id) (outs tr)) :
    tally (repliedOf id) (outs tr) = 1 := by
  have hsend := (sendCustody M Req).settled_le hr id
  have hbal := (handCustody M Req).balance hr id
  have hheld : held s id = 0 := by simp [held, inHand, hp, ht]
  have hdrop := dropped_of_run hr (by rw [hp]; rfl) id
  have hle := taken_le hr id
  simp only [handCustody, sendCustody] at hbal hsend
  omega

/-! ## The connection -/

/-- An HTTP/1 connection that takes requests carries none, and with a request in flight that it took
it carries this one. -/
structure Wired (s : Sock M) : Prop where
  ready : s.conn.ready = true → s.conn.wire = []
  single : s.conn.wire.length ≤ 1
  flight : ∀ x, s.pc = .inFlight x → x.accepted = true → s.conn.wire = [x.msg.id]

theorem Wired.of_conn (hw : Wired s) (hc : s'.conn.wire = s.conn.wire)
    (hr : s'.conn.ready = s.conn.ready) (hp : ∀ x, s'.pc ≠ .inFlight x) : Wired s' :=
  ⟨by rw [hc, hr]; exact hw.ready, by rw [hc]; exact hw.single, fun x hx => absurd hx (hp x)⟩

theorem step_wired (hw : Wired s) (h : s.step e = some (s', os)) : Wired s' := by
  cases moves_of_step h with
  | send | dropSenders | ioDropped | task => exact ⟨hw.ready, hw.single, hw.flight⟩
  | connPending => exact hw
  | exchangeEnded _ _ _ hwire => exact ⟨fun _ => hwire, hw.single, hw.flight⟩
  | answeredEarly => exact ⟨nofun, hw.single, hw.flight⟩
  | connErr => exact hw.of_conn rfl rfl (by simp)
  | @connOkInFlight _ x hp =>
    refine ⟨hw.ready, hw.single, fun y hy ha => ?_⟩
    cases hy
    exact hw.flight x hp ha
  | @recvSend _ _ r =>
    cases htk : s.conn.takes with
    | true =>
      have hwire : s.conn.wire = [] := hw.ready (by simp [Conn.takes] at htk; exact htk.2)
      have hc : s.conn.send r.id = { s.conn with ready := false, wire := [r.id] } := by
        simp [Conn.send, htk, hwire]
      rw [hc]
      refine ⟨(fun hf => by cases hf), Nat.le_refl _, fun x hx _ => ?_⟩
      cases hx
      rfl
    | false =>
      have hc : s.conn.send r.id = s.conn := by simp [Conn.send, htk]
      rw [hc]
      refine ⟨hw.ready, hw.single, fun x hx ha => ?_⟩
      cases hx
      cases ha
  | @response x r =>
    cases r with
    | ok =>
      have hlen : s.conn.wire.tail.length = 0 := by
        rw [List.length_tail, Nat.sub_eq_zero_of_le hw.single]
      exact ⟨fun _ => List.length_eq_zero_iff.1 hlen, hlen ▸ Nat.zero_le 1,
        fun x hx => by cases hx⟩
    | error => exact hw.of_conn rfl rfl (by simp)
  | drainRequest hp | drainOther hp =>
    exact hw.of_conn rfl rfl (by simp [hp])
  | _ => exact hw.of_conn rfl rfl (by simp [Sock.leave])

theorem wired_of_run (hr : (socketMachine M Req).Run tr s) : Wired s := by
  refine hr.state_invariant (I := Wired) ?_ fun _ _ _ _ hw hst => step_wired hw hst
  rintro s ⟨self, name, rfl⟩
  exact ⟨fun _ => rfl, Nat.zero_le _, fun x hx => by cases hx⟩

/-! ## Outcomes -/

/-- `msg` is the last request given to the sender in the history. -/
def LastSent (tr : List (Rec (Sock M) (Ev M Req) (Out M Req))) (msg : RequestMsg M) : Prop :=
  ∃ ta r tb, tr = ta ++ r :: tb ∧ (∃ req, .sendRequest msg req ∈ r.out) ∧
    ∀ r' ∈ tb, ¬ Sends r'.out

/-- `send_request` answered `resp` when `msg` was the last request given to the sender, and no other
was sent since. A response was to the only request on the connection, which was `msg`. -/
def Outcome (tr : List (Rec (Sock M) (Ev M Req) (Out M Req))) (msg : RequestMsg M)
    (resp : Except HyperError Response) : Prop :=
  ∃ ta r tb n, tr = ta ++ r :: tb ∧ LastSent ta msg ∧ r.ev = .response resp n ∧
    (resp.isOk = true → r.pre.conn.wire = [msg.id]) ∧ ∀ r' ∈ r :: tb, ¬ Sends r'.out

section
variable {msg : RequestMsg M} {resp : Except HyperError Response}
  {r : Rec (Sock M) (Ev M Req) (Out M Req)}

theorem LastSent.of_sends {req : Req} (hm : .sendRequest msg req ∈ r.out) :
    LastSent (tr ++ [r]) msg :=
  ⟨tr, r, [], rfl, ⟨req, hm⟩, by simp⟩

theorem LastSent.keep (h : LastSent tr msg) (hr : ¬ Sends r.out) : LastSent (tr ++ [r]) msg := by
  obtain ⟨ta, p, tb, rfl, hm, hs⟩ := h
  refine ⟨ta, p, tb ++ [r], by simp, hm, fun r' hr' => ?_⟩
  rcases List.mem_append.1 hr' with hr' | hr'
  · exact hs r' hr'
  · rwa [List.mem_singleton.1 hr']

theorem Outcome.keep (h : Outcome tr msg resp) (hr : ¬ Sends r.out) :
    Outcome (tr ++ [r]) msg resp := by
  obtain ⟨ta, p, tb, n, rfl, hl, he, hw, hs⟩ := h
  refine ⟨ta, p, tb ++ [r], n, by simp, hl, he, hw, fun r' hr' => ?_⟩
  rw [← List.cons_append] at hr'
  rcases List.mem_append.1 hr' with hr' | hr'
  · exact hs r' hr'
  · rwa [List.mem_singleton.1 hr']

end

/-- A request comes in flight by being sent. -/
theorem step_inFlight {x : InFlight M} (h : s.step e = some (s', os)) (hp : s'.pc = .inFlight x) :
    (∃ req, .sendRequest x.msg req ∈ os) ∨ ∃ y, s.pc = .inFlight y ∧ y.msg = x.msg := by
  cases moves_of_step h with
  | recvSend =>
    cases hp
    exact .inl ⟨_, List.mem_cons_of_mem _ (List.mem_singleton.2 rfl)⟩
  | connOkInFlight hp' =>
    cases hp
    exact .inr ⟨_, hp', rfl⟩
  | send | dropSenders | ioDropped | connPending | exchangeEnded | answeredEarly | task =>
    exact .inr ⟨x, hp, rfl⟩
  | drainRequest hp' | drainOther hp' => cases hp'.symm.trans hp
  | _ => cases hp

/-- What the adaptor works on is the outcome of the request in flight. -/
theorem step_processing_resp {msg : RequestMsg M} {b : Reading} (h : s.step e = some (s', os))
    (hp : s'.pc = .processing msg b) : (∃ b', s.pc = .processing msg b' ∧ b'.resp = b.resp) ∨
      ∃ x n, s.pc = .inFlight x ∧ x.msg = msg ∧ e = .response b.resp n ∧
        (b.resp.isOk = true → x.accepted = true) := by
  cases moves_of_step h with
  | frame hp' hb =>
    cases hp
    exact .inl ⟨_, hp', (Reading.resp_arrive hb).symm⟩
  | bodyPoll hp' hb =>
    cases hp
    exact .inl ⟨_, hp', (Reading.resp_poll hb).symm⟩
  | @response x r n hp' hm =>
    cases hp
    refine .inr ⟨x, n, hp', rfl, rfl, fun hok => ?_⟩
    cases r with
    | ok r =>
      simp only [mayAnswer, Bool.and_eq_true] at hm
      exact hm.1
    | error => cases hok
  | send | dropSenders | ioDropped | connPending | exchangeEnded | answeredEarly | task =>
    exact .inl ⟨b, hp, rfl⟩
  | drainRequest hp' | drainOther hp' => cases hp'.symm.trans hp
  | _ => cases hp

/-- Where the request in hand comes from. -/
structure Traced (tr : List (Rec (Sock M) (Ev M Req) (Out M Req))) (s : Sock M) : Prop where
  flight : ∀ x, s.pc = .inFlight x → LastSent tr x.msg
  processing : ∀ msg b, s.pc = .processing msg b → Outcome tr msg b.resp

theorem traced_of_run (hr : (socketMachine M Req).Run tr s) (ht : s.tasks = []) :
    Traced tr s := by
  induction hr with
  | start hi =>
    obtain ⟨self, name, rfl⟩ := hi
    exact ⟨(fun x h => by cases h), (fun msg b h => by cases h)⟩
  | @next tr s s' e os hr hst ih =>
    have hrec := ih (step_tasks_nil hst ht)
    refine ⟨fun x hp => ?_, fun msg b hp => ?_⟩
    · obtain ⟨req, hm⟩ | ⟨y, hy, hym⟩ := step_inFlight hst hp
      · exact .of_sends hm
      · rw [← hym]
        exact (hrec.flight y hy).keep (not_sends hst ht (by simp [hy]))
    · obtain ⟨b', hb', hresp⟩ | ⟨x, n, hx, rfl, he, hacc⟩ := step_processing_resp hst hp
      · rw [← hresp]
        exact (hrec.processing msg b' hb').keep (not_sends hst ht (by simp [hb']))
      · have hwire : b.resp.isOk = true → s.conn.wire = [x.msg.id] := fun hok =>
          (wired_of_run hr).flight x hx (hacc hok)
        have hs : ¬ Sends os := not_sends hst ht (by simp [hx])
        exact ⟨tr, _, [], n, rfl, hrec.flight x hx, he, hwire, by simpa using hs⟩

/-- Without spawned tasks the adaptor's answers come from the loop. -/
theorem step_answered {site : Site} {msg : RequestMsg M} {a : InternalMsg M}
    (h : s.step e = some (s', os)) (ht : s'.tasks = []) (ho : .replied site msg a ∈ os)
    (hsite : site = .response ∨ site = .responseErr) : ∃ adaptor b, e = .responded adaptor ∧
      s.pc = .processing msg b ∧
      .replied site msg a = (answerReply msg (adaptor.processHttpResponse b.resp) : Out M Req) := by
  cases mem_step h ho with
  | @responded adaptor msg' b r _ hp hr he =>
    have hmsg : msg = msg' := by cases r <;> cases he <;> rfl
    subst hmsg
    exact ⟨adaptor, b, rfl, hp, by rw [hr, he]⟩
  | task hx => simp [step_tasks_nil h ht] at hx
  | _ => rcases hsite with h | h <;> cases h

/-! ## The drain -/

/-- `close_socket!` was entered, or the task is over. -/
def Pc.closing : Pc M → Bool
  | .removeProcQueue _ | .drain _ | .drained _ | .ended _ | .panicked | .aborted => true
  | _ => false

/-- A socket that closes, and has no task, sends nothing more. -/
theorem step_closing (h : s.step e = some (s', os)) (ht : s'.tasks = [])
    (hc : s.pc.closing = true) : s'.pc.closing = true ∧ ¬ Sends os := by
  constructor
  · cases moves_of_step h with
    | send | dropSenders | ioDropped | connPending | exchangeEnded | answeredEarly | task
    | drainRequest | drainOther => exact hc
    | connErr | removed | drainEmpty | connectFailed | handshakeFailed | procQueueFailed
    | serviceFailed | connOkPanic | recvPanic | recvClosedPanic | removeFailed | returned | aborted
    | elapsed | recvShutdown => rfl
    | _ => simp [‹s.pc = _›, Pc.closing] at hc
  · refine not_sends h ht fun c hp => ?_
    rw [hp] at hc
    cases hc

theorem closing_of_run {s₀ : Sock M} (hr : ((socketMachine M Req).startAt s₀).Run tr s)
    (ht : s.tasks = []) (hc : s₀.pc.closing = true) :
    s.pc.closing = true ∧ ∀ r ∈ tr, ¬ Sends r.out := by
  induction hr with
  | start hi =>
    cases hi
    exact ⟨hc, by simp⟩
  | next _ hst ih =>
    obtain ⟨hpre, hs⟩ := ih (step_tasks_nil hst ht)
    obtain ⟨hpost, hs'⟩ := step_closing hst ht hpre
    refine ⟨hpost, fun r hm => ?_⟩
    rcases List.mem_append.1 hm with hm | hm
    · exact hs r hm
    · rwa [List.mem_singleton.1 hm]

/-- After a timeout the socket closes. -/
theorem step_elapsed (h : s.step .elapsed = some (s', os)) : s'.pc.closing = true := by
  cases moves_of_step h with
  | elapsed => rfl

/-- The number of `try_recv` in a history. -/
def tryRecvs (tr : List (Rec (Sock M) (Ev M Req) (Out M Req))) : Nat :=
  tr.countP fun r => r.ev matches .tryRecv

/-- The drain has to take `k` messages before it takes `req`. -/
def Awaits (s : Sock M) (req : RequestMsg M) (k : Nat) : Prop :=
  (∃ held, s.pc = .drain held) ∧ s.rxQueue.buf[k]? = some (.request req)

/-- The answer of the drain to `req`. -/
def Sock.refusal (s : Sock M) (req : RequestMsg M) : Out M Req :=
  .replied .drain req (req.returnErrorToSender none (.unableToReachService s.serviceName))

/-- While a request awaits the drain, a `try_recv` brings it nearer, or refuses it. -/
theorem step_awaits {req : RequestMsg M} {k : Nat} (ha : Awaits s req k)
    (h : s.step e = some (s', os)) :
    (e ≠ .tryRecv ∧ Awaits s' req k) ∨
      e = .tryRecv ∧ ((k = 0 ∧ s.refusal req ∈ os) ∨ ∃ j, k = j + 1 ∧ Awaits s' req j) := by
  obtain ⟨⟨held, hp⟩, hb⟩ := ha
  have taken : ∀ {m : InternalMsg M} {q : Chan (InternalMsg M)},
      s.rxQueue.recv = some (m, q) → (k = 0 ∧ m = .request req) ∨
        ∃ j, k = j + 1 ∧ Awaits ({ s with rxQueue := q } : Sock M) req j := by
    intro m q hq
    rw [(Chan.recv_eq_some hq).1] at hb
    cases k with
    | zero => exact .inl ⟨rfl, by simpa using hb⟩
    | succ j => exact .inr ⟨j, rfl, ⟨held, hp⟩, by simpa using hb⟩
  cases moves_of_step h with
  | send _ _ hq =>
    refine .inl ⟨by simp, ⟨held, hp⟩, ?_⟩
    rw [(Chan.send_eq_some hq).2.2.1,
      List.getElem?_append_left (List.getElem?_eq_some_iff.1 hb).1, hb]
  | dropSenders | ioDropped | task | connPending | exchangeEnded | answeredEarly =>
    exact .inl ⟨by simp, ⟨held, hp⟩, hb⟩
  | connErr hc => simp [hp, Pc.polls] at hc
  | aborted hc => simp [hp, Pc.isAwait] at hc
  | @drainRequest _ r q _ hq =>
    refine .inr ⟨rfl, (taken hq).imp_left fun ht => ⟨ht.1, ?_⟩⟩
    cases ht.2
    exact List.mem_cons_of_mem _ (List.mem_singleton.2 rfl)
  | drainOther _ hq hm =>
    refine .inr ⟨rfl, .inr ?_⟩
    obtain ⟨-, rfl⟩ | hj := taken hq
    · cases hm
    · exact hj
  | drainEmpty _ he => simp [he] at hb
  | _ => cases hp.symm.trans ‹s.pc = _›

theorem awaits_of_run {s₀ : Sock M} (hr : ((socketMachine M Req).startAt s₀).Run tr s)
    {req : RequestMsg M} {n : Nat} (ha : Awaits s₀ req n) :
    s.serviceName = s₀.serviceName ∧
      ((∃ k, Awaits s req k ∧ tryRecvs tr + k = n) ∨ s₀.refusal req ∈ outs tr) := by
  induction hr with
  | start hi =>
    cases hi
    exact ⟨rfl, .inl ⟨n, ha, Nat.zero_add n⟩⟩
  | @next tr s s' e os _ hst ih =>
    obtain ⟨hname, ih⟩ := ih
    refine ⟨(step_names hst).1.trans hname, ?_⟩
    rw [outs_append, outs_single, List.mem_append]
    rcases ih with ⟨k, hk, hn⟩ | hm
    · have href : s.refusal req = (s₀.refusal req : Out M Req) := by rw [Sock.refusal, hname]; rfl
      obtain ⟨hne, hk'⟩ | ⟨rfl, ⟨rfl, hm⟩ | ⟨j, rfl, hj⟩⟩ := step_awaits hk hst
      · refine .inl ⟨k, hk', ?_⟩
        have hz : tryRecvs (tr ++ [⟨s, e, os, s'⟩]) = tryRecvs tr := by
          cases e <;> first | exact absurd rfl hne | simp [tryRecvs]
        rw [hz, hn]
      · exact .inr (.inr (href ▸ hm))
      · refine .inl ⟨j, hj, ?_⟩
        have hz : tryRecvs (tr ++ [⟨s, .tryRecv, os, s'⟩]) = tryRecvs tr + 1 := by simp [tryRecvs]
        omega
    · exact .inr (.inl hm)

/-! ## Runs -/

/-- What every HTTP/1 run keeps: requests go one at a time and are answered first in, first out; an
answer of the adaptor is made of the outcome of its own request; after a timeout nothing is sent,
and the drain refuses what it finds in the queue. -/
structure InOrder (tr : List (Rec (Sock M) (Ev M Req) (Out M Req))) (s : Sock M) : Prop where
  single : s.conn.wire.length ≤ 1
  alone : ∀ ta r tb, tr = ta ++ r :: tb → Sends r.out → ∀ id, 0 < tally (sentOf id) (outs ta) →
    tally (repliedOf id) (outs ta) = 1
  fifo : (repliedIds (outs tr)).Sublist (acceptedIds (outs tr))
  own : ∀ ta r tb, tr = ta ++ r :: tb → ∀ site msg a, .replied site msg a ∈ r.out →
    site = .response ∨ site = .responseErr → ∃ adaptor resp, r.ev = .responded adaptor ∧
      Outcome ta msg resp ∧
      .replied site msg a = (answerReply msg (adaptor.processHttpResponse resp) : Out M Req)
  timedOut : ∀ ta r tb, tr = ta ++ r :: tb → r.ev = .elapsed → ∀ r' ∈ tb, ¬ Sends r'.out
  drains : ∀ ta r tb, tr = ta ++ r :: tb → (∃ held, r.post.pc = .drain held) →
    ∀ req n, r.post.rxQueue.buf[n]? = some (.request req) →
      ((∃ held, s.pc = .drain held) ∧ tryRecvs tb ≤ n) ∨ s.refusal req ∈ outs tb

/-- **Order and attribution over HTTP/1.** -/
theorem in_order (hr : (socketMachine M Req).Run tr s) (hproto : s.proto = .http1) :
    InOrder tr s := by
  have ht : s.tasks = [] := (shape_of_run hr).http1 hproto
  have cut : ∀ {ta tb : List (Rec (Sock M) (Ev M Req) (Out M Req))}
      {r : Rec (Sock M) (Ev M Req) (Out M Req)}, tr = ta ++ r :: tb →
        (socketMachine M Req).Run ta r.pre ∧ r.pre.step r.ev = some (r.post, r.out) ∧
          ((socketMachine M Req).startAt r.post).Run tb s ∧ r.post.tasks = [] := by
    rintro ta tb r rfl
    obtain ⟨ha, hst, hb⟩ := hr.split
    exact ⟨ha, hst, hb, tasks_nil_of_run hb ht⟩
  refine ⟨(wired_of_run hr).single, ?_, (List.sublist_append_left _ _).trans (fifo_of_run hr ht),
    ?_, ?_, ?_⟩
  · intro ta r tb he hs id hid
    obtain ⟨ha, hst, -, ht'⟩ := cut he
    obtain ⟨⟨c, hp⟩, -⟩ := step_sends hst ht' hs
    exact answered_of_idle ha (step_tasks_nil hst ht') hp hid
  · intro ta r tb he site msg a ho hsite
    obtain ⟨ha, hst, -, ht'⟩ := cut he
    obtain ⟨adaptor, b, hev, hp, ha'⟩ := step_answered hst ht' ho hsite
    have htr := traced_of_run ha (step_tasks_nil hst ht')
    exact ⟨adaptor, b.resp, hev, htr.processing msg b hp, ha'⟩
  · intro ta r tb he hev
    obtain ⟨-, hst, hb, -⟩ := cut he
    rw [hev] at hst
    exact (closing_of_run hb ht (step_elapsed hst)).2
  · intro ta r tb he hd req n hn
    obtain ⟨-, -, hb, -⟩ := cut he
    obtain ⟨hname, ⟨k, hk, hsum⟩ | hm⟩ := awaits_of_run hb ⟨hd, hn⟩
    · exact .inl ⟨hk.1, by omega⟩
    · refine .inr ?_
      rw [Sock.refusal, hname]
      exact hm

/-- Request 7 is answered, and request 8 times out with request 9 queued. -/
def timesOut : List (Ev Nat Nat) :=
  registered ++ [.send (.request ⟨7, "svc", some 1, 0⟩), .send (.request ⟨8, "svc", some 2, 0⟩),
    .send (.request ⟨9, "svc", some 3, 0⟩), .recv echo, .response (.ok ⟨200, .http11, [], []⟩) 1,
    .responded echo, .recv echo, .elapsed, .procQueueRemoved true, .tryRecv, .tryRecv, .returned]

theorem timesOut_inOrder : ∃ q,
    (socketMachine Nat Nat).exec (Sock.new plainSocket "svc") timesOut = some q ∧
      repliedIds (outs q.1) = [7, 8, 9] ∧ InOrder q.1 q.2 :=
  ⟨_, (Option.some_get rfl).symm, rfl, in_order (Machine.run_get (init_new _ _) rfl) rfl⟩

end Client
