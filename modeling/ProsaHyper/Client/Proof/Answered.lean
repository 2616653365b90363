import ProsaHyper.Client.Proof.Runs

/-!
# Requests that are never answered

A socket task that ends with `Ok(self)` can lose a request in two ways, and each has one cause:

* `answers_taken_iff`: a request taken off the queue goes unanswered iff the connection ended with
  an error while it was in flight.
* `answers_queued_iff`: a request left in the queue goes unanswered iff it was sent after the drain
  of `close_socket!` had found the queue empty.

Both are instances of `Run.caused_iff`: the effect of the cause is seen when the task returns.
-/

set_option autoImplicit false

namespace Client

open Prosa Http

variable {M Req : Type} {s s' : Sock M} {e : Ev M Req} {os : List (Out M Req)}

/-- The task ended otherwise than with `Ok(self)`. -/
def Pc.failed : Pc M → Bool
  | .ended (.error _) | .panicked | .aborted => true
  | _ => false

/-! ## Requests taken off the queue -/

/-- The message that `close_socket!` keeps out of reach until it returns. -/
def Pc.orphan : Pc M → Option (RequestMsg M)
  | .removeProcQueue msg | .drain msg | .drained msg => msg
  | _ => none

/-- The connection future ends with an error while a request is in flight. -/
def FailsInFlight (s : Sock M) (e : Ev M Req) : Prop :=
  (∃ x, s.pc = .inFlight x) ∧ ∃ err, e = .connection (some (.error err))

def anyDropped : Out M Req → Nat
  | .dropped _ => 1
  | _ => 0

theorem tally_anyDropped_drops (s : Sock M) :
    0 < tally anyDropped (s.drops : List (Out M Req)) ↔ s.pc.hand.isSome = true := by
  cases h : s.pc.hand <;> simp [anyDropped, h]

theorem anyDropped_iff (os : List (Out M Req)) :
    0 < tally anyDropped os ↔ ∃ id, 0 < tally (droppedOf id) os := by
  refine tally_pos_iff_exists (fun o => ?_) os
  cases o <;> simp [anyDropped, hit_pos]

/-- A message is kept out of reach by such a step only, until it is dropped. -/
theorem step_orphan (h : s.step e = some (s', os)) (hf : s'.pc.failed = false) :
    s.pc.failed = false ∧ (0 < tally anyDropped os ∨ s'.pc.orphan.isSome = true ↔
      s.pc.orphan.isSome = true ∨ FailsInFlight s e) := by
  cases moves_of_step h with
  | connErr hp =>
    obtain ⟨r, hp⟩ | ⟨x, hp, -⟩ := polls_connection hp <;>
      simp [hp, Pc.failed, Pc.orphan, FailsInFlight, anyDropped]
  | task hx hst =>
    have hz := fun id => (exchange_balanced id hst).2.2.2.2.1
    exact ⟨hf, by simp [anyDropped_iff, hz, FailsInFlight]⟩
  | send | dropSenders | ioDropped | connPending | exchangeEnded | answeredEarly =>
    exact ⟨hf, by simp [anyDropped, FailsInFlight]⟩
  | returned hp =>
    rw [tally_anyDropped_drops]
    simp [hp, Pc.failed, Pc.orphan, FailsInFlight, Sock.leave]
  | @response _ r _ hp _ =>
    cases r <;> simp [hp, Pc.failed, Pc.orphan, FailsInFlight, recordOut, anyDropped]
  | @responded a _ b hp =>
    cases a.processHttpResponse b.resp <;>
      simp [hp, Pc.failed, Pc.orphan, FailsInFlight, answerReply, anyDropped]
  | connectFailed | handshakeFailed | procQueueFailed | serviceFailed | connOkPanic | recvPanic
  | recvClosedPanic | removeFailed | aborted => cases hf
  | frame hp _ | connectedH2 hp | connectedHttp1 hp _ | handshaken hp | procQueueAdded hp
  | serviceAdded hp | connOkIdle hp | connOkInFlight hp _ | recvSend hp _ _ _ _ | recvSpawn hp _ _ _
  | recvRefuse hp _ _ _ _ | recvNoData hp _ _ | recvIgnored hp _ _ | recvShutdown hp _
  | recvClosed hp _ _ | elapsed hp | bodyPoll hp _ | removed hp | drainRequest hp _
  | drainOther hp _ _ | drainEmpty hp _ =>
    simp [hp, Pc.failed, Pc.orphan, FailsInFlight, anyDropped]

section
variable {tr : List (Rec (Sock M) (Ev M Req) (Out M Req))} (hr : (socketMachine M Req).Run tr s)
include hr

/-- A task that has not failed has lost a request, or is about to, iff the connection failed while
one was in flight. -/
theorem orphan_iff (hf : s.pc.failed = false) :
    0 < tally anyDropped (outs tr) ∨ s.pc.orphan.isSome = true ↔
      ∃ r ∈ tr, FailsInFlight r.pre r.ev := by
  refine hr.caused_iff (A := fun s => s.pc.failed = false)
    (B := fun s => s.pc.orphan.isSome = true) ?_ (fun _ _ _ _ _ _ hst hf => step_orphan hst hf) hf
  rintro s ⟨self, name, rfl⟩
  simp [Sock.new, Pc.orphan]

/-- **Requests taken by an HTTP/1 socket.** In a run to `Ok(self)` each request taken off the queue,
by the loop or by the drain, gets exactly one reply iff the connection never failed with a request
in flight. -/
theorem answers_taken_iff {self : HyperClientSocket} (hp : s.pc = .ended (.ok self))
    (hproto : s.proto = .http1) :
    (∀ id, 0 < tally (takenOf id) (outs tr) → tally (repliedOf id) (outs tr) = 1) ↔
      Machine.Along (fun s e => ¬ FailsInFlight s e) tr := by
  have hheld : ∀ id, held s id = 0 := fun id => by
    simp [held, inHand, hp, (shape_of_run hr).http1 hproto]
  refine ((handCustody M Req).all_settled_iff hr hheld fun id => taken_le hr id).trans ?_
  rw [Machine.along_not_iff, ← orphan_iff hr (by simp [hp, Pc.failed]), anyDropped_iff]
  simp [hp, Pc.orphan, handCustody, Nat.pos_iff_ne_zero]

end

/-- The connection fails with request 7 in flight. -/
def failsInFlight : List (Ev Nat Nat) :=
  registered ++ [.send (.request ⟨7, "svc", some 1, 0⟩), .recv echo,
    .connection (some (.error (.other "connection reset"))), .procQueueRemoved true, .tryRecv,
    .returned]

/-- Request 7 is taken, the task ends with `Ok(self)`, and there is no reply. -/
theorem inFlight_unanswered : ∃ q,
    (socketMachine Nat Nat).exec (Sock.new plainSocket "svc") failsInFlight = some q ∧
      (socketMachine Nat Nat).Run q.1 q.2 ∧ q.2.pc = .ended (.ok plainSocket) ∧
      q.2.proto = .http1 ∧ tally (takenOf 7) (outs q.1) = 1 ∧ tally (repliedOf 7) (outs q.1) = 0 :=
  ⟨_, (Option.some_get rfl).symm, Machine.run_get (init_new _ _) rfl, rfl, rfl, rfl, rfl⟩

/-- Request 7 is answered, then the task is shut down. -/
def servesOne : List (Ev Nat Nat) :=
  registered ++ [.send (.request ⟨7, "svc", some 1, 0⟩), .recv echo,
    .response (.ok ⟨200, .http11, [], []⟩) 1, .responded echo, .send .shutdown, .recv echo,
    .procQueueRemoved true, .tryRecv, .returned]

theorem servesOne_answers : ∃ q,
    (socketMachine Nat Nat).exec (Sock.new plainSocket "svc") servesOne = some q ∧
      ((∀ id, 0 < tally (takenOf id) (outs q.1) → tally (repliedOf id) (outs q.1) = 1) ↔
        Machine.Along (fun s e => ¬ FailsInFlight s e) q.1) :=
  ⟨_, (Option.some_get rfl).symm, answers_taken_iff (Machine.run_get (init_new _ _) rfl) rfl rfl⟩

/-! ## Requests left in the queue -/

/-- A request is sent on the queue after the drain has found it empty. -/
def SentTooLate (s : Sock M) (e : Ev M Req) : Prop :=
  (∃ msg, s.pc = .drained msg) ∧ ∃ r, e = .send (.request r)

/-- A request is queued after the drain. -/
def Stray (s : Sock M) : Prop := (∃ msg, s.pc = .drained msg) ∧ ∃ r, .request r ∈ s.rxQueue.buf

def anyDiscarded : Out M Req → Nat
  | .discarded _ => 1
  | _ => 0

theorem anyDiscarded_iff (os : List (Out M Req)) :
    0 < tally anyDiscarded os ↔ ∃ id, 0 < tally (discardedOf id) os := by
  refine tally_pos_iff_exists (fun o => ?_) os
  cases o <;> simp [anyDiscarded, hit_pos]

theorem tally_anyDiscarded_drops (s : Sock M) :
    0 < tally anyDiscarded (s.drops : List (Out M Req)) ↔ ∃ r, .request r ∈ s.rxQueue.buf := by
  rw [tally_pos_iff]
  constructor
  · rintro ⟨o, ho, hp⟩
    simp only [Sock.drops, List.mem_append, List.mem_map, List.mem_filterMap] at ho
    rcases ho with ⟨msg, -, rfl⟩ | ⟨msg, ⟨m, hm, hr⟩, rfl⟩
    · cases hp
    · cases m <;> cases hr
      exact ⟨_, hm⟩
  · rintro ⟨r, hr⟩
    refine ⟨.discarded r, ?_, Nat.one_pos⟩
    exact List.mem_append_right _ (List.mem_map_of_mem (List.mem_filterMap.2 ⟨_, hr, rfl⟩))

theorem step_stray (h : s.step e = some (s', os)) (hf : s'.pc.failed = false) :
    s.pc.failed = false ∧ (0 < tally anyDiscarded os ∨ Stray s' ↔ Stray s ∨ SentTooLate s e) := by
  cases moves_of_step h with
  | send _ _ hq =>
    refine ⟨hf, ?_⟩
    simp only [Stray, SentTooLate, (Chan.send_eq_some hq).2.2.1, List.mem_append,
      List.mem_singleton, exists_or, and_or_left, Ev.send.injEq]
    simp [anyDiscarded, eq_comm]
  | connErr hp =>
    obtain ⟨r, hp⟩ | ⟨x, hp, -⟩ := polls_connection hp <;>
      simp [hp, Pc.failed, Stray, SentTooLate, anyDiscarded]
  | task hx hst =>
    have hz := fun id => (exchange_balanced id hst).2.2.2.2.2
    exact ⟨hf, by simp [anyDiscarded_iff, hz, Stray, SentTooLate]⟩
  | dropSenders | ioDropped | connPending | exchangeEnded | answeredEarly =>
    exact ⟨hf, by simp [anyDiscarded, Stray, SentTooLate]⟩
  | returned hp =>
    rw [tally_anyDiscarded_drops]
    simp [hp, Pc.failed, Stray, SentTooLate, Sock.leave]
  | @response _ r _ hp _ =>
    cases r <;> simp [hp, Pc.failed, Stray, SentTooLate, recordOut, anyDiscarded]
  | @responded a _ b hp =>
    cases a.processHttpResponse b.resp <;>
      simp [hp, Pc.failed, Stray, SentTooLate, answerReply, anyDiscarded]
  | drainEmpty hp hb => simp [hp, hb, Pc.failed, Stray, SentTooLate]
  | connectFailed | handshakeFailed | procQueueFailed | serviceFailed | connOkPanic | recvPanic
  | recvClosedPanic | removeFailed | aborted => cases hf
  | frame hp _ | connectedH2 hp | connectedHttp1 hp _ | handshaken hp | procQueueAdded hp
  | serviceAdded hp | connOkIdle hp | connOkInFlight hp _ | recvSend hp _ _ _ _ | recvSpawn hp _ _ _
  | recvRefuse hp _ _ _ _ | recvNoData hp _ _ | recvIgnored hp _ _ | recvShutdown hp _
  | recvClosed hp _ _ | elapsed hp | bodyPoll hp _ | removed hp | drainRequest hp _
  | drainOther hp _ _ =>
    simp [hp, Pc.failed, Stray, SentTooLate, anyDiscarded]

theorem stray_iff {tr : List (Rec (Sock M) (Ev M Req) (Out M Req))}
    (hr : (socketMachine M Req).Run tr s) (hf : s.pc.failed = false) :
    0 < tally anyDiscarded (outs tr) ∨ Stray s ↔ ∃ r ∈ tr, SentTooLate r.pre r.ev := by
  refine hr.caused_iff (A := fun s => s.pc.failed = false) (B := Stray) ?_
    (fun _ _ _ _ _ _ hst hf => step_stray hst hf) hf
  rintro s ⟨self, name, rfl⟩
  simp [Sock.new, Stray]

/-! ## The drain replies to what it takes -/

@[simp] def drainReplyOf (id : Nat) : Out M Req → Nat
  | .replied .drain msg _ => hit id msg
  | _ => 0

/-- The replies to `id` that do not come from the drain. -/
def loopReplyOf (id : Nat) : Out M Req → Nat
  | .replied .drain _ _ => 0
  | .replied _ msg _ => hit id msg
  | _ => 0

theorem step_drained (id : Nat) (h : s.step e = some (s', os)) :
    tally (drainReplyOf id) os = tally (drainedOf id) os := by
  cases moves_of_step h with
  | task _ hst =>
    refine tally_congr fun o ho => ?_
    cases mem_exchange hst ho with
    | @responded _ _ r _ _ he => subst he; cases r <;> rfl
    | _ => rfl
  | @response _ r _ hp _ => cases r <;> simp [recordOut]
  | @responded a _ b hp => cases a.processHttpResponse b.resp <;> simp [answerReply]
  | _ => simp

/-- `id` is answered once, and refused with the name of the service. -/
structure RefusedOnce (name : String) (id : Nat) (os : List (Out M Req)) : Prop where
  once : tally (repliedOf id) os = 1
  refusal : ∀ site msg a, .replied site msg a ∈ os → msg.id = id →
    a = msg.returnErrorToSender none (.unableToReachService name)

section
variable {tr : List (Rec (Sock M) (Ev M Req) (Out M Req))} (hr : (socketMachine M Req).Run tr s)
include hr

theorem drained_of_run (id : Nat) :
    tally (drainReplyOf id) (outs tr) = tally (drainedOf id) (outs tr) := by
  induction hr with
  | start => rfl
  | next _ hst ih => simp only [outs_append, outs_single, tally_append, ih, step_drained id hst]

theorem refused_of_drained {id : Nat} (hd : tally (drainedOf id) (outs tr) = 1) :
    RefusedOnce s.serviceName id (outs tr) := by
  have hle : tally (drainReplyOf id) (outs tr) + tally (loopReplyOf id) (outs tr) ≤
      tally (repliedOf id) (outs tr) := by
    rw [← tally_add]
    refine tally_le fun o _ => ?_
    cases o with
    | replied site msg a => cases site <;> simp [loopReplyOf]
    | _ => simp [loopReplyOf]
  have h1 := replied_le hr id
  have h2 := drained_of_run hr id
  refine ⟨by omega, fun site msg a ho hid => ?_⟩
  have hloop : tally (loopReplyOf id) (outs tr) = 0 := by omega
  have hz := tally_eq_zero.1 hloop _ ho
  cases site with
  | drain => exact answers_of_run hr ho
  | _ => simp [loopReplyOf, ← hid] at hz

/-- **Requests left in the queue.** In a run to `Ok(self)` each request that the queue accepted and
the loop did not take is refused once by the drain iff no request was sent too late. -/
theorem answers_queued_iff {self : HyperClientSocket} (hp : s.pc = .ended (.ok self)) :
    (∀ id, 0 < tally (acceptedOf id) (outs tr) → tally (receivedOf id) (outs tr) = 0 →
        RefusedOnce s.serviceName id (outs tr)) ↔
      Machine.Along (fun s e => ¬ SentTooLate s e) tr := by
  have hqueued : ∀ id, (queueCustody M Req).held s id = 0 := fun id => by
    show queued s id = 0
    rw [queued, (shape_of_run hr).buf_nil (by rw [hp]; rfl)]
    rfl
  have htaken : ∀ id, tally (takenOf id) (outs tr) =
      tally (receivedOf id) (outs tr) + tally (drainedOf id) (outs tr) := fun id => by
    rw [← tally_add]
    exact tally_congr fun o _ => by cases o <;> simp
  have hstray : ¬ Stray s := by simp [Stray, hp]
  rw [Machine.along_not_iff, ← stray_iff hr (by simp [hp, Pc.failed]), or_iff_left hstray,
    anyDiscarded_iff]
  constructor
  · rintro h ⟨id, hd⟩
    -- the discarded request was not taken, so no reply can follow
    have hnot : tally (takenOf id) (outs tr) = 0 :=
      (queueCustody M Req).settled_or_lost hr (accepted_le hr id) hd
    have hacc := (queueCustody M Req).lost_le hr id
    have hrep := (handCustody M Req).settled_le hr id
    simp only [queueCustody, handCustody] at hacc hrep
    rw [htaken id] at hnot
    have hone := (h id (by omega) (by omega)).once
    rw [htaken id] at hrep
    omega
  · intro hd id ha hrec
    have hkept : tally (discardedOf id) (outs tr) = 0 :=
      Nat.eq_zero_of_not_pos fun h => hd ⟨id, h⟩
    have hacc : tally (acceptedOf id) (outs tr) = 1 := Nat.le_antisymm (accepted_le hr id) ha
    have hone : tally (takenOf id) (outs tr) = 1 :=
      ((queueCustody M Req).settled_once_iff hr hacc (hqueued id)).2 hkept
    rw [htaken id, hrec, Nat.zero_add] at hone
    exact refused_of_drained hr hone

end

/-- Request 7 is sent between the last `try_recv` and the return. -/
def sendsTooLate : List (Ev Nat Nat) :=
  registered ++ [.send .shutdown, .recv echo, .procQueueRemoved true, .tryRecv,
    .send (.request ⟨7, "svc", some 1, 0⟩), .returned]

/-- The send of request 7 succeeds after the drain, and there is no reply. -/
theorem sentTooLate_unanswered : ∃ q,
    (socketMachine Nat Nat).exec (Sock.new plainSocket "svc") sendsTooLate = some q ∧
      (socketMachine Nat Nat).Run q.1 q.2 ∧ q.2.pc = .ended (.ok plainSocket) ∧
      tally (acceptedOf 7) (outs q.1) = 1 ∧ tally (receivedOf 7) (outs q.1) = 0 ∧
      tally (repliedOf 7) (outs q.1) = 0 :=
  ⟨_, (Option.some_get rfl).symm, Machine.run_get (init_new _ _) rfl, rfl, rfl, rfl, rfl⟩

/-- Request 7 is left in the queue when the task is shut down. -/
def drainsOne : List (Ev Nat Nat) :=
  registered ++ [.send .shutdown, .send (.request ⟨7, "svc", some 1, 0⟩), .recv echo,
    .procQueueRemoved true, .tryRecv, .tryRecv, .returned]

theorem drainsOne_answers : ∃ q,
    (socketMachine Nat Nat).exec (Sock.new plainSocket "svc") drainsOne = some q ∧
      ((∀ id, 0 < tally (acceptedOf id) (outs q.1) → tally (receivedOf id) (outs q.1) = 0 →
          RefusedOnce q.2.serviceName id (outs q.1)) ↔
        Machine.Along (fun s e => ¬ SentTooLate s e) q.1) :=
  ⟨_, (Option.some_get rfl).symm, answers_queued_iff (Machine.run_get (init_new _ _) rfl) rfl⟩

end Client
