import ProsaHyper.Lib.Custody
import ProsaHyper.Client.Proof.Cases

/-!
# The books of a socket

Requests are counted by id through the queue and through the task. `step_balanced`: every step of a
socket balances three books at once, which makes three custodies of `socketMachine`:

* `queueCustody`: a request accepted by the queue stays queued until the loop or the drain takes
  it, or it is discarded with the receiver.
* `handCustody`: a request taken off the queue is in the hand of the loop or of a spawned task until
  it is replied to, or dropped.
* `sendCustody`: a request taken off the queue is given to the sender, or answered without; between
  the two it waits in a task that has not started.
-/

set_option autoImplicit false

namespace Client

open Prosa Http

variable {M Req : Type}

/-! ## Counting requests -/

/-- `msg` counts for `id`. -/
def hit (id : Nat) (msg : RequestMsg M) : Nat := if msg.id = id then 1 else 0

/-- A queued message counts for `id` if it is a request. -/
def msgHit (id : Nat) : InternalMsg M → Nat
  | .request r => hit id r
  | _ => 0

@[simp] theorem msgHit_request (id : Nat) (r : RequestMsg M) : msgHit id (.request r) = hit id r :=
  rfl

theorem msgHit_of_request? {m : InternalMsg M} (id : Nat) (h : m.request? = none) :
    msgHit id m = 0 := by
  cases m <;> first | rfl | cases h

@[simp] theorem hit_takeData (id : Nat) (msg : RequestMsg M) :
    hit id msg.takeData.2 = hit id msg := rfl

theorem hit_le (id : Nat) (msg : RequestMsg M) : hit id msg ≤ 1 := by
  unfold hit; split <;> omega

theorem hit_pos {id : Nat} {msg : RequestMsg M} : 0 < hit id msg ↔ msg.id = id := by
  unfold hit; split <;> simp_all

@[simp] theorem hit_self (msg : RequestMsg M) : hit msg.id msg = 1 := by simp [hit]

@[simp] def acceptedOf (id : Nat) : Out M Req → Nat
  | .accepted m => msgHit id m
  | _ => 0

@[simp] def receivedOf (id : Nat) : Out M Req → Nat
  | .received msg => hit id msg
  | _ => 0

@[simp] def drainedOf (id : Nat) : Out M Req → Nat
  | .drained msg => hit id msg
  | _ => 0

/-- Taken off the queue, by the loop or by the drain. -/
@[simp] def takenOf (id : Nat) : Out M Req → Nat
  | .received msg | .drained msg => hit id msg
  | _ => 0

@[simp] def discardedOf (id : Nat) : Out M Req → Nat
  | .discarded msg => hit id msg
  | _ => 0

@[simp] def repliedOf (id : Nat) : Out M Req → Nat
  | .replied _ msg _ => hit id msg
  | _ => 0

@[simp] def droppedOf (id : Nat) : Out M Req → Nat
  | .dropped msg => hit id msg
  | _ => 0

@[simp] def sentOf (id : Nat) : Out M Req → Nat
  | .sendRequest msg _ => hit id msg
  | _ => 0

/-- The replies to a request that was never given to the sender. -/
@[simp] def unsentReplyOf (id : Nat) : Out M Req → Nat
  | .replied .srvRequestErr msg _ | .replied .noData msg _ | .replied .drain msg _ => hit id msg
  | _ => 0

/-- The requests of a list of queued messages. -/
def queuedIn (id : Nat) (l : List (InternalMsg M)) : Nat := tally (msgHit id) l

def Exchange.open? (x : Exchange M) : Bool :=
  match x.pc with
  | .finished => false
  | _ => true

def Exchange.unsent? (x : Exchange M) : Bool :=
  match x.pc with
  | .start _ => true
  | _ => false

/-- What a spawned task holds. -/
def Exchange.holds (id : Nat) (x : Exchange M) : Nat := if x.open? then hit id x.msg else 0

theorem holds_pos {id : Nat} {x : Exchange M} :
    0 < x.holds id ↔ x.open? = true ∧ x.msg.id = id := by
  unfold Exchange.holds
  split <;> rename_i h <;> simp [h, hit_pos]

/-- What a spawned task has still to send. -/
def Exchange.owes (id : Nat) (x : Exchange M) : Nat := if x.unsent? then hit id x.msg else 0

def queued (s : Sock M) (id : Nat) : Nat := queuedIn id s.rxQueue.buf

def inHand (pc : Pc M) (id : Nat) : Nat := tally (hit id) pc.hand.toList

def held (s : Sock M) (id : Nat) : Nat := inHand s.pc id + tally (Exchange.holds id) s.tasks

def unsent (s : Sock M) (id : Nat) : Nat := tally (Exchange.owes id) s.tasks

/-! ## The books of a step -/

/-- The three books of `id` over a step with outputs `os` to `s'`, from `q` queued, `h` held and
`u` unsent. -/
structure Balanced (id q h u : Nat) (r : Sock M × List (Out M Req)) : Prop where
  queue : queued r.1 id + tally (takenOf id) r.2 + tally (discardedOf id) r.2 =
    q + tally (acceptedOf id) r.2
  hand : held r.1 id + tally (repliedOf id) r.2 + tally (droppedOf id) r.2 =
    h + tally (takenOf id) r.2
  send : unsent r.1 id + tally (sentOf id) r.2 + tally (unsentReplyOf id) r.2 =
    u + tally (takenOf id) r.2

section
variable {s : Sock M} {id : Nat}

@[simp] theorem tally_requests (id : Nat) (l : List (InternalMsg M)) :
    tally (hit id) (l.filterMap InternalMsg.request?) = queuedIn id l := by
  induction l with
  | nil => rfl
  | cons m l ih =>
    simp only [queuedIn, tally_cons, List.filterMap_cons] at ih ⊢
    cases m <;> simp [ih, msgHit]

/-- The end of a task drops what is in hand and discards what is queued. -/
theorem leave_balanced (pc : Pc M) (hp : pc.hand = none) :
    Balanced id (queued s id) (held s id) (unsent s id) (s.leave pc : _ × List (Out M Req)) := by
  refine ⟨?_, ?_, ?_⟩ <;>
    simp [Sock.leave, Sock.drops, queued, queuedIn, held, inHand, unsent, hp, tally_map,
      Nat.add_comm]

/-- A spawned task replies once, and sends before it replies otherwise than with a refusal. -/
theorem exchange_balanced {x x' : Exchange M} {self : HyperClientSocket} {name : String}
    {alive : Bool} {e : TaskEv M Req} {os : List (Out M Req)} (id : Nat)
    (h : x.step self name alive e = some (x', os)) :
    x'.holds id + tally (repliedOf id) os = x.holds id ∧
      x'.owes id + tally (sentOf id) os + tally (unsentReplyOf id) os = x.owes id ∧
      tally (takenOf id) os = 0 ∧ tally (acceptedOf id) os = 0 ∧ tally (droppedOf id) os = 0 ∧
      tally (discardedOf id) os = 0 := by
  cases taskMoves_of_step h with
  | sent hp _ | refused hp _ | elapsed hp | frame hp _ | bodyPoll hp _ =>
    simp [Exchange.holds, Exchange.owes, Exchange.open?, Exchange.unsent?, hp]
  | @response r _ _ hp _ =>
    cases r <;>
      simp [Exchange.holds, Exchange.owes, Exchange.open?, Exchange.unsent?, hp, recordOut]
  | @responded a b hp =>
    cases a.processHttpResponse b.resp <;>
      simp [Exchange.holds, Exchange.owes, Exchange.open?, Exchange.unsent?, hp, answerReply]

end

/-- The queue after its oldest message was taken. -/
theorem queuedIn_recv {c c' : Chan (InternalMsg M)} {m : InternalMsg M} (id : Nat)
    (h : c.recv = some (m, c')) : queuedIn id c.buf = msgHit id m + queuedIn id c'.buf :=
  Chan.tally_recv h

theorem queuedIn_send {c c' : Chan (InternalMsg M)} {m : InternalMsg M} (id : Nat)
    (h : c.send m = some c') : queuedIn id c'.buf = queuedIn id c.buf + msgHit id m :=
  Chan.tally_send h

@[simp] theorem tally_repolls (f : Out M Req → Nat) (s : Sock M) :
    tally f s.repolls = if s.conn.completed.isSome then f .repolled else 0 := by
  unfold Sock.repolls
  split <;> simp

theorem msgHit_isAnswer {m : InternalMsg M} (id : Nat) (h : isAnswer m = true) :
    msgHit id m = 0 := by
  cases m <;> first | rfl | cases h

theorem msgHit_ignored {m : InternalMsg M} (id : Nat) (h : ignored m = true) :
    msgHit id m = 0 := by
  cases m <;> first | rfl | cases h

/-- **Every step balances the books.** -/
theorem step_balanced {s s' : Sock M} {e : Ev M Req} {os : List (Out M Req)} (id : Nat)
    (h : s.step e = some (s', os)) :
    Balanced id (queued s id) (held s id) (unsent s id) (s', os) := by
  cases moves_of_step h with
  | connectFailed | handshakeFailed | procQueueFailed | serviceFailed | recvClosedPanic
  | removeFailed | returned | aborted => exact leave_balanced _ rfl
  | send _ _ hq => refine ⟨?_, ?_, ?_⟩ <;> simp [queued, held, unsent, queuedIn_send id hq]
  | dropSenders | ioDropped | connPending | exchangeEnded | answeredEarly =>
    refine ⟨?_, ?_, ?_⟩ <;> simp [queued, held, unsent, inHand]
  | connErr => refine ⟨?_, ?_, ?_⟩ <;> simp [queued, held, unsent, inHand]
  | frame hp _ | connectedH2 hp | connectedHttp1 hp _ | handshaken hp | procQueueAdded hp
  | serviceAdded hp | connOkIdle hp | connOkInFlight hp _ | recvClosed hp _ _ | bodyPoll hp _
  | removed hp | drainEmpty hp _ =>
    refine ⟨?_, ?_, ?_⟩ <;> simp [queued, held, unsent, inHand, hp]
  | connOkPanic hp =>
    obtain ⟨hq, hh, hu⟩ : Balanced id _ _ _ (s.leave .panicked : _ × List (Out M Req)) :=
      leave_balanced .panicked rfl
    refine ⟨?_, ?_, ?_⟩ <;> simp_all [queued, held, unsent, Sock.leave]
  | recvSend hp _ hq _ _ =>
    refine ⟨?_, ?_, ?_⟩ <;>
      simp [queued, held, unsent, inHand, hp, queuedIn_recv id hq, Nat.add_comm]
  | recvSpawn hp _ hq _ =>
    refine ⟨?_, ?_, ?_⟩ <;>
      simp [queued, held, unsent, inHand, hp, queuedIn_recv id hq, Exchange.holds,
        Exchange.open?, Exchange.owes, Exchange.unsent?]
    omega
  | recvRefuse hp _ hq _ _ | recvNoData hp hq _ | drainRequest hp hq =>
    refine ⟨?_, ?_, ?_⟩ <;> simp [queued, held, unsent, inHand, hp, queuedIn_recv id hq]
    omega
  | @recvPanic _ _ _ q hp hq ha =>
    obtain ⟨h1, h2, h3⟩ : Balanced id (queued { s with rxQueue := q } id) _ _
        (({ s with rxQueue := q } : Sock M).leave .panicked : _ × List (Out M Req)) :=
      leave_balanced .panicked rfl
    have hm := queuedIn_recv id hq
    rw [msgHit_isAnswer id ha, Nat.zero_add] at hm
    refine ⟨?_, h2, h3⟩
    rw [show queued s id = queued { s with rxQueue := q } id from hm]
    exact h1
  | recvIgnored hp hq hm =>
    refine ⟨?_, ?_, ?_⟩ <;>
      simp [queued, held, unsent, inHand, hp, queuedIn_recv id hq, msgHit_ignored id hm]
  | recvShutdown hp hq =>
    refine ⟨?_, ?_, ?_⟩ <;>
      simp [queued, held, unsent, inHand, hp, queuedIn_recv id hq, msgHit]
  | @response _ r _ hp _ =>
    refine ⟨?_, ?_, ?_⟩ <;> cases r <;> simp [queued, held, unsent, inHand, hp, recordOut]
  | elapsed hp =>
    refine ⟨?_, ?_, ?_⟩ <;> simp [queued, held, unsent, inHand, hp, Nat.add_comm]
  | @responded a _ b hp =>
    refine ⟨?_, ?_, ?_⟩ <;> cases a.processHttpResponse b.resp <;>
      simp [queued, held, unsent, inHand, hp, answerReply, Nat.add_comm]
  | drainOther hp hq hm =>
    refine ⟨?_, ?_, ?_⟩ <;>
      simp [queued, held, unsent, inHand, hp, queuedIn_recv id hq, msgHit_of_request? id hm]
  | @task _ _ _ x' _ hx hst =>
    obtain ⟨hh, hu, h1, h2, h3, h4⟩ := exchange_balanced id hst
    have hs := tally_set (f := Exchange.holds id) hx x'
    have ho := tally_set (f := Exchange.owes id) hx x'
    refine ⟨?_, ?_, ?_⟩ <;> simp only [queued, held, unsent] <;> omega

/-! ## The three custodies -/

variable (M Req)

/-- Requests accepted by the queue, until they are taken off it or discarded. -/
def queueCustody : Custody (socketMachine M Req) Nat where
  held := queued
  taken := acceptedOf
  settled := takenOf
  lost := discardedOf
  held_init := by rintro s ⟨self, name, rfl⟩ id; rfl
  held_step _ _ _ _ h id := (step_balanced id h).queue

/-- Requests taken off the queue, until they are replied to or dropped. -/
def handCustody : Custody (socketMachine M Req) Nat where
  held := held
  taken := takenOf
  settled := repliedOf
  lost := droppedOf
  held_init := by rintro s ⟨self, name, rfl⟩ id; rfl
  held_step _ _ _ _ h id := (step_balanced id h).hand

/-- Requests taken off the queue, until they are given to the sender or answered without. -/
def sendCustody : Custody (socketMachine M Req) Nat where
  held := unsent
  taken := takenOf
  settled := sentOf
  lost := unsentReplyOf
  held_init := by rintro s ⟨self, name, rfl⟩ id; rfl
  held_step _ _ _ _ h id := (step_balanced id h).send

end Client
