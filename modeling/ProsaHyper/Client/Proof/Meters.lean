import ProsaHyper.Client.Proof.Source
import ProsaHyper.Client.Proof.Terminate
import ProsaHyper.Lib.Depot

/-!
# The meters of the client

`prosa_hyper_cli_duration` records the exchanges of a socket, `prosa_hyper_cli_socket` the number of
socket tasks.

* `exchanges_recorded`: every HTTP request given to a sender is recorded once it has an outcome,
  with its code and version; one that timed out, or lost its connection, is not.
* `sockets_recorded`: while the set exists the gauge is its size, except after the join error that
  ends the processor.
-/

set_option autoImplicit false

namespace Client

open Prosa Http

variable {M Req : Type}

/-! ## The histogram -/

/-- The exchange of the loop that has no outcome, also one whose connection ended. -/
def Pc.exchanges : Pc M → Nat
  | .inFlight _ => 1
  | .removeProcQueue msg | .drain msg | .drained msg => msg.toList.length
  | _ => 0

/-- The outcome the loop has not answered with. -/
def Pc.readings : Pc M → Nat
  | .processing _ _ => 1
  | _ => 0

def Exchange.exchanges (x : Exchange M) : Nat :=
  match x.pc with
  | .sending _ => 1
  | _ => 0

def Exchange.readings (x : Exchange M) : Nat :=
  match x.pc with
  | .processing _ => 1
  | _ => 0

/-- The exchanges of a socket without an outcome. -/
def exchanges (s : Sock M) : Nat := s.pc.exchanges + tally Exchange.exchanges s.tasks

/-- The outcomes of a socket that are not answered with. -/
def readings (s : Sock M) : Nat := s.pc.readings + tally Exchange.readings s.tasks

@[simp] def Out.requested : Out M Req → Nat
  | .sendRequest _ _ => 1
  | _ => 0

@[simp] def Out.records : Out M Req → Nat
  | .record _ _ => 1
  | _ => 0

@[simp] def Out.timesOut : Out M Req → Nat
  | .replied .timeout _ _ => 1
  | _ => 0

@[simp] def Out.tells : Out M Req → Nat
  | .replied .response _ _ | .replied .responseErr _ _ => 1
  | _ => 0

@[simp] def Out.drops : Out M Req → Nat
  | .dropped _ => 1
  | _ => 0

/-- A step drops an exchange that has no outcome. -/
def lostExchange (r : Rec (Sock M) (Ev M Req) (Out M Req)) : Nat :=
  if r.pre.pc.readings = 0 then tally Out.drops r.out else 0

/-- A step drops an outcome. -/
def lostReading (r : Rec (Sock M) (Ev M Req) (Out M Req)) : Nat :=
  if r.pre.pc.readings = 0 then 0 else tally Out.drops r.out

/-- The label of a request without a response. -/
def Ev.label : Ev M Req → String
  | .task _ _ => "HTTP/2"
  | _ => "HTTP/1"

section
variable {s s' : Sock M} {e : Ev M Req} {os : List (Out M Req)}

/-- The exchanges and outcomes over a step. -/
structure Metered (s : Sock M) (e : Ev M Req) (os : List (Out M Req)) (s' : Sock M) : Prop where
  exchanges : exchanges s + tally Out.requested os =
    tally Out.records os + tally Out.timesOut os + lostExchange ⟨s, e, os, s'⟩ + exchanges s'
  readings : readings s + tally Out.records os =
    tally Out.tells os + lostReading ⟨s, e, os, s'⟩ + readings s'

/-- A loop holds an exchange or an outcome. -/
theorem length_hand (pc : Pc M) : pc.hand.toList.length = pc.exchanges + pc.readings := by
  cases pc <;> rfl

theorem exchanges_eq_zero {pc : Pc M} (h : pc.readings ≠ 0) : pc.exchanges = 0 := by
  cases pc <;> first | rfl | exact absurd rfl h

/-- What ends a task drops what is in hand. -/
theorem tally_leave {t : Sock M} {pre : List (Out M Req)} (hpre : ∀ o ∈ pre, o = .repolled)
    (f : Out M Req → Nat) (hrep : f .repolled = 0) (hdis : ∀ msg, f (.discarded msg) = 0) {n : Nat}
    (hdrop : ∀ msg, f (.dropped msg) = n) :
    tally f (pre ++ t.drops) = (t.pc.exchanges + t.pc.readings) * n := by
  have hz : tally f pre = 0 := tally_eq_zero.2 fun o ho => by rw [hpre o ho, hrep]
  rw [tally_append, tally_drops, hz, ← length_hand]
  simp [hdis, hdrop, tally]

/-- The meters at the end of a task. -/
theorem leave_metered {t : Sock M} (pre : List (Out M Req)) (pc : Pc M)
    (hpre : ∀ o ∈ pre, o = .repolled) (hp : pc.hand = none) (hpc : t.pc = s.pc)
    (ht : t.tasks = s.tasks) :
    Metered s e (pre ++ t.drops) (t.leave pc : _ × List (Out M Req)).1 := by
  have hz : pc.exchanges = 0 ∧ pc.readings = 0 := by
    have := length_hand pc
    rw [hp] at this
    exact Nat.add_eq_zero_iff.1 this.symm
  have hx : s.pc.readings ≠ 0 → s.pc.exchanges = 0 := exchanges_eq_zero
  refine ⟨?_, ?_⟩
  · simp only [exchanges, lostExchange, Sock.leave, hz, ht, ← hpc,
      tally_leave hpre Out.requested rfl (fun _ => rfl) fun _ => rfl,
      tally_leave hpre Out.records rfl (fun _ => rfl) fun _ => rfl,
      tally_leave hpre Out.timesOut rfl (fun _ => rfl) fun _ => rfl,
      tally_leave hpre Out.drops rfl (fun _ => rfl) fun _ => rfl]
    rw [hpc]
    split <;> omega
  · simp only [readings, lostReading, Sock.leave, hz, ht, ← hpc,
      tally_leave hpre Out.records rfl (fun _ => rfl) fun _ => rfl,
      tally_leave hpre Out.tells rfl (fun _ => rfl) fun _ => rfl,
      tally_leave hpre Out.drops rfl (fun _ => rfl) fun _ => rfl]
    rw [hpc]
    split <;> omega

/-- The meters of a spawned task. -/
theorem exchange_metered {x x' : Exchange M} {self : HyperClientSocket} {name : String}
    {alive : Bool} {e : TaskEv M Req} {os : List (Out M Req)}
    (h : x.step self name alive e = some (x', os)) :
    x.exchanges + tally Out.requested os =
        tally Out.records os + tally Out.timesOut os + x'.exchanges ∧
      x.readings + tally Out.records os = tally Out.tells os + x'.readings ∧
      tally Out.drops os = 0 := by
  cases taskMoves_of_step h with
  | sent hp | refused hp | elapsed hp | frame hp | bodyPoll hp =>
    simp [Exchange.exchanges, Exchange.readings, hp]
  | @response r _ _ hp =>
    cases r <;> simp [Exchange.exchanges, Exchange.readings, hp, recordOut]
  | @responded a b hp =>
    cases a.processHttpResponse b.resp <;>
      simp [Exchange.exchanges, Exchange.readings, hp, answerReply]

/-- **Every step keeps the meters.** -/
theorem step_metered (h : s.step e = some (s', os)) : Metered s e os s' := by
  cases moves_of_step h with
  | connectFailed | handshakeFailed | procQueueFailed | serviceFailed | recvClosedPanic
  | removeFailed | returned | aborted | recvPanic =>
    exact leave_metered [] _ (by simp) rfl rfl rfl
  | connOkPanic =>
    refine leave_metered (t := { s with conn := { s.conn with completed := some (.ok ()) } }) _
      .panicked (fun o ho => ?_) rfl rfl rfl
    unfold Sock.repolls at ho
    split at ho
    · exact List.mem_singleton.1 ho
    · cases ho
  | connErr hc =>
    obtain ⟨r, hp⟩ | ⟨x, hp, -⟩ := polls_connection hc <;>
      refine ⟨?_, ?_⟩ <;>
        simp [exchanges, readings, lostExchange, lostReading, Pc.exchanges, Pc.readings, hp]
  | frame hp | connectedH2 hp | connectedHttp1 hp | handshaken hp | procQueueAdded hp
  | serviceAdded hp | connOkIdle hp | connOkInFlight hp | recvSend hp | recvSpawn hp
  | recvRefuse hp | recvNoData hp | recvIgnored hp | recvShutdown hp | recvClosed hp
  | elapsed hp | bodyPoll hp | removed hp | drainRequest hp | drainOther hp | drainEmpty hp =>
    refine ⟨?_, ?_⟩ <;>
      simp [exchanges, readings, lostExchange, lostReading, Pc.exchanges, Pc.readings,
        Exchange.exchanges, Exchange.readings, hp, Nat.add_comm]
  | send | dropSenders | ioDropped | connPending | exchangeEnded | answeredEarly =>
    refine ⟨?_, ?_⟩ <;> simp [exchanges, readings, lostExchange, lostReading]
  | @response _ r _ hp =>
    refine ⟨?_, ?_⟩ <;> cases r <;>
      simp [exchanges, readings, lostExchange, lostReading, Pc.exchanges, Pc.readings, hp,
        recordOut, Nat.add_comm]
  | @responded a _ b hp =>
    refine ⟨?_, ?_⟩ <;> cases a.processHttpResponse b.resp <;>
      simp [exchanges, readings, lostExchange, lostReading, Pc.exchanges, Pc.readings, hp,
        answerReply]
  | @task _ _ _ x' _ hx hst =>
    obtain ⟨h1, h2, h3⟩ := exchange_metered hst
    have hex := tally_set (f := Exchange.exchanges) hx x'
    have hrd := tally_set (f := Exchange.readings) hx x'
    refine ⟨?_, ?_⟩ <;> simp only [exchanges, readings, lostExchange, lostReading, h3, ite_self] <;>
      omega

/-- **A record** is made of the outcome of an exchange. -/
theorem record_of_step {code : Nat} {version : String} (h : s.step e = some (s', os))
    (ho : .record code version ∈ os) : ∃ msg resp, e.outcome? s = some (msg, resp) ∧
      .record code version = (recordOut resp e.label : Out M Req) := by
  have answered {m : RequestMsg M} {res : Except ServiceError M} :
      (.record code version : Out M Req) ≠ answerReply m res := by
    cases res <;> simp [answerReply]
  cases moves_of_step h with
  | @response x r n hp =>
    exact ⟨x.msg, r, by simp [Ev.outcome?, hp], List.mem_singleton.1 ho⟩
  | responded => exact absurd (List.mem_singleton.1 ho) answered
  | @task k te x x' _ hk hst =>
    cases taskMoves_of_step hst with
    | @response r n => exact ⟨x.msg, r, by simp [Ev.outcome?, hk], List.mem_singleton.1 ho⟩
    | responded => exact absurd (List.mem_singleton.1 ho) answered
    | _ => simp at ho
  | connOkPanic =>
    rcases List.mem_append.1 ho with ho | ho
    · unfold Sock.repolls at ho
      split at ho <;> simp at ho
    · obtain ⟨m, ⟨-, hm⟩ | ⟨-, hm⟩⟩ := mem_drops ho <;> cases hm
  | connPending | connErr | connOkIdle | connOkInFlight =>
    unfold Sock.repolls at ho
    split at ho <;> simp at ho
  | connectFailed | handshakeFailed | procQueueFailed | serviceFailed | recvClosedPanic
  | removeFailed | returned | aborted | recvPanic =>
    obtain ⟨m, ⟨-, hm⟩ | ⟨-, hm⟩⟩ := mem_drops ho <;> cases hm
  | _ => simp at ho

end

/-- What the histogram of a socket shows. -/
structure Recorded (tr : List (Rec (Sock M) (Ev M Req) (Out M Req))) (s : Sock M) : Prop where
  sent : tally Out.requested (outs tr) = tally Out.records (outs tr) +
    tally Out.timesOut (outs tr) + tally lostExchange tr + exchanges s
  recorded : tally Out.records (outs tr) = tally Out.tells (outs tr) + tally lostReading tr +
    readings s
  labels : ∀ r ∈ tr, ∀ code version, .record code version ∈ r.out → ∃ msg resp,
    r.ev.outcome? r.pre = some (msg, resp) ∧
      .record code version = (recordOut resp r.ev.label : Out M Req)

/-- **Every exchange is recorded**: in every run of a socket each request given to a sender is
recorded, timed out, lost or still open, and each record is answered with, lost or still read. -/
theorem exchanges_recorded {s : Sock M} {tr : List (Rec (Sock M) (Ev M Req) (Out M Req))}
    (hr : (socketMachine M Req).Run tr s) : Recorded tr s := by
  have hx := Depot.balance (S := socketMachine M Req)
    ⟨exchanges, fun r => tally Out.requested r.out, fun r => tally Out.records r.out +
      tally Out.timesOut r.out + lostExchange r, by rintro s ⟨self, name, rfl⟩; rfl,
      fun _ _ _ _ _ _ hst => (step_metered hst).exchanges⟩ hr
  have hd := Depot.balance (S := socketMachine M Req)
    ⟨readings, fun r => tally Out.records r.out, fun r => tally Out.tells r.out + lostReading r,
      by rintro s ⟨self, name, rfl⟩; rfl, fun _ _ _ _ _ _ hst => (step_metered hst).readings⟩ hr
  refine ⟨?_, ?_, fun r hm code version ho => record_of_step (hr.step_of_mem hm).2 ho⟩
  · simpa only [Depot.total_nat, tally_add, Depot.tally_out] using hx
  · simpa only [Depot.total_nat, tally_add, Depot.tally_out] using hd

/-- A request is answered, and the next one times out. -/
def timesOutNext : List (Ev Nat Nat) :=
  registered ++ [.send (.request ⟨7, "svc", some 1, 0⟩), .send (.request ⟨8, "svc", some 2, 0⟩),
    .recv echo, .response (.ok ⟨200, .http11, [], []⟩) 1, .responded echo, .recv echo, .elapsed]

theorem timesOutNext_recorded : ∃ q,
    (socketMachine Nat Nat).exec (Sock.new ⟨⟨"http://localhost", none, 3000⟩, false, 5000⟩ "svc")
      timesOutNext = some q ∧ tally Out.requested (outs q.1) = 2 ∧
        tally Out.records (outs q.1) = 1 ∧ Recorded q.1 q.2 :=
  ⟨_, (Option.some_get rfl).symm, rfl, rfl,
    exchanges_recorded (Machine.run_get (init_new _ _) rfl)⟩

/-! ## The gauge -/

@[simp] def ProcOut.count? : ProcOut M Req → Option Nat
  | .sockets count => some count
  | _ => none

/-- `internal_run` failed. -/
def RunPc.failed (pc : RunPc M) : Prop := ∃ e, pc = .returning (.error e) ∨ pc = .ended (.error e)

/-- The set `client_sockets` exists, with the tasks in it. -/
def RunPc.holdsSet : RunPc M → Bool
  | .select | .removeProc | .returning _ => true
  | .start | .ended _ | .panicked => false

/-- What the gauge shows with the tasks `tasks`, by where the processor is. Once the set was dropped
the gauge is left as it was (`last`), with the number of tasks that were in the set then. -/
inductive Gauged (pc : RunPc M) (tasks : List (SockTask M)) : Option Nat → Prop
  | unset : pc = .start ∨ pc.failed → tasks = [] → Gauged pc tasks none
  | exact : pc.holdsSet = true → Gauged pc tasks (some (HyperClientProc.len tasks))
  | last : pc.isOver = true → Gauged pc tasks (some (HyperClientProc.len tasks))
  | stale : pc.failed → Gauged pc tasks (some (HyperClientProc.len tasks + 1))

section
variable {urlIsSsl : Url → Bool} {s s' : HyperClientProc M} {e : ProcEv M Req}
  {os : List (ProcOut M Req)} {g : Option Nat}

/-- `internal_run` returns. -/
theorem Gauged.returned {r : Except (ProcError M) Unit} {tasks : List (SockTask M)}
    (hg : Gauged (.returning r) tasks g) : Gauged (.ended r) tasks g := by
  have failed : RunPc.failed (.returning r) → RunPc.failed (.ended r) := by
    rintro ⟨err, h | h⟩ <;> cases h
    exact ⟨err, .inr rfl⟩
  cases hg with
  | unset h hn => exact .unset (.inr (failed (h.resolve_left (by simp)))) hn
  | exact => exact .last rfl
  | last h => cases h
  | stale h => exact .stale (failed h)

end

end Client
