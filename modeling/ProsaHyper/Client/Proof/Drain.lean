import ProsaHyper.Lib.Potential
import ProsaHyper.Client.Proof.Order

/-!
# A socket comes to rest

By itself a socket task connects, registers, runs its loop and closes, and the tasks it spawned
answer their requests. What they do so is paid for by the messages sent on the queue.

* `drainage`: the potential of a socket; `socket_steps_le`: the bound over a whole run.
* `rested_of_rests`: what a state with nothing left to do is.
* `requests_drain`: left to itself a socket comes to rest, in any order of its steps. Then every
  request it accepted has its reply, or an adaptor holds it that waits for a body, or the task is
  over and took it along.
-/

set_option autoImplicit false

namespace Client

open Prosa Http

variable {M Req : Type}

/-- The steps a spawned task takes by itself. -/
def TaskEv.own : TaskEv M Req → Bool
  | .start _ | .response _ _ | .elapsed | .responded _ => true
  | .frame | .bodyPoll => false

/-- The steps a socket takes by itself. What the connection does is not its own, and the polls of a
body are those of the adaptor. The return of `process_http_response` is an own step that an adaptor
can hold up, see `Sock.ready`. -/
def Ev.own : Ev M Req → Bool
  | .connected _ | .handshaken _ | .procQueueAdded _ | .serviceAdded _ | .recv _ | .recvClosed
  | .response _ _ | .elapsed | .responded _ | .procQueueRemoved _ | .tryRecv | .returned => true
  | .task _ e => e.own
  | _ => false

/-- The adaptor waits for a part of the body that was not handed over. -/
def Pc.blocked : Pc M → Bool
  | .processing _ b => b.blocked
  | _ => false

def TaskPc.blocked : TaskPc M → Bool
  | .processing b => b.blocked
  | _ => false

/-- What holds up an own step: `process_http_response` does not return while it waits for the
body. -/
def Sock.ready (s : Sock M) : Ev M Req → Bool
  | .responded _ => !s.pc.blocked
  | .task k (.responded _) => !s.tasks[k]?.any fun x => x.pc.blocked
  | _ => true

/-- What a step from outside brings: a message. -/
def Ev.gain : Ev M Req → Nat
  | .send _ => 4
  | _ => 0

/-- The steps left to the task, if nothing is sent on its queue. -/
def Pc.level : Pc M → Nat
  | .connect => 11
  | .handshake => 10
  | .addProcQueue => 9
  | .addService => 8
  | .idle _ recv => 6 + recv.toNat
  | .inFlight _ => 9
  | .processing _ _ => 8
  | .removeProcQueue _ => 3
  | .drain _ => 2
  | .drained _ => 1
  | .ended _ | .panicked | .aborted => 0

/-- The steps left to a spawned task. -/
def TaskPc.level : TaskPc M → Nat
  | .start _ => 3
  | .sending _ => 2
  | .processing _ => 1
  | .finished => 0

def Sock.level (s : Sock M) : Nat :=
  s.pc.level + 4 * s.rxQueue.buf.length + tally (fun x => x.pc.level) s.tasks

section
variable {s s' : Sock M} {e : Ev M Req} {os : List (Out M Req)}

theorem level_leave (s : Sock M) (pc : Pc M) (hp : pc.level = 0) :
    (s.leave pc : _ × List (Out M Req)).1.level + s.pc.level ≤ s.level := by
  simp only [Sock.leave, Sock.level, hp, Chan.dropRx_buf, List.length_nil]
  omega

/-- A spawned task goes down by its own steps only. -/
theorem level_exchange {x x' : Exchange M} {self : HyperClientSocket} {name : String} {alive : Bool}
    {te : TaskEv M Req} (h : x.step self name alive te = some (x', os)) :
    x'.pc.level + te.own.toNat ≤ x.pc.level := by
  cases taskMoves_of_step h with
  | sent hp | refused hp | response hp | elapsed hp | responded hp =>
    rw [hp]
    simp [TaskPc.level, TaskEv.own]
  | frame hp | bodyPoll hp => rw [hp]; exact Nat.le_refl _

/-- **Every step is paid for.** -/
theorem level_step (h : s.step e = some (s', os)) :
    s'.level + e.own.toNat ≤ s.level + e.gain := by
  have len {c c' : Chan (InternalMsg M)} {m : InternalMsg M} (hq : c.recv = some (m, c')) :
      c.buf.length = c'.buf.length + 1 := by rw [(Chan.recv_eq_some hq).1, List.length_cons]
  have left {pc : Pc M} (hp : pc.level = 0) (hpos : 0 < s.pc.level) :
      (s.leave pc : _ × List (Out M Req)).1.level + 1 ≤ s.level :=
    Nat.le_trans (Nat.add_le_add_left hpos _) (level_leave s _ hp)
  cases moves_of_step h with
  | send _ _ hq =>
    have hlen := congrArg List.length (Chan.send_eq_some hq).2.2.1
    simp only [List.length_append, List.length_singleton] at hlen
    simp only [Sock.level, hlen, Ev.own, Ev.gain, Bool.toNat_false]
    omega
  | dropSenders | ioDropped | connPending | exchangeEnded | answeredEarly => exact Nat.le_refl _
  | frame hp | bodyPoll hp => simp [Sock.level, hp, Ev.own, Pc.level]
  | connectFailed hp | handshakeFailed hp | procQueueFailed hp | serviceFailed hp
  | recvClosedPanic hp | removeFailed hp | returned hp =>
    exact left rfl (by simp [hp, Pc.level])
  | connectedH2 hp | connectedHttp1 hp | handshaken hp | procQueueAdded hp | serviceAdded hp
  | recvClosed hp | response hp | elapsed hp | responded hp | removed hp | drainEmpty hp =>
    simp only [Sock.level, hp, Pc.level, Chan.setTx_buf, Ev.own, Ev.gain, Bool.toNat_true,
      Bool.toNat_false]
    omega
  | connErr hp =>
    have hpc : (Pc.removeProcQueue s.pc.hand).level ≤ s.pc.level := by
      rcases polls_connection hp with ⟨r, hp⟩ | ⟨x, hp, -⟩
      · simp only [hp, Pc.level]
        omega
      · simp [hp, Pc.level]
    simp only [Sock.level, Ev.own, Ev.gain, Bool.toNat_false]
    omega
  | connOkIdle hp | connOkInFlight hp => simp [Sock.level, hp, Pc.level, Ev.own]
  | connOkPanic | aborted =>
    have hleave : (s.leave .panicked : _ × List (Out M Req)).1.level + s.pc.level ≤ s.level :=
      level_leave s _ rfl
    exact Nat.le_trans (Nat.le_add_right _ s.pc.level) hleave
  | recvSend hp _ hq | recvRefuse hp _ hq | recvNoData hp hq | recvIgnored hp hq
  | recvShutdown hp hq =>
    have hlen := len hq
    simp only [Sock.level, hp, hlen, Pc.level, Ev.own, Ev.gain, Bool.toNat_true]
    omega
  | @recvSpawn _ _ r d _ hp _ hq =>
    have hlen := len hq
    simp only [Sock.level, hp, hlen, Pc.level, Ev.own, Ev.gain, Bool.toNat_true, tally_append,
      tally_cons, tally_nil, TaskPc.level]
    omega
  | @recvPanic _ _ m q hp hq =>
    have hlen := len hq
    have hleave : (Sock.leave { s with rxQueue := q } .panicked : _ × List (Out M Req)).1.level +
        s.pc.level ≤ Sock.level { s with rxQueue := q } := level_leave _ _ rfl
    simp only [Sock.level, hp, hlen, Pc.level, Ev.own, Ev.gain, Bool.toNat_true] at hleave ⊢
    omega
  | drainRequest hp hq | drainOther hp hq =>
    have hlen := len hq
    simp only [Sock.level, hp, hlen, Ev.own, Ev.gain, Bool.toNat_true]
    omega
  | @task _ _ _ x' _ hx hst =>
    have hset := tally_set (f := fun x => x.pc.level) hx x'
    have hlevel := level_exchange hst
    simp only [Sock.level, Ev.own, Ev.gain]
    omega

theorem Ev.gain_of_own (h : e.own = true) : e.gain = 0 := by
  cases e <;> first | rfl | cases h

variable (M Req) in
/-- The own steps of a socket, and what they are paid with. -/
def drainage : Potential (socketMachine M Req) where
  own := Ev.own
  ready := Sock.ready
  level := Sock.level
  gain := Ev.gain
  spend s e s' os h he := by
    have hstep := level_step h
    rw [he, Ev.gain_of_own he, Bool.toNat_true] at hstep
    exact hstep
  bring s e s' os h _ := Nat.le_trans (Nat.le_add_right _ _) (level_step h)

/-- **No idle loop.** In every run the own steps of a socket are paid for by the messages sent on
its queue. -/
theorem socket_steps_le {tr : List (Rec (Sock M) (Ev M Req) (Out M Req))}
    (hr : (socketMachine M Req).Run tr s) :
    tr.countP (fun r => r.ev.own) + s.level ≤ 11 + tally (fun r => r.ev.gain) tr := by
  obtain ⟨s₀, ⟨self, name, rfl⟩, -, hle⟩ :=
    (drainage M Req).amortized_run (fun _ he => Ev.gain_of_own he) hr
  exact hle

/-! ## At rest -/

/-- An idle loop that no longer reads its queue has none to read. -/
def Deaf (s : Sock M) : Prop :=
  ∀ c, s.pc = .idle c false → c = true ∧ s.rxQueue.buf = [] ∧ s.rxQueue.tx = false

theorem step_deaf (hs : Deaf s) (h : s.step e = some (s', os)) : Deaf s' := by
  intro c hc
  cases moves_of_step h with
  | send htx =>
    rw [(hs c hc).2.2] at htx
    cases htx
  | dropSenders => exact ⟨(hs c hc).1, (hs c hc).2.1, rfl⟩
  | ioDropped | connPending | exchangeEnded | answeredEarly | task => exact hs c hc
  | recvClosed _ htx hb => cases hc; exact ⟨rfl, hb, htx⟩
  | drainRequest hp | drainOther hp => rw [hp] at hc; cases hc
  | _ => cases hc

theorem deaf_of_run {tr : List (Rec (Sock M) (Ev M Req) (Out M Req))}
    (hr : (socketMachine M Req).Run tr s) : Deaf s := by
  refine hr.state_invariant (I := Deaf) ?_ fun _ _ _ _ hs hst => step_deaf hs hst
  rintro s ⟨self, name, rfl⟩ c hc
  cases hc

/-- An adaptor that refuses everything. -/
def refusing : HyperClientAdaptor M Req :=
  ⟨fun _ _ => .error (.protocolError ""), fun _ => .error (.protocolError "")⟩

/-- With nothing left to do the task waits in its idle loop, or for the body of a response, or is
over. -/
theorem pc_of_rests (hd : Deaf s) (h : (drainage M Req).Rests s) :
    (∃ c, s.pc = .idle c s.rxQueue.tx ∧ s.rxQueue.buf = []) ∨ s.pc.blocked = true ∨
      s.pc.isOver = true := by
  have stuck (e : Ev M Req) (he : e.own = true) (hr : s.ready e = true) : s.step e = none :=
    h e ⟨he, hr⟩
  cases hp : s.pc with
  | connect =>
    have hst := stuck (.connected (.error "")) rfl rfl
    simp [Sock.step, Sock.onConnected, hp] at hst
  | handshake =>
    have hst := stuck (.handshaken none) rfl rfl
    simp [Sock.step, Sock.onHandshaken, hp] at hst
  | addProcQueue =>
    have hst := stuck (.procQueueAdded true) rfl rfl
    simp [Sock.step, Sock.onProcQueueAdded, hp] at hst
  | addService =>
    have hst := stuck (.serviceAdded true) rfl rfl
    simp [Sock.step, Sock.onServiceAdded, hp] at hst
  | idle c recv =>
    cases recv with
    | false =>
      obtain ⟨-, hb, htx⟩ := hd c hp
      exact .inl ⟨c, by rw [htx], hb⟩
    | true =>
      have hb : s.rxQueue.buf = [] := by
        by_contra hne
        obtain ⟨m, l, hb⟩ := List.exists_cons_of_ne_nil hne
        obtain ⟨q, hq, -⟩ := Chan.recv_cons hb
        have hst := stuck (.recv refusing) rfl rfl
        simp only [Sock.step, Sock.onRecv, hp, hq] at hst
        split at hst <;> cases hst
      have htx : s.rxQueue.tx = true := by
        by_contra hne
        have hst := stuck .recvClosed rfl rfl
        cases c <;> simp [Sock.step, Sock.onRecvClosed, hp, hb, hne] at hst
      exact .inl ⟨c, by rw [htx], hb⟩
  | inFlight x =>
    have hst := stuck .elapsed rfl rfl
    simp [Sock.step, Sock.onElapsed, hp] at hst
  | processing msg b =>
    cases hb : b.blocked with
    | true => exact .inr (.inl hb)
    | false =>
      have hready : s.ready (.responded refusing : Ev M Req) = true := by
        simp [Sock.ready, hp, Pc.blocked, hb]
      have hst := stuck (.responded refusing) rfl hready
      simp [Sock.step, Sock.onResponded, hp] at hst
  | removeProcQueue msg =>
    have hst := stuck (.procQueueRemoved true) rfl rfl
    simp [Sock.step, Sock.onProcQueueRemoved, hp] at hst
  | drain msg =>
    have hst := stuck .tryRecv rfl rfl
    simp only [Sock.step, Sock.onTryRecv, hp] at hst
    split at hst <;> cases hst
  | drained msg =>
    have hst := stuck .returned rfl rfl
    simp [Sock.step, Sock.onReturned, hp] at hst
  | ended | panicked | aborted => exact .inr (.inr rfl)

/-- A spawned task with nothing left to do is finished, or waits for the body of a response. -/
theorem tasks_of_rests (h : (drainage M Req).Rests s) {x : Exchange M} (hx : x ∈ s.tasks)
    (ho : x.open? = true) : x.pc.blocked = true := by
  obtain ⟨k, hk⟩ := List.mem_iff_getElem?.1 hx
  have stuck (te : TaskEv M Req) (he : te.own = true) (hr : s.ready (.task k te) = true) :
      x.step s.self s.serviceName s.conn.completed.isNone te = none := by
    have hst : s.onTask k te = none := h (.task k te) ⟨he, hr⟩
    simpa only [Sock.onTask, hk, Option.map_eq_none_iff] using hst
  cases hp : x.pc with
  | start d =>
    have hst := stuck (.start refusing) rfl rfl
    simp [Exchange.step, hp, refusing] at hst
  | sending b =>
    have hst := stuck .elapsed rfl rfl
    simp [Exchange.step, hp] at hst
  | processing b =>
    by_contra hb
    have hready : s.ready (.task k (.responded refusing) : Ev M Req) = true := by
      simpa [Sock.ready, hk, hp] using hb
    have hst := stuck (.responded refusing) rfl hready
    simp [Exchange.step, hp] at hst
  | finished => rw [Exchange.open?, hp] at ho; cases ho

/-- Only the end of the task discards a message. -/
theorem step_discarded (id : Nat) (h : s.step e = some (s', os)) (ho : s'.pc.isOver = false) :
    tally (discardedOf id) os = 0 := by
  cases moves_of_step h with
  | task _ hst => exact (exchange_balanced id hst).2.2.2.2.2
  | @response _ r => cases r <;> simp [recordOut]
  | @responded a _ b => cases a.processHttpResponse b.resp <;> simp [answerReply]
  | connectFailed | handshakeFailed | procQueueFailed | serviceFailed | connOkPanic | recvPanic
  | recvClosedPanic | removeFailed | returned | aborted => cases ho
  | _ => simp

theorem discarded_of_run {tr : List (Rec (Sock M) (Ev M Req) (Out M Req))}
    (hr : (socketMachine M Req).Run tr s) (ho : s.pc.isOver = false) (id : Nat) :
    tally (discardedOf id) (outs tr) = 0 := by
  induction hr with
  | start => rfl
  | @next tr s s' e os _ hst ih =>
    have hpre : s.pc.isOver = false := by
      by_contra hc
      have hc : s.pc.isOver = true := by simpa using hc
      rw [step_over hc hst, hc] at ho
      cases ho
    simp only [outs_append, outs_single, tally_append, ih hpre, step_discarded id hst ho]

/-- What a socket left to itself comes to. Its loop waits for a message, or for the connection to
end, and every request it accepted has its reply or is held by a task it spawned; or it waits for
the body of a response, with the requests behind this one in its queue; or its task is over, and has
answered the requests that it did not take along and that no spawned task holds. -/
inductive Rested (tr : List (Rec (Sock M) (Ev M Req) (Out M Req))) (s : Sock M) : Prop
  | idle {c : Bool} : s.pc = .idle c s.rxQueue.tx → s.rxQueue.buf = [] →
      (∀ id, tally (repliedOf id) (outs tr) + held s id = tally (acceptedOf id) (outs tr)) →
      Rested tr s
  | reading : s.pc.blocked = true →
      (∀ id, tally (repliedOf id) (outs tr) + held s id + queued s id =
        tally (acceptedOf id) (outs tr)) → Rested tr s
  | over : s.pc.isOver = true →
      (∀ id, tally (repliedOf id) (outs tr) + held s id + tally (droppedOf id) (outs tr) +
        tally (discardedOf id) (outs tr) = tally (acceptedOf id) (outs tr)) → Rested tr s

theorem rested_of_rests {tr : List (Rec (Sock M) (Ev M Req) (Out M Req))}
    (hr : (socketMachine M Req).Run tr s) (hrest : (drainage M Req).Rests s) :
    Rested tr s ∧ ∀ x ∈ s.tasks, x.open? = true → x.pc.blocked = true := by
  have books (id : Nat) : tally (repliedOf id) (outs tr) + held s id + queued s id +
      tally (droppedOf id) (outs tr) + tally (discardedOf id) (outs tr) =
        tally (acceptedOf id) (outs tr) := by
    have hqueue := (queueCustody M Req).balance hr id
    have hhand := (handCustody M Req).balance hr id
    simp only [queueCustody, handCustody] at hqueue hhand
    omega
  have running (ho : s.pc.isOver = false) (id : Nat) : tally (repliedOf id) (outs tr) + held s id +
      queued s id = tally (acceptedOf id) (outs tr) := by
    have hbooks := books id
    rw [dropped_of_run hr ho, discarded_of_run hr ho] at hbooks
    exact hbooks
  have drained (hb : s.rxQueue.buf = []) (id : Nat) : queued s id = 0 := by rw [queued, hb]; rfl
  refine ⟨?_, fun x hx => tasks_of_rests hrest hx⟩
  rcases pc_of_rests (deaf_of_run hr) hrest with ⟨c, hp, hb⟩ | hp | ho
  · refine .idle hp hb fun id => ?_
    rw [← running (by rw [hp]; rfl) id, drained hb, Nat.add_zero]
  · refine .reading hp (running ?_)
    cases hpc : s.pc <;> first | rfl | (rw [hpc] at hp; cases hp)
  · refine .over ho fun id => ?_
    rw [← books id, drained ((shape_of_run hr).buf_nil ho), Nat.add_zero]

/-- A socket whose adaptor waits for the body of a response does nothing more by itself. -/
theorem rests_of_blocked (hb : s.pc.blocked = true) (ht : s.tasks = []) :
    (drainage M Req).Rests s := by
  obtain ⟨msg, b, hp, hb⟩ : ∃ msg b, s.pc = .processing msg b ∧ b.blocked = true := by
    cases hp : s.pc with
    | processing msg b => exact ⟨msg, b, rfl, by rw [hp] at hb; exact hb⟩
    | _ => rw [hp] at hb; cases hb
  rintro e ⟨he, hready⟩
  by_contra hne
  obtain ⟨⟨s', os⟩, hst⟩ := Option.ne_none_iff_exists'.1 hne
  cases moves_of_step hst with
  | responded => simp [drainage, Sock.ready, Pc.blocked, hp, hb] at hready
  | task hx => simp [ht] at hx
  | send | dropSenders | ioDropped | connPending | exchangeEnded | answeredEarly | connErr
  | frame | bodyPoll | aborted => cases he
  | _ => cases hp.symm.trans ‹s.pc = _›

/-- Left to itself after the run `tr`, the socket comes to rest, whichever of its steps it takes
first. -/
structure Drains (tr : List (Rec (Sock M) (Ev M Req) (Out M Req))) (s : Sock M) : Prop where
  bounded : ∀ tr' t, ((socketMachine M Req).startAt s).Run tr' t →
    (∀ r ∈ tr', r.ev.own = true) → tr'.length ≤ s.level
  rests : ∃ tr' t, ((socketMachine M Req).startAt s).Run tr' t ∧
    Machine.Along (drainage M Req).Goes tr' ∧ (drainage M Req).Rests t
  rested : ∀ tr' t, ((socketMachine M Req).startAt s).Run tr' t → (drainage M Req).Rests t →
    Rested (tr ++ tr') t ∧ ∀ x ∈ t.tasks, x.open? = true → x.pc.blocked = true

/-- **A socket drains**, after any run. -/
theorem requests_drain {tr : List (Rec (Sock M) (Ev M Req) (Out M Req))}
    (hr : (socketMachine M Req).Run tr s) : Drains tr s where
  bounded _ _ := (drainage M Req).bounded
  rests := (drainage M Req).comes_to_rest s
  rested _ _ hr' := rested_of_rests (hr.append hr')

end

/-- A request is sent, and the loop takes it: what came pays for five steps, and for the nine that
are left. -/
def takesOne : List (Ev Nat Nat) :=
  registered ++ [.send (.request ⟨7, "svc", some 1, 0⟩), .recv echo]

theorem takesOne_own_steps : ∃ q,
    (socketMachine Nat Nat).exec (Sock.new plainSocket "svc") takesOne = some q ∧
      q.1.countP (fun r => r.ev.own) = 5 ∧ q.2.level = 9 ∧
      q.1.countP (fun r => r.ev.own) + q.2.level ≤ 11 + tally (fun r => r.ev.gain) q.1 :=
  ⟨_, (Option.some_get rfl).symm, rfl, rfl, socket_steps_le (Machine.run_get (init_new _ _) rfl)⟩

/-- Request 7 is answered with a head and one chunk, and the adaptor has read the chunk. -/
def readsChunk : List (Ev Nat Nat) :=
  takesOne ++ [.send (.request ⟨8, "svc", some 2, 0⟩),
    .response (.ok ⟨200, .http11, [], ["chunk"]⟩) 1, .bodyPoll, .bodyPoll]

/-- The socket is at rest with request 7 in the adaptor and request 8 behind it. -/
theorem readsChunk_drains : ∃ q,
    (socketMachine Nat Nat).exec (Sock.new plainSocket "svc") readsChunk = some q ∧
      (drainage Nat Nat).Rests q.2 ∧ tally (repliedOf 7) (outs q.1) = 0 ∧ held q.2 7 = 1 ∧
      queued q.2 8 = 1 ∧ Drains q.1 q.2 :=
  ⟨_, (Option.some_get rfl).symm, rests_of_blocked rfl rfl, rfl, rfl, rfl,
    requests_drain (Machine.run_get (init_new _ _) rfl)⟩

end Client
