import ProsaHyper.Client.Proof.Runs

/-!
# What a socket does with a dead connection

The connection is dead once its future has completed. An error closes the socket at once; `Ok(())`
does not match the pattern `Err(_)` of the `select!`, and the loop goes on.

* `returns_of_retiring`: a task that has begun to close reaches `Ok(self)` by its own steps, however
  much is queued, and is then registered nowhere.
* `retires_iff`: a run keeps no dead connection in service iff none of its steps is one of
  `KeepsDead`.
-/

set_option autoImplicit false

namespace Client

open Prosa Http

variable {M Req : Type} {s s' : Sock M} {e : Ev M Req} {os : List (Out M Req)}

/-- The connection future has completed. -/
def Sock.dead (s : Sock M) : Bool := s.conn.completed.isSome

/-- The task finishes the exchange in hand, runs `close_socket!` or has returned `Ok(self)`. -/
def Pc.retiring : Pc M → Bool
  | .inFlight _ | .processing _ _ | .removeProcQueue _ | .drain _ | .drained _
  | .ended (.ok _) => true
  | _ => false

/-- The steps that keep a dead connection: it completes with `Ok(())` while the loop is idle, an
exchange that outlived it is answered, or the close is cut short. -/
def KeepsDead (s : Sock M) : Ev M Req → Prop
  | .connection (some (.ok _)) => ∃ conn recv, s.pc = .idle conn recv
  | .responded _ | .procQueueRemoved false | .aborted => s.dead = true
  | _ => False

/-- The steps of the task alone that close the socket. -/
def Ev.closes : Ev M Req → Bool
  | .elapsed | .procQueueRemoved true | .tryRecv | .returned => true
  | _ => false

/-! ## Closing -/

variable (Req)

/-- The drain empties the queue, whatever it holds. -/
theorem drain_leads {msg : Option (RequestMsg M)} (hp : s.pc = .drain msg) :
    ∃ t, (socketMachine M Req).Leads (fun e => e.closes = true) s t ∧ t.pc = .drained msg ∧
      t.self = s.self := by
  induction hb : s.rxQueue.buf generalizing s with
  | nil =>
    have hst : (socketMachine M Req).step s .tryRecv =
        some ({ s with pc := .drained msg }, []) := by
      simp [socketMachine, Sock.step, Sock.onTryRecv, hp, Chan.recv_eq_none.2 hb]
    exact ⟨_, .step hst rfl, rfl, rfl⟩
  | cons m l ih =>
    obtain ⟨q, hq, hl, -⟩ := Chan.recv_cons hb
    have hst : ∃ os, (socketMachine M Req).step s .tryRecv =
        some ({ s with rxQueue := q }, os) := by
      cases m <;> simp [socketMachine, Sock.step, Sock.onTryRecv, hp, hq]
    obtain ⟨os, hst⟩ := hst
    obtain ⟨t, ht, hpt, hself⟩ := ih (s := { s with rxQueue := q }) hp hl
    exact ⟨t, .trans (.step hst rfl) ht, hpt, hself⟩

theorem drained_leads {msg : Option (RequestMsg M)} (hp : s.pc = .drained msg) :
    ∃ t, (socketMachine M Req).Leads (fun e => e.closes = true) s t ∧
      t.pc = .ended (.ok s.self) := by
  have hst : (socketMachine M Req).step s .returned = some (s.leave (.ended (.ok s.self))) := by
    simp [socketMachine, Sock.step, Sock.onReturned, hp]
  exact ⟨_, .step hst rfl, rfl⟩

theorem removeProcQueue_leads {msg : Option (RequestMsg M)} (hp : s.pc = .removeProcQueue msg) :
    ∃ t, (socketMachine M Req).Leads (fun e => e.closes = true) s t ∧
      t.pc = .ended (.ok s.self) := by
  have hst : (socketMachine M Req).step s (.procQueueRemoved true) =
      some ({ s with pc := .drain msg }, [.bus (.removeProcQueue s.socketId)]) := by
    simp [socketMachine, Sock.step, Sock.onProcQueueRemoved, hp]
  obtain ⟨t, ht, hpt, hself⟩ := drain_leads Req (s := { s with pc := .drain msg }) rfl
  obtain ⟨u, hu, hpu⟩ := drained_leads Req hpt
  exact ⟨u, .trans (.step hst rfl) (ht.trans hu), by rw [hpu, hself]⟩

/-- **Closing ends.** A task that retires and is not with the adaptor reaches `Ok(self)`. -/
theorem returns_of_retiring (hs : Shape s) (hp : s.pc.retiring = true)
    (hn : ∀ msg b, s.pc ≠ .processing msg b) :
    ∃ t, (socketMachine M Req).Leads (fun e => e.closes = true) s t ∧
      t.pc = .ended (.ok s.self) := by
  cases hpc : s.pc with
  | inFlight x =>
    have hst : (socketMachine M Req).step s .elapsed =
        some (s.closeSocket none, [.replied .timeout x.msg
          (x.msg.returnErrorToSender none (.timeout s.serviceName s.self.httpTimeout))]) := by
      simp [socketMachine, Sock.step, Sock.onElapsed, hpc]
    obtain ⟨t, ht, hpt⟩ := removeProcQueue_leads Req (s := s.closeSocket none) rfl
    exact ⟨t, .trans (.step hst rfl) ht, hpt⟩
  | processing msg b => exact absurd hpc (hn msg b)
  | removeProcQueue msg => exact removeProcQueue_leads Req hpc
  | drain msg =>
    obtain ⟨t, ht, hpt, hself⟩ := drain_leads Req hpc
    obtain ⟨u, hu, hpu⟩ := drained_leads Req hpt
    exact ⟨u, ht.trans hu, by rw [hpu, hself]⟩
  | drained msg => exact drained_leads Req hpc
  | ended r =>
    cases r with
    | ok self => exact ⟨s, .refl s, by rw [hpc, hs.result self hpc]⟩
    | error err => rw [hpc] at hp; cases hp
  | _ => rw [hpc] at hp; cases hp

variable {Req}

/-! ## Dead connections -/

/-- The state of a task that keeps no dead connection: with one, it retires and polls it no more. -/
structure Retiring (s : Sock M) : Prop where
  retiring : s.dead = true → s.pc.retiring = true
  unpolled : s.dead = true → .connection ∉ s.pc.polls

theorem Retiring.of_alive (h : s.dead = false) : Retiring s :=
  ⟨fun hd => by simp [h] at hd, fun hd => by simp [h] at hd⟩

@[simp] theorem Conn.send_completed (c : Conn) (id : Nat) :
    (c.send id).completed = c.completed := by
  unfold Conn.send
  split <;> rfl

@[simp] theorem Conn.answered_completed (c : Conn) (r : Except HyperError Response) (n : Nat) :
    (c.answered r n).completed = c.completed := by
  cases r <;> rfl

/-- Only the connection future makes a connection dead. -/
theorem step_dead (h : s.step e = some (s', os)) (he : ∀ r, e ≠ .connection (some r)) :
    s'.dead = s.dead := by
  cases moves_of_step h with
  | connErr | connOkIdle | connOkPanic | connOkInFlight => exact absurd rfl (he _)
  | _ => simp [Sock.dead, Sock.leave]

/-- While the connection is alive, a step leaves it alive or starts to close. -/
theorem step_alive (hd : s.dead = false) (hk : ¬ KeepsDead s e) (h : s.step e = some (s', os)) :
    Retiring s' := by
  cases moves_of_step h with
  | connErr => exact ⟨fun _ => rfl, fun _ => by simp [Pc.polls]⟩
  | connOkIdle hp | connOkPanic hp => exact absurd ⟨_, _, hp⟩ hk
  | connOkInFlight => exact ⟨fun _ => rfl, fun _ => by simp [Pc.polls]⟩
  | _ => exact .of_alive (by rw [step_dead h (by simp), hd])

/-- With a dead connection the task goes on retiring. -/
theorem step_dying (hs : Retiring s) (hd : s.dead = true) (hk : ¬ KeepsDead s e)
    (h : s.step e = some (s', os)) :
    Retiring s' ∧ (∀ msg, .received msg ∉ os) ∧ .repolled ∉ os := by
  have hret := hs.retiring hd
  have hpoll := hs.unpolled hd
  cases moves_of_step h with
  | send | dropSenders | ioDropped => exact ⟨⟨hs.retiring, hs.unpolled⟩, by simp⟩
  | task _ hst =>
    refine ⟨⟨hs.retiring, hs.unpolled⟩, fun msg ho => ?_, fun ho => ?_⟩ <;>
    · cases mem_exchange hst ho with
      | @responded _ _ r _ _ he => cases r <;> cases he
  | connPending hp | exchangeEnded hp | connErr hp => exact absurd hp hpoll
  | answeredEarly _ hc =>
    rw [Sock.dead, hc] at hd
    cases hd
  | connOkInFlight hp hx => exact absurd (by simp [hp, Pc.polls, hx]) hpoll
  | responded | removeFailed | aborted => exact absurd hd hk
  | frame | bodyPoll | elapsed | removed | drainEmpty =>
    exact ⟨⟨fun _ => rfl, fun _ => by simp [Pc.polls]⟩, by simp⟩
  | drainRequest hp _ | drainOther hp _ _ =>
    exact ⟨⟨fun _ => hret, fun _ => hpoll⟩, by simp⟩
  | @response _ r =>
    exact ⟨⟨fun _ => rfl, fun _ => by simp [Pc.polls]⟩, by cases r <;> simp [recordOut]⟩
  | returned hp =>
    refine ⟨⟨fun _ => rfl, fun _ => by simp [Sock.leave, Pc.polls]⟩, fun msg ho => ?_,
      fun ho => ?_⟩ <;>
      obtain ⟨_, ⟨-, h⟩ | ⟨-, h⟩⟩ := mem_drops ho <;> cases h
  | _ => simp [‹s.pc = _›, Pc.retiring] at hret

theorem step_retiring (hs : Retiring s) (hk : ¬ KeepsDead s e) (h : s.step e = some (s', os)) :
    Retiring s' ∧ (s.dead = true → (∀ msg, .received msg ∉ os) ∧ .repolled ∉ os) := by
  cases hd : s.dead with
  | false => exact ⟨step_alive hd hk h, (fun h => by cases h)⟩
  | true =>
    obtain ⟨hs', hsil⟩ := step_dying hs hd hk h
    exact ⟨hs', fun _ => hsil⟩

theorem step_keepsDead (hk : KeepsDead s e) (h : s.step e = some (s', os)) :
    s'.dead = true ∧ s'.pc.retiring = false := by
  cases moves_of_step h with
  | connOkIdle hp | connOkPanic hp => exact ⟨rfl, rfl⟩
  | connOkInFlight hp _ =>
    obtain ⟨c, r, hi⟩ := hk
    rw [hp] at hi
    cases hi
  | responded hp | removeFailed hp | aborted hp => exact ⟨hk, rfl⟩
  | _ => exact absurd hk (by simp [KeepsDead])

/-- What a run does with a dead connection: from then on the task retires, takes no request and does
not poll the connection, and it can end with `Ok(self)` by its own steps, registered nowhere. -/
structure Retires (tr : List (Rec (Sock M) (Ev M Req) (Out M Req))) (s : Sock M) : Prop where
  leaves : ∀ r ∈ tr, r.post.dead = true → r.post.pc.retiring = true
  silent : ∀ r ∈ tr, r.pre.dead = true → (∀ msg, .received msg ∉ r.out) ∧ .repolled ∉ r.out
  closes : s.dead = true → (∀ msg b, s.pc ≠ .processing msg b) →
    ∃ tr' t, ((socketMachine M Req).startAt s).Run tr' t ∧ (∀ r ∈ tr', r.ev.closes = true) ∧
      t.pc = .ended (.ok s.self) ∧ regs 0 Bus.empty (outs (tr ++ tr')) = Bus.empty

theorem retiring_of_run {tr : List (Rec (Sock M) (Ev M Req) (Out M Req))}
    (hr : (socketMachine M Req).Run tr s) (hk : Machine.Along (fun s e => ¬ KeepsDead s e) tr) :
    Retiring s := by
  refine hr.along_invariant (I := fun _ s => Retiring s) ?_
    (fun _ _ _ _ _ _ hs hk hst => (step_retiring hs hk hst).1) hk
  intro s hi
  obtain ⟨self, name, rfl⟩ := hi
  exact ⟨(fun h => by cases h), (fun h => by cases h)⟩

/-- **Dead connections.** A run keeps no dead connection in service iff none of its steps is one of
`KeepsDead`. -/
theorem retires_iff {tr : List (Rec (Sock M) (Ev M Req) (Out M Req))}
    (hr : (socketMachine M Req).Run tr s) :
    Retires tr s ↔ Machine.Along (fun s e => ¬ KeepsDead s e) tr := by
  constructor
  · intro h r hm hk
    obtain ⟨hd, hf⟩ := step_keepsDead hk (hr.step_of_mem hm).2
    rw [h.leaves r hm hd] at hf
    cases hf
  · intro hk
    have step : ∀ r ∈ tr, Retiring r.post ∧
        (r.pre.dead = true → (∀ msg, .received msg ∉ r.out) ∧ .repolled ∉ r.out) := by
      intro r hm
      obtain ⟨ta, hr₀, hk₀, hst⟩ := hr.along_of_mem hk hm
      exact step_retiring (retiring_of_run hr₀ hk₀) (hk r hm) hst
    have hs := retiring_of_run hr hk
    refine ⟨fun r hm => (step r hm).1.retiring, fun r hm => (step r hm).2, fun hd hn => ?_⟩
    obtain ⟨t, ⟨tr', ht, hc⟩, hpt⟩ := returns_of_retiring Req (shape_of_run hr) (hs.retiring hd) hn
    exact ⟨tr', t, ht, hc, hpt, regs_of_run (hr.append ht) (by rw [hpt]; rfl)⟩

/-- Request 7 is answered, the peer closes gracefully while the loop is idle, and request 8
arrives. -/
def closedGracefully : List (Ev Nat Nat) :=
  registered ++ [.send (.request ⟨7, "svc", some 1, 0⟩), .recv echo,
    .response (.ok ⟨200, .http11, [], []⟩) 1, .responded echo, .connection (some (.ok ())),
    .send (.request ⟨8, "svc", some 2, 0⟩), .recv echo, .connection none]

/-- Request 8 is taken and sent on the dead connection, which is then polled again; the queue stays
registered. -/
theorem dead_kept : ∃ q,
    (socketMachine Nat Nat).exec (Sock.new plainSocket "svc") closedGracefully = some q ∧
      (socketMachine Nat Nat).Run q.1 q.2 ∧
      (q.1.any fun r => r.pre.dead && decide (tally (sentOf 8) r.out = 1)) = true ∧
      (q.1.any fun r => r.pre.dead && r.out.any fun o => o matches .repolled) = true ∧
      regs 0 Bus.empty (outs q.1) = ⟨[(3, 0)], [("svc", 3)]⟩ ∧ ¬ Retires q.1 q.2 := by
  refine ⟨_, (Option.some_get rfl).symm, Machine.run_get (init_new _ _) rfl, rfl, rfl, rfl, ?_⟩
  intro h
  have hany : ((((socketMachine Nat Nat).exec (Sock.new plainSocket "svc") closedGracefully).get
      rfl).1.any fun r => r.post.dead && !r.post.pc.retiring) = true := rfl
  obtain ⟨r, hm, hr⟩ := List.any_eq_true.1 hany
  simp only [Bool.and_eq_true, Bool.not_eq_true'] at hr
  rw [h.leaves r hm hr.1] at hr
  cases hr.2

/-- The connection is lost while the loop is idle, and the socket closes. -/
def resetIdle : List (Ev Nat Nat) :=
  registered ++ [.connection (some (.error (.other "connection reset"))), .procQueueRemoved true]

theorem resetIdle_retires : ∃ q,
    (socketMachine Nat Nat).exec (Sock.new plainSocket "svc") resetIdle = some q ∧
      (Retires q.1 q.2 ↔ Machine.Along (fun s e => ¬ KeepsDead s e) q.1) :=
  ⟨_, (Option.some_get rfl).symm, retires_iff (Machine.run_get (init_new _ _) rfl)⟩

end Client
