import ProsaHyper.Client.Proof.Drain
import ProsaHyper.Client.Proof.Source
import ProsaHyper.Client.Proof.Terminate

/-!
# The pool comes to rest

A socket that returns is spawned again, so the pool could go round for ever. It does not by itself:
a message, or the end of the connection, closed the socket, and pays for the next one.

* `recovery`: the potential of the processor; `pool_steps_le`: the bound over a whole run.
* `pool_of_rests`: what a state with nothing left to do is.
* `pool_drains`: left to itself the processor comes to rest, in any order of its steps. Then the
  sockets of the set wait for a message, or the processor is over and each of its tasks with it.
-/

set_option autoImplicit false

namespace Client

open Prosa Http

variable {M Req : Type}

/-! ## What a socket keeps for the next one -/

/-- The join of the task, and the steps of the next one, if the socket closes without more. -/
def Pc.reserve : Pc M → Nat
  | .inFlight _ | .processing _ _ | .removeProcQueue _ | .drain _ | .drained _
  | .ended (.ok _) => 13
  | _ => 1

/-- What may close a socket brings the next one. -/
def Ev.toll : Ev M Req → Nat
  | .send _ | .connection (some (.error _)) => 12
  | _ => 0

section
variable {s s' : Sock M} {e : Ev M Req} {os : List (Out M Req)}

theorem Pc.reserve_pos (pc : Pc M) : 1 ≤ pc.reserve := by
  unfold Pc.reserve
  split <;> omega

theorem reserve_leave (s : Sock M) {pc : Pc M} (hp : pc.reserve ≤ s.pc.reserve) (n : Nat) :
    12 * (s.leave pc : _ × List (Out M Req)).1.rxQueue.buf.length ≤
        12 * s.rxQueue.buf.length + n ∧
      12 * (s.leave pc : _ × List (Out M Req)).1.rxQueue.buf.length +
        (s.leave pc : _ × List (Out M Req)).1.pc.reserve ≤
        12 * s.rxQueue.buf.length + s.pc.reserve + n := by
  simp only [Sock.leave, Chan.dropRx_buf, List.length_nil]
  omega

/-- A step keeps the reserve, which a message and the end of the connection add to. -/
theorem reserve_step (h : s.step e = some (s', os)) :
    12 * s'.rxQueue.buf.length ≤ 12 * s.rxQueue.buf.length + e.toll ∧
      12 * s'.rxQueue.buf.length + s'.pc.reserve ≤
        12 * s.rxQueue.buf.length + s.pc.reserve + e.toll := by
  have hpos := s.pc.reserve_pos
  have len {c c' : Chan (InternalMsg M)} {m : InternalMsg M} (hq : c.recv = some (m, c')) :
      c.buf.length = c'.buf.length + 1 := by rw [(Chan.recv_eq_some hq).1, List.length_cons]
  cases moves_of_step h with
  | send _ _ hq =>
    have hlen := congrArg List.length (Chan.send_eq_some hq).2.2.1
    simp only [List.length_append, List.length_singleton] at hlen
    simp only [hlen, Ev.toll]
    omega
  | dropSenders | ioDropped | connPending | exchangeEnded | answeredEarly | task =>
    exact ⟨Nat.le_add_right _ _, Nat.le_add_right _ _⟩
  | connectFailed | handshakeFailed | procQueueFailed | serviceFailed | recvClosedPanic
  | removeFailed | connOkPanic | aborted =>
    refine reserve_leave _ ?_ _
    exact hpos
  | returned hp =>
    refine reserve_leave _ ?_ _
    rw [hp]
    exact Nat.le_refl 13
  | recvPanic =>
    simp only [Sock.leave, Chan.dropRx_buf, List.length_nil,
      show (Pc.panicked : Pc M).reserve = 1 from rfl]
    omega
  | connErr =>
    simp only [Ev.toll, show (Pc.removeProcQueue s.pc.hand).reserve = 13 from rfl]
    omega
  | recvSend hp _ hq | recvSpawn hp _ hq | recvRefuse hp _ hq | recvNoData hp hq | recvIgnored hp hq
  | recvShutdown hp hq | drainRequest hp hq | drainOther hp hq =>
    have hlen := len hq
    simp only [hlen, hp, Ev.toll, Pc.reserve]
    omega
  | connectedH2 hp | connectedHttp1 hp | handshaken hp | procQueueAdded hp | serviceAdded hp
  | connOkIdle hp | connOkInFlight hp | recvClosed hp | response hp | elapsed hp | frame hp
  | bodyPoll hp | responded hp | removed hp | drainEmpty hp =>
    simp only [hp, Chan.setTx_buf, Ev.toll, Pc.reserve]
    omega

theorem Pc.level_pos {pc : Pc M} (h : pc.isAwait = true) : 0 < pc.level := by
  cases pc with
  | drain | drained | ended | panicked | aborted => cases h
  | idle => exact Nat.lt_of_lt_of_le (by decide) (Nat.le_add_right 6 _)
  | _ => simp [Pc.level]

/-- An abort ends what the task had left. -/
theorem level_aborted (h : s.step (.aborted : Ev M Req) = some (s', os)) : s'.level < s.level := by
  cases moves_of_step h with
  | aborted hp =>
    have hleave : (s.leave .aborted : _ × List (Out M Req)).1.level + s.pc.level ≤ s.level :=
      level_leave s _ rfl
    have hpos := Pc.level_pos hp
    omega

end

/-! ## What a socket answers -/

@[simp] def Out.answers : Out M Req → Nat
  | .replied _ _ _ => 1
  | _ => 0

section
variable {s s' : Sock M} {e : Ev M Req} {os : List (Out M Req)}

theorem answers_exchange {x x' : Exchange M} {self : HyperClientSocket} {name : String}
    {alive : Bool} {te : TaskEv M Req} (h : x.step self name alive te = some (x', os)) :
    tally Out.answers os ≤ te.own.toNat := by
  cases taskMoves_of_step h with
  | sent | refused | elapsed | frame | bodyPoll => simp [TaskEv.own]
  | @response r => cases r <;> simp [TaskEv.own, recordOut]
  | @responded a b => cases a.processHttpResponse b.resp <;> simp [TaskEv.own, answerReply]

/-- Only an own step answers, and one request at most. -/
theorem answers_step (h : s.step e = some (s', os)) : tally Out.answers os ≤ e.own.toNat := by
  cases moves_of_step h with
  | task _ hst => exact answers_exchange hst
  | @response _ r => cases r <;> simp [Ev.own, recordOut]
  | @responded a _ b => cases a.processHttpResponse b.resp <;> simp [Ev.own, answerReply]
  | _ => simp [Ev.own]

end

/-! ## The processor -/

/-- The steps the processor takes by itself, and those of its tasks. A task it aborts stops. -/
def ProcEv.own : ProcEv M Req → Bool
  | .started _ | .recv | .join _ | .joinError _ _ | .procRemoved _ | .returned
  | .sock _ .aborted => true
  | .sock _ e => e.own
  | _ => false

/-- What holds up an own step of a socket holds up that of the processor. -/
def HyperClientProc.ready (s : HyperClientProc M) : ProcEv M Req → Bool
  | .sock i e => s.clientSockets[i]?.all fun t => t.sock.ready e
  | _ => true

/-- What a step from outside brings. -/
def ProcEv.gain : ProcEv M Req → Nat
  | .internal _ => 1
  | .sock _ e => e.gain + e.toll
  | _ => 0

/-- The steps left to `internal_run`, if nothing waits for it. -/
def RunPc.level : RunPc M → Nat
  | .start => 4
  | .select => 3
  | .removeProc => 2
  | .returning _ => 1
  | .ended _ | .panicked => 0

/-- The steps of the sockets that are not created yet. -/
def HyperClientProc.uncreated (s : HyperClientProc M) : Nat :=
  match s.pc with
  | .start => s.settings.backends.length * (s.settings.minSocket * 12)
  | _ => 0

/-- The steps of a task, and those of the tasks spawned for its socket. -/
def SockTask.level (t : SockTask M) : Nat :=
  t.sock.level + 12 * t.sock.rxQueue.buf.length + if t.joined then 0 else t.sock.pc.reserve

def HyperClientProc.level (s : HyperClientProc M) : Nat :=
  s.pc.level + s.uncreated + s.internalRxQueue.buf.length + tally SockTask.level s.clientSockets

section
variable {urlIsSsl : Url → Bool} {s s' : HyperClientProc M} {e : ProcEv M Req}
  {os : List (ProcOut M Req)}

theorem level_spawn (backend : Nat) (socket : HyperClientSocket) :
    (s.spawn backend socket).level = 12 := rfl

theorem level_create : tally SockTask.level (s.create urlIsSsl) =
    s.settings.backends.length * (s.settings.minSocket * 12) := by
  simp only [HyperClientProc.create, tally_flatMap, tally_replicate, level_spawn]
  simp [tally]

theorem level_dropSet (s : HyperClientProc M) : s.dropSet.level = s.level := by
  have htasks : tally SockTask.level s.dropSet.clientSockets =
      tally SockTask.level s.clientSockets := by
    simp only [HyperClientProc.dropSet, tally_map]
    rfl
  simp only [HyperClientProc.level, htasks]
  rfl

/-- A socket's step, for its task. -/
theorem level_sock {t : SockTask M} {x : Sock M} {e : Ev M Req} {os : List (Out M Req)} {i : Nat}
    (h : t.sock.step e = some (x, os)) :
    ({ t with sock := x } : SockTask M).level + (ProcEv.sock i e).own.toNat ≤
      t.level + (ProcEv.sock i e).gain := by
  have hlevel : x.level + (ProcEv.sock i e).own.toNat ≤ t.sock.level + e.gain := by
    cases e with
    | aborted => exact level_aborted h
    | _ => exact level_step h
  obtain ⟨hbuf, hres⟩ := reserve_step h
  simp only [SockTask.level, ProcEv.gain]
  split <;> omega

/-- **Every step is paid for**, also a new task. -/
theorem proc_level_step (h : s.step urlIsSsl e = some (s', os)) :
    s'.level + e.own.toNat ≤ s.level + e.gain := by
  have len {c c' : Chan (InternalMsg M)} {m : InternalMsg M} (hq : c.recv = some (m, c')) :
      c.buf.length = c'.buf.length + 1 := by rw [(Chan.recv_eq_some hq).1, List.length_cons]
  -- the join of a task takes its reserve
  have join {i : Nat} {t : SockTask M} {n : Nat} (ht : s.clientSockets[i]? = some t)
      (hj : t.joined = false) (hn : t.sock.pc.reserve = n) :
      tally SockTask.level (s.clientSockets.set i { t with joined := true }) + n =
        tally SockTask.level s.clientSockets := by
    have hset := tally_set (f := SockTask.level) ht { t with joined := true }
    simp only [SockTask.level, hj, hn] at hset ⊢
    simp only [Bool.false_eq_true, if_false, if_true] at hset
    omega
  cases procMoves_of_step h with
  | internal hq =>
    have hlen := congrArg List.length (Chan.send_eq_some hq).2.2.1
    simp only [List.length_append, List.length_singleton] at hlen
    simp only [HyperClientProc.level, HyperClientProc.uncreated, hlen, ProcEv.own, ProcEv.gain,
      Bool.toNat_false]
    omega
  | dropSenders | recvClosed => exact Nat.le_refl _
  | startFailed hp | noBackend hp | procRemoved hp | procRemoveFailed hp =>
    simp only [HyperClientProc.level, HyperClientProc.uncreated, hp, RunPc.level, ProcEv.own,
      ProcEv.gain, Bool.toNat_true]
    omega
  | created hp =>
    simp only [HyperClientProc.level, HyperClientProc.uncreated, hp, RunPc.level, ProcEv.own,
      ProcEv.gain, Bool.toNat_true, tally_append, level_create]
    omega
  | recvPanic hp hq =>
    have hlen := len hq
    rw [level_dropSet]
    simp only [HyperClientProc.level, HyperClientProc.uncreated, hp, hlen, RunPc.level, ProcEv.own,
      ProcEv.gain, Bool.toNat_true]
    omega
  | recvClosedPanic hp | returned hp =>
    rw [level_dropSet]
    simp only [HyperClientProc.level, HyperClientProc.uncreated, hp, RunPc.level, ProcEv.own,
      ProcEv.gain, Bool.toNat_true, Bool.toNat_false]
    omega
  | recvService hp hq | recvShutdown hp hq =>
    have hlen := len hq
    simp only [HyperClientProc.level, HyperClientProc.uncreated, hp, hlen, RunPc.level, ProcEv.own,
      ProcEv.gain, Bool.toNat_true]
    omega
  | respawned hp ht hj ho =>
    have hjoin := join ht hj (n := 13) (by rw [ho]; rfl)
    simp only [HyperClientProc.level, HyperClientProc.uncreated, hp, RunPc.level, ProcEv.own,
      ProcEv.gain, Bool.toNat_true, tally_append, tally_cons, tally_nil, level_spawn]
    omega
  | joinedErr hp ht hj ho =>
    have hjoin := join ht hj (n := 1) (by rw [ho]; rfl)
    simp only [HyperClientProc.level, HyperClientProc.uncreated, hp, RunPc.level, ProcEv.own,
      ProcEv.gain, Bool.toNat_true]
    omega
  | joinError hp ht hj ho =>
    have hjoin := join ht hj (n := 1) (by rcases ho with ho | ho <;> rw [ho] <;> rfl)
    simp only [HyperClientProc.level, HyperClientProc.uncreated, hp, RunPc.level, ProcEv.own,
      ProcEv.gain, Bool.toNat_true]
    omega
  | @sock i e t x _ ht _ _ hst =>
    have hset := tally_set (f := SockTask.level) ht { t with sock := x }
    have hlevel := level_sock (i := i) hst
    simp only [HyperClientProc.level, HyperClientProc.uncreated]
    omega

def ProcOut.answers : ProcOut M Req → Nat
  | .sock _ o => o.answers
  | _ => 0

/-- Only an own step of the processor answers, and one request at most. -/
theorem proc_answers_step (h : s.step urlIsSsl e = some (s', os)) :
    tally ProcOut.answers os ≤ e.own.toNat := by
  cases procMoves_of_step h with
  | @sock i e _ _ _ _ _ _ hst =>
    have hown : e.own.toNat ≤ (ProcEv.sock i e).own.toNat := by
      cases e <;> first | exact Nat.zero_le _ | exact Nat.le_refl _
    rw [tally_map]
    exact Nat.le_trans (answers_step hst) hown
  | _ => exact Nat.zero_le _

theorem ProcEv.gain_of_own (h : e.own = true) : e.gain = 0 := by
  cases e with
  | internal => cases h
  | sock i e => cases e <;> first | rfl | cases h
  | _ => rfl

variable (M Req urlIsSsl) in
/-- The own steps of the processor, and what they are paid with. -/
def recovery : Potential (clientMachine M Req urlIsSsl) where
  own := ProcEv.own
  ready := HyperClientProc.ready
  level := HyperClientProc.level
  gain := ProcEv.gain
  spend s e s' os h he := by
    have hstep := proc_level_step h
    rw [he, ProcEv.gain_of_own he, Bool.toNat_true] at hstep
    exact hstep
  bring s e s' os h _ := Nat.le_trans (Nat.le_add_right _ _) (proc_level_step h)

/-- **No reconnection loop.** In every run the own steps of the processor, with those of all the
sockets it created and spawned again, are paid for by the messages and the ends of connections. -/
theorem pool_steps_le {tr : List (Rec (HyperClientProc M) (ProcEv M Req) (ProcOut M Req))}
    (hr : (clientMachine M Req urlIsSsl).Run tr s) :
    tr.countP (fun r => r.ev.own) + s.level ≤
      4 + s.settings.backends.length * (s.settings.minSocket * 12) +
        tally (fun r => r.ev.gain) tr := by
  obtain ⟨s₀, ⟨settings, rfl⟩, hr₀, hle⟩ :=
    (recovery M Req urlIsSsl).amortized_run (fun _ he => ProcEv.gain_of_own he) hr
  rw [settings_of_run hr₀]
  exact hle

/-! ## At rest -/

/-- Once `internal_run` has ended no loop of a task is resumed. -/
theorem stopped_of_run {tr : List (Rec (HyperClientProc M) (ProcEv M Req) (ProcOut M Req))}
    (hr : (clientMachine M Req urlIsSsl).Run tr s) (ho : s.pc.isOver = true) :
    ∀ t ∈ s.clientSockets, t.Stopped := by
  induction hr with
  | start hi =>
    obtain ⟨settings, rfl⟩ := hi
    cases ho
  | @next tr s s' e os hr hst ih =>
    cases procMoves_of_step hst with
    | internal | dropSenders => exact ih ho
    | recvService hp | recvClosed hp | respawned hp | joinedErr hp =>
      exact absurd ho (by simp [hp, RunPc.isOver])
    | recvPanic | recvClosedPanic | returned => exact stopped_dropSet (poolInv_of_run hr).ended
    | sock ht _ _ hx => exact stopped_set (ih ho) ht hx
    | _ => cases ho

/-- An own step of a socket is one of the processor, unless the task stops instead. -/
theorem admits_of_own {t : SockTask M} {e : Ev M Req} {i : Nat} (he : e.own = true)
    (hne : (t.aborting && t.sock.pc.isAwait) = false) :
    HyperClientProc.admits t e = true ∧ (∀ s : HyperClientProc M, s.fresh e = true) ∧
      (ProcEv.sock i e).own = true := by
  cases e with
  | send | dropSenders | connection | exchangeEnded | answeredEarly | frame | ioDropped | aborted
  | bodyPoll =>
    cases he
  | task => exact ⟨rfl, fun _ => rfl, he⟩
  | _ => exact ⟨by simp [HyperClientProc.admits, hne], fun _ => rfl, rfl⟩

/-- With nothing left to the processor, nothing is left to its sockets. -/
theorem sock_of_rests (h : (recovery M Req urlIsSsl).Rests s) {i : Nat} {t : SockTask M}
    (ht : s.clientSockets[i]? = some t) :
    (drainage M Req).Rests t.sock ∧ (t.aborting = true → t.sock.pc.isAwait = false) := by
  have stuck {e : Ev M Req} (ha : HyperClientProc.admits t e = true) (hf : s.fresh e = true)
      (ho : (ProcEv.sock i e).own = true) (hr : t.sock.ready e = true) : t.sock.step e = none := by
    have hst : s.onSock i e = none := h (.sock i e) ⟨ho, by simpa [recovery,
      HyperClientProc.ready, ht] using hr⟩
    simpa only [HyperClientProc.onSock, ht, ha, hf, Bool.and_self, if_true,
      Option.map_eq_none_iff] using hst
  have hstop (ha : t.aborting = true) : t.sock.pc.isAwait = false := by
    by_contra hw
    have hst := stuck (e := .aborted) ha rfl rfl rfl
    simp [Sock.step, Sock.onAborted, hw] at hst
  refine ⟨fun e hgoes => ?_, hstop⟩
  obtain ⟨he, hr⟩ := hgoes
  have hne : (t.aborting && t.sock.pc.isAwait) = false := by
    cases ha : t.aborting with
    | true => exact hstop ha
    | false => rfl
  obtain ⟨hadm, hfresh, hown⟩ := admits_of_own (i := i) he hne
  exact stuck hadm (hfresh s) hown hr

/-- Where the processor can be with nothing left to do. -/
theorem loop_of_rests (h : (recovery M Req urlIsSsl).Rests s) :
    s.pc = .select ∧ s.internalRxQueue.buf = [] ∨ s.pc.isOver = true := by
  have stuck (e : ProcEv M Req) (he : e.own = true) (hr : s.ready e = true) :
      s.step urlIsSsl e = none := h e ⟨he, hr⟩
  cases hp : s.pc with
  | start =>
    have hst := stuck (.started (.error (.adaptor ""))) rfl rfl
    simp [HyperClientProc.step, HyperClientProc.onStarted, hp] at hst
  | select =>
    refine .inl ⟨rfl, ?_⟩
    by_contra hne
    obtain ⟨m, l, hb⟩ := List.exists_cons_of_ne_nil hne
    obtain ⟨q, hq, -⟩ := Chan.recv_cons hb
    have hst := stuck .recv rfl rfl
    simp only [HyperClientProc.step, HyperClientProc.onRecv, hp, hq] at hst
    split at hst <;> cases hst
  | removeProc =>
    have hst := stuck (.procRemoved true) rfl rfl
    simp [HyperClientProc.step, HyperClientProc.onProcRemoved, hp] at hst
  | returning r =>
    have hst := stuck .returned rfl rfl
    simp [HyperClientProc.step, HyperClientProc.onReturned, hp] at hst
  | ended | panicked => exact .inr rfl

/-- A task that is over is joined. -/
theorem joined_of_rests (h : (recovery M Req urlIsSsl).Rests s) (hp : s.pc = .select)
    {t : SockTask M} (ht : t ∈ s.clientSockets) (hj : t.joined = false) :
    t.sock.pc.isOver = false := by
  obtain ⟨i, hi⟩ := List.mem_iff_getElem?.1 ht
  have hst : s.onJoin i = none := h (.join i) ⟨rfl, rfl⟩
  have hcut : s.onJoinError i "" = none := h (.joinError i "") ⟨rfl, rfl⟩
  simp only [HyperClientProc.onJoin, HyperClientProc.onJoinError, hp, hi, hj] at hst hcut
  cases hpc : t.sock.pc with
  | ended r => cases r <;> simp [hpc] at hst
  | panicked | aborted => simp [hpc] at hcut
  | _ => rfl

/-- What the processor left to itself comes to. -/
structure PoolRested (urlIsSsl : Url → Bool)
    (tr : List (Rec (HyperClientProc M) (ProcEv M Req) (ProcOut M Req)))
    (s : HyperClientProc M) : Prop where
  loop : s.pc = .select ∧ s.internalRxQueue.buf = [] ∨ s.pc.isOver = true
  /-- the tasks of the set are not over: each that was had its join, and maybe another task -/
  kept : s.pc = .select → ∀ t ∈ s.clientSockets, t.joined = false → t.sock.pc.isOver = false
  ended : s.pc.isOver = true → ∀ t ∈ s.clientSockets, t.sock.pc.isOver = true
  /-- every socket is at rest, by what it has shown, and the tasks it spawned are finished or wait
  for the body of a response -/
  socks : ∀ i t, s.clientSockets[i]? = some t → ∃ own, (socketMachine M Req).Run own t.sock ∧
    outs own = (sockets M Req urlIsSsl).own i (outs tr) ∧ Rested own t.sock ∧
      ∀ x ∈ t.sock.tasks, x.open? = true → x.pc.blocked = true

theorem pool_of_rests {tr : List (Rec (HyperClientProc M) (ProcEv M Req) (ProcOut M Req))}
    (hr : (clientMachine M Req urlIsSsl).Run tr s) (hrest : (recovery M Req urlIsSsl).Rests s) :
    PoolRested urlIsSsl tr s := by
  have socks (i : Nat) (t : SockTask M) (ht : s.clientSockets[i]? = some t) :
      ∃ own, (socketMachine M Req).Run own t.sock ∧
        outs own = (sockets M Req urlIsSsl).own i (outs tr) ∧ Rested own t.sock ∧
          ∀ x ∈ t.sock.tasks, x.open? = true → x.pc.blocked = true := by
    have hcomp : ((sockets M Req urlIsSsl).comps s)[i]? = some t.sock := by simp [sockets, ht]
    obtain ⟨own, hrun, hown, -⟩ := (sockets M Req urlIsSsl).project hr hcomp
    obtain ⟨hsock, htasks⟩ := rested_of_rests hrun (sock_of_rests hrest ht).1
    exact ⟨own, hrun, hown, hsock, htasks⟩
  refine ⟨loop_of_rests hrest, fun hp _ ht hj => joined_of_rests hrest hp ht hj, fun ho t ht => ?_,
    socks⟩
  obtain ⟨i, hi⟩ := List.mem_iff_getElem?.1 ht
  rcases stopped_of_run hr ho t ht with ha | hover
  · -- an aborted task is at no await, and both the idle loop and the reader are at one
    have hawait := (sock_of_rests hrest hi).2 ha
    obtain ⟨own, -, -, hsock, -⟩ := socks i t hi
    rcases hsock with ⟨hp, -, -⟩ | ⟨hp, -⟩ | ⟨hover, -⟩
    · rw [hp] at hawait
      cases hawait
    · cases hpc : t.sock.pc with
      | processing => rw [hpc] at hawait; cases hawait
      | _ => rw [hpc] at hp; cases hp
    · exact hover
  · exact hover

end

/-- The connection of the only socket is reset, and its task returns. -/
def resets : List (ProcEv Nat Nat) :=
  .started (.ok ()) :: registered.map (.sock 0) ++
    [.sock 0 (.connection (some (.error (.other "reset")))), .sock 0 (.procQueueRemoved true),
      .sock 0 .tryRecv, .sock 0 .returned]

/-- What the reset brought pays for the join, and the next task. -/
theorem resets_own_steps : ∃ q,
    (clientMachine Nat Nat noSsl).exec (HyperClientProc.new oneBackend) resets = some q ∧
      q.1.countP (fun r => r.ev.own) = 8 ∧ tally (fun r => r.ev.gain) q.1 = 12 ∧
      q.1.countP (fun r => r.ev.own) + q.2.level ≤
        4 + q.2.settings.backends.length * (q.2.settings.minSocket * 12) +
          tally (fun r => r.ev.gain) q.1 :=
  ⟨_, (Option.some_get rfl).symm, rfl, rfl, pool_steps_le (Machine.run_get (init_proc _ _) rfl)⟩

end Client
