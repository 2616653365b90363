import ProsaHyper.Client.Proof.Final

/-!
# The adaptor of a client after `terminate`

The `Shutdown` arm calls `terminate`; the socket tasks have the adaptor in an `Arc` of their own.
They go on until `internal_run` has returned and its `JoinSet` is dropped, and the tasks that
`spawn_h2` has spawned go on after that.

* `adaptorCall?`: the adaptor method that a step starts, and the task that starts it.
* `late_of_run`: after `terminate` no socket task is spawned; once `internal_run` has ended no loop
  calls the adaptor or spawns a task.
-/

set_option autoImplicit false

namespace Client

open Prosa Http

variable {M Req : Type}

inductive Method
  | processSrvRequest
  | processHttpResponse
  deriving DecidableEq, Repr

/-- The loop of a socket task, or a task spawned by `spawn_h2`. -/
inductive Caller
  | loop
  | task (k : Nat)
  deriving DecidableEq, Repr

/-- A call of the adaptor by the socket `sock`. -/
structure AdaptorCall where
  sock : Nat
  caller : Caller
  method : Method
  deriving DecidableEq, Repr

/-- The loop of `spawn_http1` is to take a request with data, which `process_request` passes to
`process_srv_request`. -/
def Sock.processes (s : Sock M) : Bool :=
  match s.proto, s.rxQueue.recv with
  | .http1, some (.request msg, _) => msg.data.isSome
  | _, _ => false

/-- The call that a step of a socket starts. -/
def Ev.adaptorCall? (s : Sock M) : Ev M Req → Option (Caller × Method)
  | .recv _ => if s.processes then some (.loop, .processSrvRequest) else none
  | .response _ _ => some (.loop, .processHttpResponse)
  | .task k (.start _) => some (.task k, .processSrvRequest)
  | .task k (.response _ _) => some (.task k, .processHttpResponse)
  | _ => none

def adaptorCall? (s : HyperClientProc M) : ProcEv M Req → Option AdaptorCall
  | .sock i e => s.socks[i]?.bind fun x => (e.adaptorCall? x).map fun c => ⟨i, c.1, c.2⟩
  | _ => none

/-- No adaptor call is started once `terminate` was called. -/
def SilentAfterTerminate (tr : List (Rec (HyperClientProc M) (ProcEv M Req) (ProcOut M Req))) :
    Prop :=
  Machine.Since (fun r₀ => .terminate ∈ r₀.out) (fun _ r => adaptorCall? r.pre r.ev = none) tr

/-- `internal_run` no longer exists. -/
def RunPc.isOver : RunPc M → Bool
  | .ended _ | .panicked => true
  | _ => false

/-- The number of tasks that each socket has spawned. -/
def HyperClientProc.spawned (s : HyperClientProc M) : List Nat := s.socks.map (·.tasks.length)

/-- A step after the one that led to `s₀` by calling `terminate`: no socket task is spawned, and
once `internal_run` has ended no loop calls the adaptor, and none spawns a task. -/
structure LateStep (s₀ : HyperClientProc M)
    (r : Rec (HyperClientProc M) (ProcEv M Req) (ProcOut M Req)) : Prop where
  socks : r.post.socks.length = s₀.socks.length
  sock : ∀ c, adaptorCall? r.pre r.ev = some c → c.sock < s₀.socks.length
  task : ∀ c k, adaptorCall? r.pre r.ev = some c → c.caller = .task k →
    ∃ n, r.pre.spawned[c.sock]? = some n ∧ k < n
  loop : ∀ c, adaptorCall? r.pre r.ev = some c → r.pre.pc.isOver = true → c.caller ≠ .loop
  spawned : r.pre.pc.isOver = true → r.post.spawned = r.pre.spawned

/-- The loop of the task is not resumed any more. -/
def SockTask.Stopped (t : SockTask M) : Prop := t.aborting = true ∨ t.sock.pc.isOver = true

/-- What is left of a client since it was in the state `s₀`. -/
structure Aftermath (s₀ s : HyperClientProc M) : Prop where
  pc : s.pc ≠ .start ∧ s.pc ≠ .select
  socks : s.socks.length = s₀.socks.length
  stopped : s.pc.isOver = true → ∀ t ∈ s.clientSockets, t.Stopped

/-- The event resumes a loop at a place where it may call the adaptor or spawn a task. -/
def Ev.isLoop : Ev M Req → Bool
  | .recv _ | .response _ _ => true
  | _ => false

section
variable {x x' : Sock M} {e : Ev M Req} {os : List (Out M Req)}

/-- Where the loop starts no call, the adaptor has no part in the step. -/
theorem recv_uncalled (hn : x.processes = false) (a a' : HyperClientAdaptor M Req) :
    x.step (.recv a) = x.step (.recv a') := by
  unfold Sock.step Sock.onRecv
  cases hq : x.rxQueue.recv with
  | none => rfl
  | some p =>
    obtain ⟨m, q⟩ := p
    cases hproto : x.proto with
    | h2 => rfl
    | http1 =>
      have same (s : Sock M) : s.http1Recv a m = s.http1Recv a' m := by
        cases m with
        | request msg =>
          have hd : msg.data = none := by simpa [Sock.processes, hproto, hq] using hn
          simp only [Sock.http1Recv, processRequest, RequestMsg.takeData, hd]
        | _ => rfl
      simp only [same]

theorem await_of_loop (h : x.step e = some (x', os)) (he : e.isLoop = true) :
    x.pc.isAwait = true := by
  cases moves_of_step h with
  | recvSend hp | recvSpawn hp | recvRefuse hp | recvNoData hp | recvPanic hp | recvIgnored hp
  | recvShutdown hp | response hp => rw [hp]; rfl
  | _ => cases he

/-- A loop that is stopped is not resumed. -/
theorem SockTask.Stopped.not_loop {t : SockTask M} (ht : t.Stopped)
    (ha : HyperClientProc.admits t e = true) (h : t.sock.step e = some (x', os)) :
    e.isLoop = false := by
  rw [← Bool.not_eq_true]
  intro he
  have hawait := await_of_loop h he
  rcases ht with ht | ht
  · cases e with
    | recv | response => simp [HyperClientProc.admits, ht, hawait] at ha
    | _ => cases he
  · rw [Pc.isAwait_of_isOver ht] at hawait
    cases hawait

theorem length_tasks (h : x.step e = some (x', os)) (he : e.isLoop = false) :
    x'.tasks.length = x.tasks.length := by
  cases moves_of_step h with
  | task => exact List.length_set
  | recvSend | recvSpawn | recvRefuse | recvNoData | recvPanic | recvIgnored | recvShutdown
  | response => cases he
  | _ => rfl

/-- Who calls the adaptor in a step: the loop that is resumed, or a task there is. -/
theorem caller_of_step (h : x.step e = some (x', os)) {c : Caller × Method}
    (hc : e.adaptorCall? x = some c) :
    (c.1 = .loop ∧ e.isLoop = true) ∨ ∃ k, c.1 = .task k ∧ k < x.tasks.length := by
  cases e with
  | recv =>
    simp only [Ev.adaptorCall?] at hc
    split at hc <;> cases hc
    exact .inl ⟨rfl, rfl⟩
  | response =>
    cases hc
    exact .inl ⟨rfl, rfl⟩
  | task k te =>
    cases moves_of_step h with
    | task hx =>
      have hlt := (List.getElem?_eq_some_iff.1 hx).1
      cases te <;> cases hc <;> exact .inr ⟨k, rfl, hlt⟩
  | _ => cases hc

end

section
variable {urlIsSsl : Url → Bool} {s₀ s s' : HyperClientProc M} {e : ProcEv M Req}
  {os : List (ProcOut M Req)}
  {tr : List (Rec (HyperClientProc M) (ProcEv M Req) (ProcOut M Req))}

theorem removeProc_of_terminate (h : s.step urlIsSsl e = some (s', os))
    (ho : .terminate ∈ os) : s'.pc = .removeProc := by
  cases procMoves_of_step h with
  | recvShutdown => rfl
  | _ => simp at ho

theorem stopped_dropSet (he : ∀ t ∈ s.clientSockets, t.joined = true → t.sock.pc.isOver = true) :
    ∀ t ∈ s.dropSet.clientSockets, t.Stopped := by
  intro t ht
  obtain ⟨t₀, ht₀, rfl⟩ := List.mem_map.1 ht
  cases hj : t₀.joined with
  | true => exact .inr (he t₀ ht₀ hj)
  | false => exact .inl rfl

theorem stopped_set {i : Nat} {t : SockTask M} {x : Sock M} {e' : Ev M Req}
    {os' : List (Out M Req)} (hs : ∀ t ∈ s.clientSockets, t.Stopped)
    (ht : s.clientSockets[i]? = some t) (hst : t.sock.step e' = some (x, os')) :
    ∀ t' ∈ s.clientSockets.set i { t with sock := x }, t'.Stopped := by
  refine forall_mem_set hs ?_
  refine (hs t (List.mem_of_getElem? ht)).imp id fun ho => ?_
  rw [step_over ho hst]
  exact ho

/-- `internal_run` has left its `select!`. -/
theorem step_aftermath (hp : PoolInv s) (hc : Aftermath s₀ s)
    (h : s.step urlIsSsl e = some (s', os)) : Aftermath s₀ s' := by
  refine ⟨left_of_step hc.pc h, ?_, ?_⟩
  · rw [← hc.socks]
    cases procMoves_of_step h with
    | created hstart => exact absurd hstart hc.pc.1
    | respawned hselect => exact absurd hselect hc.pc.2
    | _ => simp [HyperClientProc.socks, HyperClientProc.dropSet]
  · cases procMoves_of_step h with
    | internal | dropSenders | recvService | recvClosed => exact hc.stopped
    | recvPanic | recvClosedPanic | returned => exact fun _ => stopped_dropSet hp.ended
    | respawned hselect | joinedErr hselect => exact absurd hselect hc.pc.2
    | sock ht _ _ hst => exact fun ho => stopped_set (hc.stopped ho) ht hst
    | _ => simp [RunPc.isOver]

/-- The step that starts a call is one of its socket. -/
theorem sock_of_call {c : AdaptorCall} (h : s.step urlIsSsl e = some (s', os))
    (hc : adaptorCall? s e = some c) : ∃ (t : SockTask M) (e' : Ev M Req) (x : Sock M)
      (os' : List (Out M Req)), s.clientSockets[c.sock]? = some t ∧
        HyperClientProc.admits t e' = true ∧ t.sock.step e' = some (x, os') ∧
          e'.adaptorCall? t.sock = some (c.caller, c.method) := by
  cases e with
  | sock i e' =>
    cases procMoves_of_step h with
    | sock ht ha _ hst =>
      simp only [adaptorCall?, socks_of_task ht, Option.bind_some, Option.map_eq_some_iff] at hc
      obtain ⟨q, hq, rfl⟩ := hc
      exact ⟨_, e', _, _, ht, ha, hst, hq⟩
  | _ => cases hc

/-- Once `internal_run` has ended no task is spawned. -/
theorem spawned_of_step (hs : ∀ t ∈ s.clientSockets, t.Stopped)
    (hc : s.pc ≠ .start ∧ s.pc ≠ .select) (h : s.step urlIsSsl e = some (s', os)) :
    s'.spawned = s.spawned := by
  unfold HyperClientProc.spawned HyperClientProc.socks
  cases procMoves_of_step h with
  | created hstart => exact absurd hstart hc.1
  | respawned hselect | joinedErr hselect | joinError hselect => exact absurd hselect hc.2
  | sock ht ha _ hst =>
    simp only [List.map_map]
    refine map_set_of_eq ht ?_
    exact length_tasks hst ((hs _ (List.mem_of_getElem? ht)).not_loop ha hst)
  | _ => simp [HyperClientProc.dropSet]

theorem late_of_step (hp : PoolInv s) (hc : Aftermath s₀ s)
    (h : s.step urlIsSsl e = some (s', os)) : LateStep s₀ ⟨s, e, os, s'⟩ := by
  refine ⟨(step_aftermath hp hc h).socks, fun c hcall => ?_, fun c k hcall hk => ?_,
    fun c hcall ho hloop => ?_, fun ho => spawned_of_step (hc.stopped ho) hc.pc h⟩
  · obtain ⟨t, e', x, os', ht, -⟩ := sock_of_call h hcall
    rw [← hc.socks]
    exact (List.getElem?_eq_some_iff.1 (socks_of_task ht)).1
  · obtain ⟨t, e', x, os', ht, -, hst, he⟩ := sock_of_call h hcall
    obtain ⟨hloop, -⟩ | ⟨j, hj, hlt⟩ := caller_of_step hst he
    · cases hk.symm.trans hloop
    · cases hk.symm.trans hj
      exact ⟨_, by simp [HyperClientProc.spawned, socks_of_task ht], hlt⟩
  · obtain ⟨t, e', x, os', ht, ha, hst, he⟩ := sock_of_call h hcall
    have hnot := (hc.stopped ho t (List.mem_of_getElem? ht)).not_loop ha hst
    obtain ⟨-, hl⟩ | ⟨j, hj, -⟩ := caller_of_step hst he
    · cases hl.symm.trans hnot
    · cases hloop.symm.trans hj

/-- **After `terminate`** no socket task is spawned, and after the end of `internal_run` only tasks
that `spawn_h2` spawned before call the adaptor. -/
theorem late_of_run (hr : (clientMachine M Req urlIsSsl).Run tr s) :
    Machine.Since (fun r₀ => .terminate ∈ r₀.out) (fun r₀ r => LateStep r₀.post r) tr := by
  refine hr.since (I := fun s₀ s => PoolInv s ∧ Aftermath s₀ s) (fun ta r₀ hr₀ ho => ?_)
    (fun s₀ s e s' os hI hst => ⟨step_poolInv hI.1 hst, step_aftermath hI.1 hI.2 hst⟩)
    fun r₀ r hI => late_of_step hI.1 hI.2
  obtain ⟨-, hst, -⟩ := Machine.run_concat.1 hr₀
  have hpc := removeProc_of_terminate hst ho
  exact ⟨poolInv_of_run hr₀, by simp [hpc], rfl, by simp [hpc, RunPc.isOver]⟩

end

end Client
