import ProsaHyper.Server.Proof.Listener

/-!
# The adaptor of a server after `terminate`

The `Shutdown` arm calls `terminate` and the loop takes nothing any more, but the connection tasks
are detached and have the adaptor in an `Arc` of their own.

* `adaptorCall?`: the adaptor method that a step starts.
* `late_of_run`: after `terminate` the methods are called for connections accepted before it, and
  the handlers for answers given before it.
-/

set_option autoImplicit false

namespace Server

open Prosa Http

variable {M : Type}

/-- A call of the adaptor: `process_http_request` on a connection, or the handler of a service
request of a call. -/
inductive AdaptorCall
  | processHttpRequest (conn : Nat)
  | srvRespHandler (call : Nat)
  deriving DecidableEq, Repr

/-- The call that a step starts: hyper calls the service, or `wait_intern_resp` passes the answer
to the handler. -/
def adaptorCall? (s : HyperServerProc M) : Ev M → Option AdaptorCall
  | .call i => some (.processHttpRequest i)
  | .callAnswered c =>
    match s.replies c with
    | .sent (.response msg) => if msg.data.isSome then some (.srvRespHandler c) else none
    | .sent (.error _) => some (.srvRespHandler c)
    | _ => none
  | _ => none

/-- No adaptor call is started once `terminate` was called. -/
def SilentAfterTerminate (tr : List (Rec (HyperServerProc M) (Ev M) (Out M))) : Prop :=
  Machine.Since (fun r₀ => .terminate ∈ r₀.out) (fun _ r => adaptorCall? r.pre r.ev = none) tr

/-- A step after the one that led to `s₀` by calling `terminate`: no connection is accepted, a
request is processed on a connection task of before, and a handler has an answer of before. -/
structure LateStep (s₀ : HyperServerProc M) (r : Rec (HyperServerProc M) (Ev M) (Out M)) :
    Prop where
  conns : r.post.conns.length = s₀.conns.length
  request : ∀ i, adaptorCall? r.pre r.ev = some (.processHttpRequest i) → AliveTask s₀ i
  handler : ∀ c, adaptorCall? r.pre r.ev = some (.srvRespHandler c) → ∃ m, s₀.replies c = .sent m

/-- What is left of a server since it was in the state `s₀`. -/
structure Aftermath (s₀ s : HyperServerProc M) : Prop where
  pc : s.pc = .removeProc ∨ s.pc.isOver = true
  conns : s.conns.length = s₀.conns.length
  alive : ∀ i, AliveTask s i → AliveTask s₀ i
  sent : ∀ c m, s.replies c = .sent m → s₀.replies c = .sent m

section
variable {urlIsSsl : Url → Bool} {adaptor : HyperServerAdaptor} {s₀ s s' : HyperServerProc M}
  {e : Ev M} {os : List (Out M)} {tr : List (Rec (HyperServerProc M) (Ev M) (Out M))}

/-- Where `wait_intern_resp` starts no call, the handler has no part in its result. -/
theorem waitInternResp_uncalled {c : Nat} {m : Option (InternalMsg M)}
    (hn : adaptorCall? s (.callAnswered c) = none) (hm : (s.replies c).recv = some m)
    (handler handler' : SrvRespHandler M) :
    waitInternResp adaptor handler m = waitInternResp adaptor handler' m := by
  simp only [adaptorCall?] at hn
  cases hr : s.replies c with
  | sent a =>
    rw [hr] at hn hm
    cases hm
    cases a with
    | response msg =>
      have hd : msg.data = none := by simpa using hn
      simp [waitInternResp, hd]
    | error => cases hn
    | _ => rfl
  | closed =>
    rw [hr] at hm
    cases hm
    rfl
  | unborn | «open» =>
    rw [hr] at hm
    cases hm

theorem removeProc_of_terminate (h : s.step urlIsSsl adaptor e = some (s', os))
    (ho : .terminate ∈ os) : s'.pc = .removeProc := by
  cases moves_of_step h with
  | recvShutdown => rfl
  | startFailed | bindFailed | sendFailed | acceptFailed | procRemoveFailed | recvPanic
  | procRemoved => simp [HyperServerProc.leave] at ho
  | conn _ hc => cases plain_socket hc ho
  | processed _ _ hc => cases plain_completed hc ho
  | callAnswered => cases plain_completed (countRes_counts _) ho
  | _ => simp at ho

theorem sent_of_drop {msgs : List (RequestMsg M)} {c : Nat} {m : InternalMsg M}
    (h : (s.drop msgs).replies c = .sent m) : s.replies c = .sent m := by
  simp only [HyperServerProc.drop] at h
  split at h
  · cases h
  · exact h

theorem aftermath_conn {i : Nat} (hc : Aftermath s₀ s)
    (h : s.step urlIsSsl adaptor e = some (s', os)) (hconn : e.conn? = some i) :
    Aftermath s₀ s' := by
  obtain ⟨hi, c, rfl, -⟩ := task_of_step h hconn
  refine ⟨hc.pc, ?_, fun j hj => hc.alive j ((aliveTask_set hi j).1 hj).1, hc.sent⟩
  rw [List.length_set, hc.conns]

theorem step_aftermath (hc : Aftermath s₀ s) (h : s.step urlIsSsl adaptor e = some (s', os)) :
    Aftermath s₀ s' := by
  have hconn {i : Nat} := aftermath_conn (i := i) hc h
  obtain ⟨hpc, hconns, halive, hsent⟩ := hc
  have off {pc : RunPc M} (hp : s.pc = pc) (hr : pc ≠ .removeProc) (ho : pc.isOver = false) :
      False := by
    rw [hp, ho] at hpc
    exact hpc.elim hr Bool.false_ne_true
  cases moves_of_step h with
  | startFailed hp | started hp | bindFailed hp | bound hp | recvPanic hp | recvStale hp
  | recvData hp | recvNoData hp | recvError hp | recvService hp | recvShutdown hp | dispatch hp
  | refuse hp | sent hp | sendFailed hp | acceptFailed hp | accepted hp | pulled hp =>
    exact (off hp (by simp) rfl).elim
  | procRemoved | procRemoveFailed =>
    exact ⟨.inr rfl, hconns, halive, fun c m hm => hsent c m (sent_of_drop hm)⟩
  | conn hc => exact hconn hc
  | opened =>
    refine ⟨hpc, hconns, halive, fun c m hm => hsent c m ?_⟩
    dsimp only at hm
    rw [Function.update_apply] at hm
    split at hm
    · cases hm
    · exact hm
  | callSendFailed | sendCancelled =>
    exact ⟨hpc, hconns, halive, fun c m hm => hsent c m (sent_of_drop hm)⟩
  | _ => exact ⟨hpc, hconns, halive, hsent⟩

/-- A step of the aftermath. -/
theorem late_of_step (hc : Aftermath s₀ s) (h : s.step urlIsSsl adaptor e = some (s', os)) :
    LateStep s₀ ⟨s, e, os, s'⟩ := by
  refine ⟨(step_aftermath hc h).conns, fun i hcall => hc.alive i ?_, fun c hcall => ?_⟩
  · cases e with
    | call k =>
      cases hcall
      cases moves_of_step h with
      | call hi hserving => exact ⟨_, hi, by simp [hserving]⟩
      | conn hconn => cases hconn
    | callAnswered c =>
      simp only [adaptorCall?] at hcall
      split at hcall
      · split at hcall <;> cases hcall
      · cases hcall
      · cases hcall
    | _ => cases hcall
  · cases e with
    | callAnswered k =>
      simp only [adaptorCall?] at hcall
      split at hcall
      · rename_i msg hsent
        split at hcall <;> cases hcall
        exact ⟨_, hc.sent _ _ hsent⟩
      · rename_i err hsent
        cases hcall
        exact ⟨_, hc.sent _ _ hsent⟩
      · cases hcall
    | _ => cases hcall

/-- **After `terminate`** only what was there before calls the adaptor. -/
theorem late_of_run (hr : (serverMachine M urlIsSsl adaptor).Run tr s) :
    Machine.Since (fun r₀ => .terminate ∈ r₀.out) (fun r₀ r => LateStep r₀.post r) tr := by
  refine hr.since (I := Aftermath) (fun ta r₀ hr₀ ho => ?_) (fun _ _ _ _ _ => step_aftermath)
    fun r₀ r => late_of_step
  obtain ⟨-, hst, -⟩ := Machine.run_concat.1 hr₀
  exact ⟨.inl (removeProc_of_terminate hst ho), rfl, fun _ => id, fun _ _ => id⟩

end

end Server
