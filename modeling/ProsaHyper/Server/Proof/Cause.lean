import ProsaHyper.Server.Proof.Routing

/-!
# Why the server processor ends

`terminates_explained`: `internal_run` ends by `Shutdown`, by an error at its start, of `bind`, of
`accept` or of `remove_proc`, on a service queue without a receiver that the table still lists, or
it panics on a message it has no use for. No call and no answer ends it.
-/

set_option autoImplicit false

namespace Server

open Prosa Http

variable {M : Type}

/-- Why `internal_run` returns `some res`, or panics (`none`), at the step `r` after the history
`ta`. -/
inductive EndCause (ta : List (Rec (HyperServerProc M) (Ev M) (Out M)))
    (r : Rec (HyperServerProc M) (Ev M) (Out M)) : Option (Except (ProcError M) Unit) → Prop
  | shutdown : .terminate ∈ outs ta → r.ev = .procRemoved true → EndCause ta r (some (.ok ()))
  | unremoved : .terminate ∈ outs ta → r.ev = .procRemoved false →
      EndCause ta r (some (.error (.bus ⟨.removeProc⟩)))
  | unstarted {err : ProcError M} : r.ev = .started (.error err) →
      EndCause ta r (some (.error err))
  | unbound {desc : String} : r.ev = .bound (.error desc) →
      EndCause ta r (some (.error (.io desc)))
  | unaccepted {desc : String} : r.ev = .accept (.error desc) →
      EndCause ta r (some (.error (.io desc)))
  | deserted {queue : Nat} {request httpMsg msg : RequestMsg M} {data : M} : r.ev = .sent →
      Asks (outs ta) r.pre.service queue request httpMsg msg data →
      (r.pre.queues queue).rx = false →
      EndCause ta r (some (.error (.send (.request request))))
  | misled {m : InternalMsg M} {q : Chan (InternalMsg M)} : r.ev = .recv →
      r.pre.internalRxQueue.recv = some (m, q) → panics m = true → EndCause ta r none

/-- `internal_run` has returned, or panicked. -/
def RunPc.gives (pc : RunPc M) : Option (Except (ProcError M) Unit) → Prop
  | some res => pc = .ended res
  | none => pc = .panicked

section
variable {urlIsSsl : Url → Bool} {adaptor : HyperServerAdaptor} {s s' : HyperServerProc M}
  {e : Ev M} {os : List (Out M)} {ta : List (Rec (HyperServerProc M) (Ev M) (Out M))}

/-- The processor has taken `Shutdown` where it calls `remove_proc`. -/
theorem terminated_of_run (hr : (serverMachine M urlIsSsl adaptor).Run ta s)
    (hp : s.pc = .removeProc) : .terminate ∈ outs ta := by
  obtain ⟨tb, r, tc, rfl, -, hst, hpre, hpost⟩ := hr.entered (P := fun s => s.pc = .removeProc)
    (by rintro s ⟨settings, queues, nextId, rfl⟩ h; cases h) hp
  refine mem_outs.2 ⟨r, List.mem_append_right _ List.mem_cons_self, ?_⟩
  obtain ⟨s₀, e, os, s₁⟩ := r
  have hst : s₀.step urlIsSsl adaptor e = some (s₁, os) := hst
  have hpre : ¬ s₀.pc = .removeProc := hpre
  have hpost : s₁.pc = .removeProc := hpost
  cases moves_of_step hst with
  | recvShutdown => exact List.mem_cons_of_mem _ List.mem_cons_self
  | startFailed | bindFailed | acceptFailed | sendFailed | procRemoveFailed | procRemoved
  | recvPanic | started | bound | dispatch | sent => cases hpost
  | _ => exact absurd hpost hpre

/-- **Why a step ends the loop.** -/
theorem endCause_of_step (hr : (serverMachine M urlIsSsl adaptor).Run ta s)
    (hst : s.step urlIsSsl adaptor e = some (s', os)) {res : Option (Except (ProcError M) Unit)}
    (hpre : ¬ s.pc.gives res) (hpost : s'.pc.gives res) : EndCause ta ⟨s, e, os, s'⟩ res := by
  have ended {r : Except (ProcError M) Unit} (hp : s'.pc = .ended r) : res = some r := by
    cases res with
    | none => cases hp.symm.trans hpost
    | some res => cases hp.symm.trans hpost; rfl
  have going (hp : s'.pc.isOver = false) : False := by
    cases res with
    | none =>
      have hpc : s'.pc = .panicked := hpost
      rw [hpc] at hp
      cases hp
    | some res =>
      have hpc : s'.pc = .ended res := hpost
      rw [hpc] at hp
      cases hp
  cases moves_of_step hst with
  | startFailed => cases ended rfl; exact .unstarted rfl
  | bindFailed => cases ended rfl; exact .unbound rfl
  | acceptFailed => cases ended rfl; exact .unaccepted rfl
  | @sendFailed queue request httpMsg err hp hrx =>
    cases ended rfl
    simp only [HyperServerProc.step, HyperServerProc.onSent, hp, hrx, Bool.false_eq_true,
      if_false, Option.some.injEq] at hst
    obtain ⟨msg, data, hasks⟩ := (sourced_of_run hr).hand _ _ _ hp
    cases congrArg (fun q => q.1.pc) hst
    exact .deserted rfl hasks hrx
  | procRemoved hp => cases ended rfl; exact .shutdown (terminated_of_run hr hp) rfl
  | procRemoveFailed hp =>
    cases ended rfl
    simp only [HyperServerProc.step, HyperServerProc.onProcRemoved, hp, Bool.false_eq_true,
      if_false, Option.some.injEq] at hst
    cases congrArg (fun q => q.1.pc) hst
    exact .unremoved (terminated_of_run hr hp) rfl
  | recvPanic hp hq hm =>
    have hnone : res = none := by
      cases res with
      | none => rfl
      | some res => cases hpost
    subst hnone
    exact .misled rfl hq hm
  | started | bound | recvShutdown | dispatch | sent => exact (going rfl).elim
  | _ => exact absurd hpost hpre

end

/-- **The end of the server**: in every run in which `internal_run` returns or panics, the step that
makes it do so has one of these causes. -/
theorem terminates_explained {urlIsSsl : Url → Bool} {adaptor : HyperServerAdaptor}
    {s : HyperServerProc M} {tr : List (Rec (HyperServerProc M) (Ev M) (Out M))}
    (hr : (serverMachine M urlIsSsl adaptor).Run tr s)
    {res : Option (Except (ProcError M) Unit)} (he : s.pc.gives res) :
    ∃ ta r tb, tr = ta ++ r :: tb ∧ EndCause ta r res := by
  have hnew : ∀ s : HyperServerProc M, (serverMachine M urlIsSsl adaptor).init s →
      ¬ s.pc.gives res := by
    rintro s ⟨settings, queues, nextId, rfl⟩ h
    cases res <;> cases h
  obtain ⟨ta, r, tb, htr, hr₀, hst, hpre, hpost⟩ := hr.entered
    (P := fun s : HyperServerProc M => s.pc.gives res) hnew he
  exact ⟨ta, r, tb, htr, endCause_of_step hr₀ hst hpre hpost⟩

/-- The service goes away while its queue is listed. -/
def deserts : List (Ev Nat) :=
  called "svc" ++ [.queueClosed 5, .recvHttp (some 5), .sent]

theorem deserts_explained : ∃ q ta r tb,
    (serverMachine Nat plainHttp .default).exec plainServer deserts = some q ∧
      q.1 = ta ++ r :: tb ∧
      EndCause ta r (some (.error (.send (.request (.new 1 "svc" 7 serviceQueue))))) := by
  have hsome : ((serverMachine Nat plainHttp .default).exec plainServer deserts).isSome = true :=
    rfl
  have hends : (((serverMachine Nat plainHttp .default).exec plainServer deserts).get
      hsome).2.pc.gives (some (.error (.send (.request (.new 1 "svc" 7 serviceQueue))))) := rfl
  obtain ⟨ta, r, tb, htr, hcause⟩ :=
    terminates_explained (Machine.run_get (init_server _ _) hsome) hends
  exact ⟨_, ta, r, tb, (Option.some_get hsome).symm, htr, hcause⟩

end Server
