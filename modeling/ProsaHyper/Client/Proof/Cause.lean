import ProsaHyper.Client.Proof.Drain
import ProsaHyper.Client.Proof.Source

/-!
# Why the client processor ends

* `dies_of_run`: a socket task panics on an answer in its queue, or when nobody can send to it any
  more and its connection has ended.
* `ends_explained`: `internal_run` ends by `Shutdown`, by an error at its start or of `remove_proc`,
  or by the death of a socket task. A backend that fails, hangs or goes away does not end it.
-/

set_option autoImplicit false

namespace Client

open Prosa Http

variable {M Req : Type}

/-- Why a socket task panicked. -/
inductive Dies (own : List (Rec (Sock M) (Ev M Req) (Out M Req))) : Prop
  | answer {r : Rec (Sock M) (Ev M Req) (Out M Req)} {m : InternalMsg M}
      {q : Chan (InternalMsg M)} : r ∈ own → r.pre.rxQueue.recv = some (m, q) →
      isAnswer m = true → Dies own
  | abandoned {r : Rec (Sock M) (Ev M Req) (Out M Req)} : r ∈ own →
      r.pre.rxQueue.tx = false → r.pre.rxQueue.buf = [] →
      r.post.conn.completed = some (.ok ()) → Dies own

section
variable {s s' : Sock M} {e : Ev M Req} {os : List (Out M Req)}

/-- An idle loop that no longer polls its connection has seen it end. -/
def Detached (s : Sock M) : Prop :=
  ∀ r, s.pc = .idle false r → s.conn.completed = some (.ok ())

theorem step_detached (hs : Detached s) (h : s.step e = some (s', os)) : Detached s' := by
  intro r hp
  cases moves_of_step h with
  | send | dropSenders | ioDropped | connPending | exchangeEnded | answeredEarly | task =>
    exact hs r hp
  | connOkIdle => rfl
  | drainRequest hp' | drainOther hp' => rw [hp'] at hp; cases hp
  | _ => cases hp

theorem detached_of_run {tr : List (Rec (Sock M) (Ev M Req) (Out M Req))}
    (hr : (socketMachine M Req).Run tr s) : Detached s := by
  refine hr.state_invariant (I := Detached) ?_ fun _ _ _ _ hs hst => step_detached hs hst
  rintro s ⟨self, name, rfl⟩ r hp
  cases hp

/-- **A socket task that panicked** was sent an answer, or was abandoned. -/
theorem dies_of_run {own : List (Rec (Sock M) (Ev M Req) (Out M Req))}
    (hr : (socketMachine M Req).Run own s) (hp : s.pc = .panicked) : Dies own := by
  obtain ⟨ta, r, tb, rfl, hr₀, hst, hpre, hpost⟩ := hr.entered (P := fun s => s.pc = .panicked)
    (by rintro s ⟨self, name, rfl⟩ h; cases h) hp
  have hm : r ∈ ta ++ r :: tb := List.mem_append_right _ List.mem_cons_self
  obtain ⟨s₀, e, os, s₁⟩ := r
  have hr₀ : (socketMachine M Req).Run ta s₀ := hr₀
  have hst : s₀.step e = some (s₁, os) := hst
  have hpre : ¬ s₀.pc = .panicked := hpre
  have hpost : s₁.pc = .panicked := hpost
  cases moves_of_step hst with
  | recvPanic _ hq ha => exact .answer hm hq ha
  | connOkPanic hidle =>
    obtain ⟨-, hbuf, htx⟩ := deaf_of_run hr₀ _ hidle
    exact .abandoned hm htx hbuf rfl
  | recvClosedPanic hidle htx hbuf =>
    have hended : s₀.conn.completed = some (.ok ()) := detached_of_run hr₀ _ hidle
    exact .abandoned hm htx hbuf hended
  | send | dropSenders | ioDropped | connPending | exchangeEnded | answeredEarly | task =>
    exact absurd hpost hpre
  | drainRequest hd | drainOther hd => exact absurd hpost hpre
  | _ => cases hpost

/-- Only an abort leaves a task aborted. -/
theorem aborted_of_step (h : s.step e = some (s', os)) (hp : s'.pc = .aborted) :
    s.pc = .aborted ∨ e = .aborted := by
  cases moves_of_step h with
  | aborted => exact .inr rfl
  | send | dropSenders | ioDropped | connPending | exchangeEnded | answeredEarly | task
  | drainRequest | drainOther => exact .inl hp
  | _ => cases hp

end

/-! ## The processor -/

/-- `internal_run` has not ended yet. -/
def RunPc.isOn : RunPc M → Bool
  | .ended _ | .panicked => false
  | _ => true

/-- No task is aborted while `internal_run` goes on. -/
def Unharmed (s : HyperClientProc M) : Prop :=
  s.pc.isOn = true → ∀ t ∈ s.clientSockets, t.aborting = false ∧ t.sock.pc ≠ .aborted

section
variable {urlIsSsl : Url → Bool} {s s' : HyperClientProc M} {e : ProcEv M Req}
  {os : List (ProcOut M Req)}

theorem step_unharmed (hs : Unharmed s) (h : s.step urlIsSsl e = some (s', os)) : Unharmed s' := by
  have spawned (b : Nat) (socket : HyperClientSocket) :
      (s.spawn b socket).aborting = false ∧ (s.spawn b socket).sock.pc ≠ .aborted :=
    ⟨rfl, fun h => by cases h⟩
  have joined {i : Nat} {t : SockTask M} (hp : s.pc = .select)
      (ht : s.clientSockets[i]? = some t) : ∀ t' ∈ s.clientSockets.set i { t with joined := true },
        t'.aborting = false ∧ t'.sock.pc ≠ .aborted := by
    have hall := hs (by rw [hp]; rfl)
    exact forall_mem_set hall (hall t (List.mem_of_getElem? ht))
  intro hon
  cases procMoves_of_step h with
  | internal | dropSenders | recvService | recvClosed => exact hs hon
  | startFailed hp | noBackend hp => exact hs (by rw [hp]; rfl)
  | created hp =>
    intro t ht
    rcases List.mem_append.1 ht with ht | ht
    · exact hs (by rw [hp]; rfl) t ht
    · obtain ⟨b, i, -, rfl⟩ := create_cases ht
      exact spawned _ _
  | recvPanic | recvClosedPanic | returned => cases hon
  | recvShutdown hp | procRemoved hp | procRemoveFailed hp => exact hs (by rw [hp]; rfl)
  | respawned hp ht =>
    intro t' ht'
    rcases List.mem_append.1 ht' with ht' | ht'
    · exact joined hp ht t' ht'
    · rw [List.mem_singleton.1 ht']
      exact spawned _ _
  | joinedErr hp ht | joinError hp ht => exact joined hp ht
  | @sock i e t x os ht hadm _ hx =>
    have hall := hs hon
    obtain ⟨hab, hpc⟩ := hall t (List.mem_of_getElem? ht)
    refine forall_mem_set hall ⟨hab, fun hp => ?_⟩
    rcases aborted_of_step hx hp with hp | rfl
    · exact hpc hp
    · rw [HyperClientProc.admits, hab] at hadm
      cases hadm

theorem unharmed_of_run {tr : List (Rec (HyperClientProc M) (ProcEv M Req) (ProcOut M Req))}
    (hr : (clientMachine M Req urlIsSsl).Run tr s) : Unharmed s := by
  refine hr.state_invariant (I := Unharmed) ?_ fun _ _ _ _ hs hst => step_unharmed hs hst
  rintro s ⟨settings, rfl⟩ - t ht
  cases ht

/-- The processor has taken `Shutdown` where it calls `remove_proc`. -/
theorem terminated_of_run {tr : List (Rec (HyperClientProc M) (ProcEv M Req) (ProcOut M Req))}
    (hr : (clientMachine M Req urlIsSsl).Run tr s) (hp : s.pc = .removeProc) :
    .terminate ∈ outs tr := by
  obtain ⟨ta, r, tb, rfl, -, hst, hpre, hpost⟩ := hr.entered (P := fun s => s.pc = .removeProc)
    (by rintro s ⟨settings, rfl⟩ h; cases h) hp
  refine mem_outs.2 ⟨r, List.mem_append_right _ List.mem_cons_self, ?_⟩
  obtain ⟨s₀, e, os, s₁⟩ := r
  have hst : s₀.step urlIsSsl e = some (s₁, os) := hst
  have hpre : ¬ s₀.pc = .removeProc := hpre
  have hpost : s₁.pc = .removeProc := hpost
  cases procMoves_of_step hst with
  | recvShutdown => exact List.mem_cons_self
  | internal | dropSenders | recvService | recvClosed | respawned | joinedErr | sock =>
    exact absurd hpost hpre
  | _ => cases hpost

end

/-- The messages on the main queue that `internal_run` panics on. -/
def panics : InternalMsg M → Bool
  | .request _ | .response _ | .error _ | .command | .config => true
  | .service _ | .shutdown => false

/-- Why `internal_run` returns `some res`, or panics (`none`), at the step `r` after the history
`ta`. -/
inductive EndCause (urlIsSsl : Url → Bool)
    (ta : List (Rec (HyperClientProc M) (ProcEv M Req) (ProcOut M Req)))
    (r : Rec (HyperClientProc M) (ProcEv M Req) (ProcOut M Req)) :
    Option (Except (ProcError M) Unit) → Prop
  | shutdown : .terminate ∈ outs ta → r.ev = .procRemoved true →
      EndCause urlIsSsl ta r (some (.ok ()))
  | unremoved : .terminate ∈ outs ta → r.ev = .procRemoved false →
      EndCause urlIsSsl ta r (some (.error (.bus ⟨.removeProc⟩)))
  | unstarted {err : ProcError M} : r.ev = .started (.error err) →
      EndCause urlIsSsl ta r (some (.error err))
  | noBackend {u : Unit} : r.ev = .started (.ok u) → r.pre.settings.backends = [] →
      EndCause urlIsSsl ta r
        (some (.error (.hyper (.other "No backend configured for the Hyper client processor"))))
  | died {i : Nat} {e : String} {t : SockTask M}
      {own : List (Rec (Sock M) (Ev M Req) (Out M Req))} : r.ev = .joinError i e →
      r.pre.clientSockets[i]? = some t → (socketMachine M Req).Run own t.sock →
      (∀ r' ∈ own, ∃ r ∈ ta, (sockets M Req urlIsSsl).Shows i r r') → Dies own →
      EndCause urlIsSsl ta r
        (some (.error (.hyper (.other s!"Hyper client socket task join error: {e}"))))
  | misled {m : InternalMsg M} {q : Chan (InternalMsg M)} : r.ev = .recv →
      r.pre.internalRxQueue.recv = some (m, q) → panics m = true → EndCause urlIsSsl ta r none
  | forsaken : r.ev = .recvClosed → r.pre.internalRxQueue.tx = false →
      r.pre.internalRxQueue.buf = [] → HyperClientProc.len r.pre.clientSockets = 0 →
      EndCause urlIsSsl ta r none

/-- `internal_run` returns, or has returned, or panicked. -/
def RunPc.gives (pc : RunPc M) : Option (Except (ProcError M) Unit) → Prop
  | some res => pc = .returning res ∨ pc = .ended res
  | none => pc = .panicked

section
variable {urlIsSsl : Url → Bool} {s s' : HyperClientProc M} {e : ProcEv M Req}
  {os : List (ProcOut M Req)}
  {ta : List (Rec (HyperClientProc M) (ProcEv M Req) (ProcOut M Req))}

/-- Why a step panics. -/
theorem endCause_of_panic (hst : s.step urlIsSsl e = some (s', os)) (hpre : s.pc ≠ .panicked)
    (hpost : s'.pc = .panicked) : EndCause urlIsSsl ta ⟨s, e, os, s'⟩ none := by
  cases procMoves_of_step hst with
  | recvPanic hp hq =>
    refine .misled rfl hq ?_
    simp only [HyperClientProc.step, HyperClientProc.onRecv, hp, hq] at hst
    split at hst
    · rfl
    · rfl
    · rfl
    · rfl
    · rfl
    · cases hst
    · cases hst
  | recvClosedPanic hp =>
    simp only [HyperClientProc.step, HyperClientProc.onRecvClosed, hp] at hst
    split at hst
    · cases hst
    · rename_i hq
      split at hst
      · rename_i hlen
        simp only [Bool.or_eq_true, Bool.not_eq_true', List.isEmpty_eq_false_iff, not_or,
          Bool.not_eq_true, ne_eq, not_not] at hq
        exact .forsaken rfl hq.1 hq.2 (beq_iff_eq.1 hlen)
      · exact absurd (congrArg (fun q => q.1.pc) (Option.some.inj hst)) hpre
  | internal | dropSenders | recvService | recvClosed | respawned | joinedErr | sock =>
    exact absurd hpost hpre
  | _ => cases hpost

/-- Why a step returns. -/
theorem endCause_of_return (hr : (clientMachine M Req urlIsSsl).Run ta s)
    (hst : s.step urlIsSsl e = some (s', os)) {res : Except (ProcError M) Unit}
    (hpre : ¬ s.pc.gives (some res)) (hpost : s'.pc.gives (some res)) :
    EndCause urlIsSsl ta ⟨s, e, os, s'⟩ (some res) := by
  have returning {r : Except (ProcError M) Unit} (hp : s'.pc = .returning r) : r = res := by
    rcases hpost with h | h <;> cases hp.symm.trans h
    rfl
  cases procMoves_of_step hst with
  | startFailed => cases returning rfl; exact .unstarted rfl
  | noBackend hp hb =>
    cases returning rfl
    simp only [HyperClientProc.step, HyperClientProc.onStarted, hp, hb, List.isEmpty_nil, if_true,
      Option.some.injEq] at hst
    cases hst
    exact .noBackend rfl hb
  | @joinError i e t _ hp ht hj hcut =>
    cases returning rfl
    have hdead : t.sock.pc = .panicked := by
      refine hcut.resolve_right fun ha => ?_
      exact (unharmed_of_run hr (by rw [hp]; rfl) t (List.mem_of_getElem? ht)).2 ha
    simp only [HyperClientProc.step, HyperClientProc.onJoinError, hp, ht, hj, hdead,
      Bool.false_eq_true, if_false, Option.some.injEq] at hst
    cases hst
    have hcomp : ((sockets M Req urlIsSsl).comps s)[i]? = some t.sock := by
      simp [sockets, ht]
    obtain ⟨own, hrun, -, hshows⟩ := (sockets M Req urlIsSsl).project hr hcomp
    exact .died rfl ht hrun hshows (dies_of_run hrun hdead)
  | procRemoved hp =>
    cases returning rfl
    exact .shutdown (terminated_of_run hr hp) rfl
  | procRemoveFailed hp =>
    cases returning rfl
    simp only [HyperClientProc.step, HyperClientProc.onProcRemoved, hp, Bool.false_eq_true,
      if_false, Option.some.injEq] at hst
    cases hst
    exact .unremoved (terminated_of_run hr hp) rfl
  | returned hp =>
    rcases hpost with h | h <;> cases h
    exact absurd (.inl hp) hpre
  | internal | dropSenders | recvService | recvClosed | respawned | joinedErr | sock =>
    exact absurd hpost hpre
  | _ => rcases hpost with h | h <;> cases h

end

/-- **The end is explained**: in every run in which `internal_run` returns or panics, the step that
makes it do so has one of these causes. -/
theorem ends_explained {urlIsSsl : Url → Bool} {s : HyperClientProc M}
    {tr : List (Rec (HyperClientProc M) (ProcEv M Req) (ProcOut M Req))}
    (hr : (clientMachine M Req urlIsSsl).Run tr s) {res : Option (Except (ProcError M) Unit)}
    (he : s.pc.gives res) : ∃ ta r tb, tr = ta ++ r :: tb ∧ EndCause urlIsSsl ta r res := by
  have hnew : ∀ s : HyperClientProc M, (clientMachine M Req urlIsSsl).init s →
      ¬ s.pc.gives res := by
    rintro s ⟨settings, rfl⟩ h
    cases res with
    | none => cases h
    | some res => rcases h with h | h <;> cases h
  obtain ⟨ta, r, tb, htr, hr₀, hst, hpre, hpost⟩ := hr.entered
    (P := fun s : HyperClientProc M => s.pc.gives res) hnew he
  refine ⟨ta, r, tb, htr, ?_⟩
  cases res with
  | none => exact endCause_of_panic hst hpre hpost
  | some res => exact endCause_of_return hr₀ hst hpre hpost

/-- An answer on the queue of the only socket makes its task panic. -/
def misdirected : List (ProcEv Nat Nat) :=
  .started (.ok ()) :: registered.map (.sock 0) ++
    [.sock 0 (.send (.response ⟨3, none⟩)), .sock 0 (.recv echo),
      .joinError 0 "task 1 panicked", .returned]

theorem misdirected_explained : ∃ q ta r tb,
    (clientMachine Nat Nat noSsl).exec (HyperClientProc.new oneBackend) misdirected = some q ∧
      q.1 = ta ++ r :: tb ∧
      EndCause noSsl ta r (some (.error
        (.hyper (.other "Hyper client socket task join error: task 1 panicked")))) := by
  have hsome : ((clientMachine Nat Nat noSsl).exec (HyperClientProc.new oneBackend)
    misdirected).isSome = true := rfl
  have hends : (((clientMachine Nat Nat noSsl).exec (HyperClientProc.new oneBackend)
      misdirected).get hsome).2.pc.gives (some (.error
        (.hyper (.other "Hyper client socket task join error: task 1 panicked")))) := Or.inr rfl
  obtain ⟨ta, r, tb, htr, hcause⟩ :=
    ends_explained (Machine.run_get (init_proc oneBackend noSsl) hsome) hends
  exact ⟨_, ta, r, tb, (Option.some_get hsome).symm, htr, hcause⟩

end Client
