import ProsaHyper.Server.Proof.Correlated
import ProsaHyper.Server.Proof.Stranded

/-!
# The loop held by a full queue

`internal_run` waits in the dispatch branch until the queue of the service has room, and takes
nothing else meanwhile: no timer that ran out, no answer, no `Shutdown`.

* `CanTake`: the loop reaches, by its own steps, the one that takes what waits for it.
* `canTake_iff`: it does iff it is not at a send without room, and has not left its `select!`.
-/

set_option autoImplicit false

namespace Server

open Prosa Http

variable {M : Type}

/-- `internal_run` is resumed. -/
def Ev.ofLoop : Ev M → Prop
  | .started _ | .bound _ | .recv | .recvHttp _ | .sent | .accept _ | .pull _ | .procRemoved _ =>
    True
  | _ => False

/-- What waits for the loop. -/
inductive Waiting (M : Type)
  | expired (id : Nat)
  | message (m : InternalMsg M)

/-- The loop goes on after the message. -/
def passes : InternalMsg M → Bool
  | .response _ | .error _ | .service _ => true
  | _ => false

/-- The timer of a pending call ran out, or an answer to one or a `Shutdown` is in the main queue,
behind messages the loop goes on after. -/
inductive Ready (s : HyperServerProc M) : Waiting M → Prop
  | expired {id : Nat} {msg : RequestMsg M} : id ∈ s.pendingReq.expired →
      s.pendingReq.msgs.lookup id = some msg → Ready s (.expired id)
  | answer {ahead rest : List (InternalMsg M)} {m : InternalMsg M} {id : Nat} :
      s.internalRxQueue.buf = ahead ++ m :: rest → (∀ a ∈ ahead, passes a = true) →
      m.answers? = some id → id ∈ s.pendingReq.msgs → Ready s (.message m)
  | shutdown {ahead rest : List (InternalMsg M)} :
      s.internalRxQueue.buf = ahead ++ .shutdown :: rest → (∀ a ∈ ahead, passes a = true) →
      Ready s (.message .shutdown)

/-- The step takes it. -/
def Takes (e : Ev M) (os : List (Out M)) : Waiting M → Prop
  | .expired id => e = .pull id
  | .message m => .took m ∈ os

/-- The loop takes it by its own steps. -/
def CanTake (urlIsSsl : Url → Bool) (adaptor : HyperServerAdaptor) (s : HyperServerProc M)
    (w : Waiting M) : Prop :=
  ∃ t e t' os, (serverMachine M urlIsSsl adaptor).Leads Ev.ofLoop s t ∧ e.ofLoop ∧
    t.step urlIsSsl adaptor e = some (t', os) ∧ Takes e os w

/-- The loop is at a send on a queue that is full, or whose receiver is gone, or it was left. -/
inductive Held (s : HyperServerProc M) : Prop
  | sending {queue : Nat} {request httpMsg : RequestMsg M} : s.pc = .sending queue request httpMsg →
      (s.queues queue).send (.request request) = none → Held s
  | left : s.pc = .removeProc ∨ s.pc.isOver = true → Held s

section
variable {urlIsSsl : Url → Bool} {adaptor : HyperServerAdaptor} {s s' : HyperServerProc M}
  {e : Ev M} {os : List (Out M)} {w : Waiting M}

/-- Where it is held, the only step left to the loop is the last one. -/
theorem held_step (hs : Held s) (he : e.ofLoop) (h : s.step urlIsSsl adaptor e = some (s', os)) :
    s'.pc.isOver = true ∧ ¬ Takes e os w := by
  have off : s.pc ≠ .start ∧ s.pc ≠ .bind ∧ s.pc ≠ .select := by
    cases hs with
    | sending hp => rw [hp]; simp
    | left hp => rcases hp with hp | hp <;> cases hpc : s.pc <;> simp [hpc, RunPc.isOver] at hp ⊢
  obtain ⟨hstart, hbind, hselect⟩ := off
  cases moves_of_step h with
  | startFailed hp | started hp => exact absurd hp hstart
  | bindFailed hp | bound hp => exact absurd hp hbind
  | recvPanic hp | recvStale hp | recvData hp | recvNoData hp | recvError hp | recvService hp
  | recvShutdown hp | dispatch hp | refuse hp | acceptFailed hp | accepted hp | pulled hp =>
    exact absurd hp hselect
  | sent hp hq =>
    cases hs with
    | sending hp' hnone =>
      rw [hp] at hp'
      cases hp'
      rw [hq] at hnone
      cases hnone
    | left hl => rw [hp] at hl; rcases hl with hl | hl <;> cases hl
  | sendFailed | procRemoved | procRemoveFailed =>
    refine ⟨rfl, ?_⟩
    cases w <;> simp [Takes, HyperServerProc.leave]
  | conn hc => cases e <;> first | exact False.elim he | cases hc
  | _ => exact False.elim he

/-- A loop that is held takes nothing. -/
theorem Held.not_canTake (hs : Held s) : ¬ CanTake urlIsSsl adaptor s w := by
  intro h
  obtain ⟨t, e, t', os, hl, he, hst, ht⟩ := h
  have held : Held t := hl.invariant
    (fun s e s' os hs he hst => .left (.inr (held_step (w := w) hs he hst).1)) hs
  exact (held_step held he hst).2 ht

/-- What is ready stays so where the main queue and the pending messages only grow. -/
theorem Ready.mono (hw : Ready s w) (hq : s'.internalRxQueue = s.internalRxQueue)
    (he : s'.pendingReq.expired = s.pendingReq.expired)
    (hl : ∀ id msg, s.pendingReq.msgs.lookup id = some msg →
      s'.pendingReq.msgs.lookup id = some msg) : Ready s' w := by
  cases hw with
  | expired hx hm => exact .expired (he ▸ hx) (hl _ _ hm)
  | answer hb hp ha hm =>
    obtain ⟨msg, hmsg⟩ := Option.isSome_iff_exists.1 (AList.lookup_isSome.2 hm)
    exact .answer (hq ▸ hb) hp ha (AList.lookup_isSome.1 (by rw [hl _ _ hmsg]; rfl))
  | shutdown hb hp => exact .shutdown (hq ▸ hb) hp

variable (urlIsSsl) (adaptor) in
/-- In its `select!` the loop takes the oldest message. -/
theorem recv_select {m : InternalMsg M} {l : List (InternalMsg M)} (hp : s.pc = .select)
    (hb : s.internalRxQueue.buf = m :: l) :
    ∃ s' os, s.step urlIsSsl adaptor .recv = some (s', os) ∧ .took m ∈ os ∧
      (passes m = true → s'.pc = .select ∧ s'.internalRxQueue.buf = l) := by
  obtain ⟨q, hq, hl, -⟩ := Chan.recv_cons hb
  have hsome : (s.step urlIsSsl adaptor .recv).isSome = true := by
    simp only [HyperServerProc.step, HyperServerProc.onRecv, hp, hq]
    cases m <;> simp only <;> first | rfl | (split <;> first | rfl | (split <;> rfl))
  obtain ⟨⟨s', os⟩, hst⟩ := Option.isSome_iff_exists.1 hsome
  refine ⟨s', os, hst, took_of_recv hst hq, fun hpass => ?_⟩
  cases moves_of_step hst with
  | recvPanic _ hq' hpanic =>
    rw [hq] at hq'
    cases hq'
    cases m <;> first | (cases hpass; done) | cases hpanic
  | recvShutdown _ hq' =>
    rw [hq] at hq'
    cases hq'
    cases hpass
  | recvStale _ hq' | recvData _ hq' | recvNoData _ hq' | recvError _ hq' | recvService _ hq' =>
    rw [hq] at hq'
    cases hq'
    exact ⟨hp, hl⟩
  | conn he => cases he

/-- A loop step first. -/
theorem CanTake.of_step (he : e.ofLoop) (h : s.step urlIsSsl adaptor e = some (s', os))
    (hc : CanTake urlIsSsl adaptor s' w) : CanTake urlIsSsl adaptor s w := by
  obtain ⟨t, e', t', os', hl, ht⟩ := hc
  have hfirst := Machine.Leads.step (S := serverMachine M urlIsSsl adaptor) (C := Ev.ofLoop) h he
  exact ⟨t, e', t', os', hfirst.trans hl, ht⟩

/-- In its `select!` the loop takes every message, after those ahead of it. -/
theorem queued_taken {ahead rest : List (InternalMsg M)} {m : InternalMsg M} (hp : s.pc = .select)
    (hb : s.internalRxQueue.buf = ahead ++ m :: rest) (ha : ∀ a ∈ ahead, passes a = true) :
    CanTake urlIsSsl adaptor s (.message m) := by
  induction ahead generalizing s with
  | nil =>
    obtain ⟨s', os, hst, hm, -⟩ := recv_select urlIsSsl adaptor hp hb
    exact ⟨s, .recv, s', os, .refl s, trivial, hst, hm⟩
  | cons a ahead ih =>
    obtain ⟨s', os, hst, -, hnext⟩ := recv_select urlIsSsl adaptor hp hb
    obtain ⟨hp', hb'⟩ := hnext (ha a List.mem_cons_self)
    have hrest : CanTake urlIsSsl adaptor s' (.message m) :=
      ih hp' hb' fun a ha' => ha a (List.mem_cons_of_mem _ ha')
    exact .of_step (e := .recv) trivial hst hrest

/-- In its `select!` the loop takes whatever is ready. -/
theorem Ready.taken (hw : Ready s w) (hp : s.pc = .select) : CanTake urlIsSsl adaptor s w := by
  cases hw with
  | @expired id msg hx hm =>
    have hne : s.pendingReq.isEmpty = false := by
      refine Bool.eq_false_iff.2 fun he => ?_
      rw [PendingMsgs.isEmpty, List.isEmpty_iff] at he
      rw [AList.lookup, he] at hm
      cases hm
    have hsome : (s.step urlIsSsl adaptor (.pull id)).isSome = true := by
      simp only [HyperServerProc.step, HyperServerProc.onPull, hp, hne, Bool.false_eq_true,
        if_false, PendingMsgs.pull_eq_some.2 ⟨hx, hm, rfl⟩]
      rfl
    obtain ⟨q, hst⟩ := Option.isSome_iff_exists.1 hsome
    exact ⟨s, .pull id, q.1, q.2, .refl s, trivial, hst, rfl⟩
  | answer hb ha | shutdown hb ha => exact queued_taken hp hb ha

/-- A loop that binds its listener takes it in the `select!` that follows. -/
theorem Ready.taken_bind (hw : Ready s w) (hp : s.pc = .bind) : CanTake urlIsSsl adaptor s w := by
  have hst : s.step urlIsSsl adaptor (.bound (.ok ())) = some ({ s with pc := .select }, []) := by
    simp only [HyperServerProc.step, HyperServerProc.onBound, hp]
  have hw' : Ready { s with pc := .select } w := hw.mono rfl rfl fun _ _ h => h
  exact .of_step (e := .bound (.ok ())) trivial hst (hw'.taken rfl)

/-- A loop that starts binds its listener first. -/
theorem Ready.taken_start (hw : Ready s w) (hp : s.pc = .start) : CanTake urlIsSsl adaptor s w := by
  have hsome : (s.step urlIsSsl adaptor (.started (.ok ()))).isSome = true := by
    simp only [HyperServerProc.step, HyperServerProc.onStarted, hp]
    rfl
  obtain ⟨⟨s', os⟩, hst⟩ := Option.isSome_iff_exists.1 hsome
  refine .of_step (e := .started (.ok ())) trivial hst ?_
  cases moves_of_step hst with
  | started =>
    refine Ready.taken_bind ?_ rfl
    exact hw.mono rfl rfl fun _ _ h => h
  | conn he => cases he

/-- A loop at a send with room dispatches the request first, under an id that none has. -/
theorem Ready.taken_sending {queue : Nat} {request httpMsg : RequestMsg M}
    {q : Chan (InternalMsg M)}
    (hw : Ready s w) (hp : s.pc = .sending queue request httpMsg)
    (hq : (s.queues queue).send (.request request) = some q)
    (hfresh : request.id ∉ s.pendingReq.msgs) : CanTake urlIsSsl adaptor s w := by
  have hst : s.step urlIsSsl adaptor .sent = some
      ({ s with
          pc := .select
          queues := Function.update s.queues queue q
          pendingReq := s.pendingReq.pushWithId request.id httpMsg },
        [.dispatched httpMsg request queue]) := by
    simp only [HyperServerProc.step, HyperServerProc.onSent, hp,
      if_pos (Chan.send_eq_some hq).1, hq, Option.map_some]
  refine .of_step (e := .sent) trivial hst (Ready.taken (hw.mono rfl rfl ?_) rfl)
  intro id msg hl
  have hne : id ≠ request.id := fun hid =>
    hfresh (hid ▸ AList.lookup_isSome.1 (by rw [hl]; rfl))
  show (s.pendingReq.pushWithId request.id httpMsg).msgs.lookup id = some msg
  rw [PendingMsgs.msgs_pushWithId, AList.lookup_insert_ne hne]
  exact hl

/-- **What waits for the loop** is taken by its own steps iff the loop is not held. -/
theorem canTake_iff {tr : List (Rec (HyperServerProc M) (Ev M) (Out M))}
    (hr : (serverMachine M urlIsSsl adaptor).Run tr s) (hw : Ready s w) :
    CanTake urlIsSsl adaptor s w ↔ ¬ Held s := by
  refine ⟨fun h hs => hs.not_canTake h, fun hs => ?_⟩
  cases hp : s.pc with
  | start => exact hw.taken_start hp
  | bind => exact hw.taken_bind hp
  | select => exact hw.taken hp
  | sending queue request httpMsg =>
    obtain ⟨q, hq⟩ := Option.ne_none_iff_exists'.1 fun hnone => hs (.sending hp hnone)
    have hfresh := ((fresh_of_run hr).request queue request httpMsg hp).2
    exact hw.taken_sending hp hq hfresh
  | removeProc => exact absurd (.left (.inl hp)) hs
  | ended | panicked => exact absurd (.left (.inr (by rw [hp]; rfl))) hs

end

/-- Two services, each with room for one message, and a client of both over HTTP/2: the timer of the
call to `"a"` runs out while the loop waits for room on the queue of `"b"`. -/
def heldUp : List (Ev Nat) :=
  [.started (.ok ()), .bound (.ok ()), .internal (.service [("a", 5), ("b", 6)]), .recv,
    .accept (.ok ()), .handshaken 0 (.ok (some H2)),
    .call 0, .processed 0 (.srvReq "a" 7 echo), .callSent 0, .recvHttp (some 5), .sent,
    .call 0, .processed 1 (.srvReq "b" 8 echo), .callSent 1, .recvHttp (some 6), .sent,
    .call 0, .processed 2 (.srvReq "b" 9 echo), .callSent 2, .recvHttp (some 6), .elapse 1,
    .internal (.response ⟨1, some 7⟩), .internal .shutdown]

/-- The call to `"a"` gets neither its answer nor its timeout, and the server does not shut down. -/
theorem heldUp_stuck : ∃ q msg, (serverMachine Nat plainHttp .default).exec plainServer heldUp =
      some q ∧ (serverMachine Nat plainHttp .default).Run q.1 q.2 ∧
      q.2.pendingReq.msgs.lookup 1 = some msg ∧ msg.service = "a" ∧
      Ready q.2 (.expired 1) ∧ ¬ CanTake plainHttp .default q.2 (.expired 1) ∧
      Ready q.2 (.message (.response ⟨1, some 7⟩)) ∧
      ¬ CanTake plainHttp .default q.2 (.message (.response ⟨1, some 7⟩)) ∧
      Ready q.2 (.message .shutdown) ∧
      ¬ CanTake plainHttp .default q.2 (.message .shutdown) := by
  refine ⟨_, _, (Option.some_get (by rfl)).symm, Machine.run_get (init_server _ _) _, rfl, rfl,
    .expired (List.mem_singleton.2 rfl) rfl, Held.not_canTake (.sending rfl rfl),
    @Ready.answer _ _ [] [.shutdown] _ 1 rfl (by simp) rfl ?_,
    Held.not_canTake (.sending rfl rfl),
    @Ready.shutdown _ _ [.response ⟨1, some 7⟩] [] rfl (by simp [passes]),
    Held.not_canTake (.sending rfl rfl)⟩
  exact AList.lookup_isSome.1 rfl

/-- There is room on the queue of the service: the timer that ran out is taken after the send. -/
theorem roomy_taken : ∃ q, (serverMachine Nat plainHttp .default).exec plainServer
      (heldUp.take 14 ++ [.recvHttp (some 6), .elapse 1]) = some q ∧
      q.2.pc.hand.isSome = true ∧ CanTake plainHttp .default q.2 (.expired 1) := by
  refine ⟨_, (Option.some_get (by rfl)).symm, rfl,
    (canTake_iff (Machine.run_get (init_server _ _) _) (.expired (List.mem_singleton.2 rfl) rfl)).2
      fun hs => ?_⟩
  cases hs with
  | sending hp hq => cases hp; cases hq
  | left hp => rcases hp with hp | hp <;> cases hp

end Server
