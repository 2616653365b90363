import ProsaHyper.Lib.Depot
import ProsaHyper.Server.Proof.Stranded

/-!
# First come, first served

The loop has two queues of its own: the messages of the calls on `http_tx`, and the answers on the
main queue. Both are flows of words.

* `handled_of_run`, `took_of_run`: what the loop handled is the front of what was sent to it.
* `queues_in_order`: calls are dispatched or refused, and answers taken, in the order they came;
  while the loop runs, the rest is in hand or queued.
-/

set_option autoImplicit false

namespace Server

open Prosa Http

variable {M : Type}

/-- The call whose message a step puts on `http_tx`. -/
def enqueues (r : Rec (HyperServerProc M) (Ev M) (Out M)) : List Nat :=
  match r.ev with
  | .callSent c => if r.pre.httpRx.rx then [c] else []
  | _ => []

/-- The message a step puts on the main queue. -/
def delivers (r : Rec (HyperServerProc M) (Ev M) (Out M)) : List (InternalMsg M) :=
  match r.ev with
  | .internal m => [m]
  | _ => []

/-- The call an output dispatches or refuses. -/
def Out.handles? : Out M → Option Nat
  | .dispatched msg _ _ | .replied .unable msg _ => some msg.responseQueue
  | _ => none

/-- The message an output takes off the main queue. -/
def Out.took? : Out M → Option (InternalMsg M)
  | .took m => some m
  | _ => none

/-- The calls whose message the loop has still to handle. -/
def unhandled (s : HyperServerProc M) : List Nat :=
  (s.pc.hand.toList ++ s.httpRx.buf).map (·.responseQueue)

/-- The calls a step handles, or abandons as the loop ends. -/
def unqueues (r : Rec (HyperServerProc M) (Ev M) (Out M)) : List Nat :=
  if r.post.pc.isOver && !r.pre.pc.isOver then unhandled r.pre
  else r.out.filterMap Out.handles?

/-- The call has no message to send any more. -/
def CallPc.hasSent : CallPc M → Bool
  | .requesting | .sending _ _ => false
  | .waiting _ | .done _ | .cancelled => true

section
variable {urlIsSsl : Url → Bool} {adaptor : HyperServerAdaptor} {s s' : HyperServerProc M}
  {e : Ev M} {os : List (Out M)}

theorem handles_leave (pc : RunPc M) : (s.leave pc).2.filterMap Out.handles? = [] := by
  simp [HyperServerProc.leave, Out.handles?]

/-- A connection counts, and no more: what does not see it sees nothing. -/
theorem filterMap_conn {α : Type} {f : Out M → Option α}
    (hsocket : ∀ delta version, f (.socket delta version) = none)
    (hq : ∀ o ∈ os, ∃ delta version, o = .socket delta version) : os.filterMap f = [] := by
  refine List.filterMap_eq_nil_iff.2 fun o ho => ?_
  obtain ⟨delta, version, rfl⟩ := hq o ho
  exact hsocket delta version

/-- An answered call counts, and completes: what sees neither sees nothing. -/
theorem filterMap_completed {α : Type} {f : Out M → Option α}
    (hcount : ∀ code version, f (.count code version) = none)
    (hdone : ∀ c res, f (.completed c res) = none)
    (hq : ∀ o ∈ os, ∃ code version, o = .count code version) (c : Nat)
    (res : Except HttpError Response) : (os ++ [Out.completed c res]).filterMap f = [] := by
  refine List.filterMap_eq_nil_iff.2 fun o ho => ?_
  rcases List.mem_append.1 ho with ho | ho
  · obtain ⟨code, version, rfl⟩ := hq o ho
    exact hcount code version
  · cases List.mem_singleton.1 ho
    exact hdone c res

theorem handles_completed (hq : ∀ o ∈ os, ∃ code version, o = .count code version) (c : Nat)
    (res : Except HttpError Response) :
    (os ++ [Out.completed c res]).filterMap Out.handles? = [] :=
  filterMap_completed (fun _ _ => rfl) (fun _ _ => rfl) hq c res

/-- The end of the loop abandons what it has not handled. -/
theorem unqueues_leave {t : HyperServerProc M} {pc : RunPc M} (ho : s.pc.isOver = false)
    (hpc : pc.isOver = true) :
    unhandled s = unqueues ⟨s, e, os, (t.leave pc).1⟩ ++ unhandled (t.leave pc).1 := by
  have hnil : unhandled (t.leave pc).1 = [] := by
    cases pc <;> first | rfl | cases hpc
  rw [hnil, List.append_nil, unqueues, ho, show (t.leave pc).1.pc = pc from rfl, hpc]
  rfl

/-- A step that leaves the loop as it is, and hands out nothing. -/
theorem unqueues_still (hp : s'.pc.isOver = s.pc.isOver) (hn : os.filterMap Out.handles? = []) :
    unqueues ⟨s, e, os, s'⟩ = [] := by
  simp [unqueues, hp, hn]

/-- **A step of `http_tx`**: the loop takes the front, a call adds behind. -/
theorem unhandled_of_step (hl : Linear s) (h : s.step urlIsSsl adaptor e = some (s', os)) :
    unhandled s ++ enqueues ⟨s, e, os, s'⟩ = unqueues ⟨s, e, os, s'⟩ ++ unhandled s' := by
  have still (he : enqueues ⟨s, e, os, s'⟩ = []) (hu : unhandled s' = unhandled s)
      (hp : s'.pc.isOver = s.pc.isOver) (hn : os.filterMap Out.handles? = []) :
      unhandled s ++ enqueues ⟨s, e, os, s'⟩ = unqueues ⟨s, e, os, s'⟩ ++ unhandled s' := by
    rw [he, hu, unqueues_still hp hn, List.append_nil, List.nil_append]
  cases moves_of_step h with
  | startFailed hp | bindFailed hp | acceptFailed hp | sendFailed hp | procRemoveFailed hp
  | procRemoved hp | recvPanic hp =>
    rw [show enqueues _ = [] from rfl, List.append_nil]
    exact unqueues_leave (by rw [hp]; rfl) rfl
  | started hp | bound hp | recvShutdown hp =>
    exact still rfl (by simp [unhandled, RunPc.hand, hp]) (by simp [RunPc.isOver, hp]) rfl
  | dispatch hp hq =>
    rw [show enqueues _ = [] from rfl, unqueues_still (by simp [RunPc.isOver, hp]) rfl]
    simp [unhandled, RunPc.hand, hp, (Chan.recv_eq_some hq).1]
  | refuse hp hq =>
    rw [show enqueues _ = [] from rfl]
    simp [unhandled, unqueues, RunPc.hand, hp, (Chan.recv_eq_some hq).1, Out.handles?]
  | sent hp =>
    rw [show enqueues _ = [] from rfl]
    simp [unhandled, unqueues, RunPc.hand, RunPc.isOver, hp, Out.handles?]
  | conn _ hq =>
    refine still ?_ rfl rfl (filterMap_conn (fun _ _ => rfl) hq)
    cases e <;> first | rfl | contradiction
  | processed _ _ hq => exact still rfl rfl rfl (handles_completed hq _ _)
  | callAnswered => exact still rfl rfl rfl (handles_completed (countRes_counts _) _ _)
  | callSent hc hp hq =>
    obtain ⟨hrx, -, hbuf, -⟩ := Chan.send_eq_some hq
    have hown := hl.own _ _ _ hc (by rw [hp]; rfl)
    simp [unhandled, enqueues, unqueues, hrx, hbuf, hown]
  | callSendFailed _ _ hrx => exact still (by simp [enqueues, hrx]) rfl rfl rfl
  | recvNoData | sendCancelled => exact still rfl rfl rfl rfl
  | _ => exact still rfl rfl rfl rfl

/-- Once the loop is over, it stays so. -/
theorem over_of_step (h : s.step urlIsSsl adaptor e = some (s', os)) (ho : s.pc.isOver = true) :
    s'.pc.isOver = true := by
  cases moves_of_step h with
  | startFailed hp | bindFailed hp | acceptFailed hp | sendFailed hp | procRemoveFailed hp
  | procRemoved hp | recvPanic hp | started hp | bound hp | recvShutdown hp | dispatch hp
  | sent hp =>
    rw [hp] at ho
    cases ho
  | _ => exact ho

/-- A step after which the loop is over handles nothing. -/
theorem handles_of_over (h : s.step urlIsSsl adaptor e = some (s', os))
    (ho : s'.pc.isOver = true) : os.filterMap Out.handles? = [] := by
  cases moves_of_step h with
  | startFailed | bindFailed | acceptFailed | sendFailed | procRemoveFailed => exact handles_leave _
  | procRemoved | recvPanic => exact (List.filterMap_cons_none rfl).trans (handles_leave _)
  | refuse hp =>
    simp only [hp] at ho
    cases ho
  | sent => cases ho
  | conn _ hq => exact filterMap_conn (fun _ _ => rfl) hq
  | processed _ _ hq => exact handles_completed hq _ _
  | callAnswered => exact handles_completed (countRes_counts _) _ _
  | recvData | recvNoData | recvError | pulled => rfl
  | _ => rfl

/-- **A step of the main queue.** -/
theorem internal_of_queue (h : s.step urlIsSsl adaptor e = some (s', os)) :
    s.internalRxQueue.buf ++ delivers ⟨s, e, os, s'⟩ =
      os.filterMap Out.took? ++ s'.internalRxQueue.buf := by
  have still (he : delivers ⟨s, e, os, s'⟩ = []) (hq : s'.internalRxQueue = s.internalRxQueue)
      (hn : os.filterMap Out.took? = []) : s.internalRxQueue.buf ++ delivers ⟨s, e, os, s'⟩ =
        os.filterMap Out.took? ++ s'.internalRxQueue.buf := by
    rw [he, hq, hn, List.append_nil, List.nil_append]
  have leave (pc : RunPc M) : (s.leave pc).2.filterMap Out.took? = [] := by
    simp [HyperServerProc.leave, Out.took?]
  have completed {os : List (Out M)} (hq : ∀ o ∈ os, ∃ code version, o = .count code version)
      (c : Nat) (res : Except HttpError Response) :
      (os ++ [Out.completed c res]).filterMap Out.took? = [] :=
    filterMap_completed (fun _ _ => rfl) (fun _ _ => rfl) hq c res
  cases moves_of_step h with
  | internal hq => simp [delivers, (Chan.send_eq_some hq).2.2.1]
  | recvStale _ hq | recvData _ hq | recvNoData _ hq | recvError _ hq | recvService _ hq
  | recvShutdown _ hq =>
    simp [delivers, Out.took?, HyperServerProc.drop, (Chan.recv_eq_some hq).1]
  | recvPanic _ hq =>
    simp [delivers, Out.took?, HyperServerProc.leave, HyperServerProc.drop,
      (Chan.recv_eq_some hq).1]
  | startFailed | bindFailed | acceptFailed | sendFailed | procRemoveFailed =>
    exact still rfl rfl (leave _)
  | procRemoved => exact still rfl rfl ((List.filterMap_cons_none rfl).trans (leave _))
  | conn _ hq =>
    refine still ?_ rfl (filterMap_conn (fun _ _ => rfl) hq)
    cases e <;> first | rfl | contradiction
  | processed _ _ hq => exact still rfl rfl (completed hq _ _)
  | callAnswered => exact still rfl rfl (completed (countRes_counts _) _ _)
  | _ => exact still rfl rfl rfl

/-- A call that has sent its message has sent it. -/
theorem hasSent_of_step {c : Nat} {call : Call M} (h : s.step urlIsSsl adaptor e = some (s', os))
    (hc : s.calls[c]? = some call) (hs : call.pc.hasSent = true) :
    ∃ call', s'.calls[c]? = some call' ∧ call'.pc.hasSent = true := by
  have moved {i : Nat} {call₀ : Call M} {pc : CallPc M} (hi : s.calls[i]? = some call₀)
      (hpc : call₀.pc.hasSent = true → pc.hasSent = true) :
      ∃ call', (s.calls.set i { call₀ with pc })[c]? = some call' ∧ call'.pc.hasSent = true := by
    rw [getElem?_set_some hi]
    split
    · rename_i hic
      subst hic
      cases hi.symm.trans hc
      exact ⟨_, rfl, hpc hs⟩
    · exact ⟨call, hc, hs⟩
  cases moves_of_step h with
  | call => exact ⟨call, by rw [List.getElem?_append_left
      (List.getElem?_eq_some_iff.1 hc).1]; exact hc, hs⟩
  | opened hi hp => exact moved hi fun h => by rw [hp] at h; cases h
  | processed hi | callSent hi | callSendFailed hi | callAnswered hi | callCancelled hi
  | sendCancelled hi => exact moved hi fun _ => rfl
  | _ => exact ⟨call, hc, hs⟩

/-- A call that puts its message on `http_tx` has sent it. -/
theorem hasSent_of_enqueues {c : Nat} (h : s.step urlIsSsl adaptor e = some (s', os))
    (hc : c ∈ enqueues ⟨s, e, os, s'⟩) :
    (∃ call, s'.calls[c]? = some call ∧ call.pc.hasSent = true) ∧
      ∀ call, s.calls[c]? = some call → call.pc.hasSent = false := by
  unfold enqueues at hc
  dsimp only at hc
  split at hc
  · split at hc
    · cases List.mem_singleton.1 hc
      have sending {call : Call M} {msg : RequestMsg M} {handler : SrvRespHandler M}
          (hi : s.calls[c]? = some call) (hp : call.pc = .sending msg handler) :
          ∀ call, s.calls[c]? = some call → call.pc.hasSent = false := by
        intro call' hc'
        cases hi.symm.trans hc'
        rw [hp]
        rfl
      cases moves_of_step h with
      | callSent hi hp => exact ⟨⟨_, getElem?_set_self_some hi _, rfl⟩, sending hi hp⟩
      | callSendFailed hi hp => exact ⟨⟨_, getElem?_set_self_some hi _, rfl⟩, sending hi hp⟩
      | conn he => cases he
    · cases hc
  · cases hc

end

section
variable {urlIsSsl : Url → Bool} {adaptor : HyperServerAdaptor} {s : HyperServerProc M}
  {tr : List (Rec (HyperServerProc M) (Ev M) (Out M))}
  (hr : (serverMachine M urlIsSsl adaptor).Run tr s)
include hr

/-- What the loop handled comes first in what left `http_tx`; while it runs, nothing else left. -/
theorem handled_of_run : (outs tr).filterMap Out.handles? <+: tr.flatMap unqueues ∧
    (s.pc.isOver = false → (outs tr).filterMap Out.handles? = tr.flatMap unqueues) := by
  induction hr with
  | start => exact ⟨List.prefix_rfl, fun _ => rfl⟩
  | @next tr s s' e os hr hst ih =>
    simp only [outs_append, outs_single, List.filterMap_append, List.flatMap_append,
      List.flatMap_singleton]
    by_cases ho : s'.pc.isOver = true
    · rw [handles_of_over hst ho, List.append_nil]
      exact ⟨ih.1.trans (List.prefix_append _ _), fun h => by rw [ho] at h; cases h⟩
    · have hsame : unqueues ⟨s, e, os, s'⟩ = os.filterMap Out.handles? := by
        simp [unqueues, ho]
      have hpre : s.pc.isOver = false := by
        by_contra hpre
        exact ho (over_of_step hst (by simpa using hpre))
      rw [hsame, ih.2 hpre]
      exact ⟨List.prefix_rfl, fun _ => rfl⟩

/-- A call sends one message, and then has sent it. -/
theorem enqueues_of_run : (tr.flatMap enqueues).Nodup ∧ ∀ c ∈ tr.flatMap enqueues,
    ∃ call, s.calls[c]? = some call ∧ call.pc.hasSent = true := by
  induction hr with
  | start => exact ⟨List.nodup_nil, fun c h => by cases h⟩
  | @next tr s s' e os hr hst ih =>
    simp only [List.flatMap_append, List.flatMap_singleton, List.nodup_append, List.mem_append]
    refine ⟨⟨ih.1, ?_, fun c hc c' hc' => ?_⟩, fun c hc => ?_⟩
    · unfold enqueues
      split
      · split <;> simp
      · simp
    · rintro rfl
      obtain ⟨call, hcall, hs⟩ := ih.2 c hc
      rw [(hasSent_of_enqueues hst hc').2 call hcall] at hs
      cases hs
    · rcases hc with hc | hc
      · obtain ⟨call, hcall, hs⟩ := ih.2 c hc
        exact hasSent_of_step hst hcall hs
      · exact (hasSent_of_enqueues hst hc).1

end

/-- What the two queues of the loop keep in order. -/
structure QueuesInOrder (tr : List (Rec (HyperServerProc M) (Ev M) (Out M)))
    (s : HyperServerProc M) : Prop where
  once : (tr.flatMap enqueues).Nodup
  handled : (outs tr).filterMap Out.handles? <+: tr.flatMap enqueues
  rest : s.pc.isOver = false →
    tr.flatMap enqueues = (outs tr).filterMap Out.handles? ++ unhandled s
  answers : tr.flatMap delivers = (outs tr).filterMap Out.took? ++ s.internalRxQueue.buf

/-- **First come, first served**: in every run the calls are dispatched or refused in the order
their messages came, one after the other, and the answers are taken in the order they came. -/
theorem queues_in_order {urlIsSsl : Url → Bool} {adaptor : HyperServerAdaptor}
    {s : HyperServerProc M} {tr : List (Rec (HyperServerProc M) (Ev M) (Out M))}
    (hr : (serverMachine M urlIsSsl adaptor).Run tr s) : QueuesInOrder tr s := by
  have hcalls : tr.flatMap enqueues = tr.flatMap unqueues ++ unhandled s := Depot.fifo
    (by rintro s ⟨settings, queues, nextId, rfl⟩; rfl)
    (fun tr s e s' os hr hst => unhandled_of_step (linear_of_run hr) hst) hr
  have hempty : ∀ s, (serverMachine M urlIsSsl adaptor).init s → s.internalRxQueue.buf = [] := by
    rintro s ⟨settings, queues, nextId, rfl⟩
    rfl
  have hanswers : tr.flatMap delivers =
      (tr.flatMap fun r => r.out.filterMap Out.took?) ++ s.internalRxQueue.buf :=
    Depot.fifo hempty (fun tr s e s' os _ hst => internal_of_queue hst) hr
  obtain ⟨hpre, hall⟩ := handled_of_run hr
  refine ⟨(enqueues_of_run hr).1, ?_, fun ho => by rw [hcalls, hall ho], ?_⟩
  · rw [hcalls]
    exact hpre.trans (List.prefix_append _ _)
  · rw [hanswers, outs, List.filterMap_flatMap]

/-- Two calls of one connection, the second of which sends its message first. -/
def overtakes : List (Ev Nat) :=
  [.started (.ok ()), .bound (.ok ()), .internal (.service [("svc", 5)]), .recv, .accept (.ok ()),
    .handshaken 0 (.ok (some H2)), .call 0, .call 0, .processed 0 (.srvReq "svc" 7 echo),
    .processed 1 (.srvReq "svc" 8 echo), .callSent 1, .callSent 0, .recvHttp (some 5), .sent]

theorem overtakes_in_order : ∃ q,
    (serverMachine Nat plainHttp .default).exec plainServer overtakes = some q ∧
      q.1.flatMap enqueues = [1, 0] ∧ (outs q.1).filterMap Out.handles? = [1] ∧
      QueuesInOrder q.1 q.2 :=
  ⟨_, (Option.some_get rfl).symm, rfl, rfl,
    queues_in_order (Machine.run_get (init_server _ _) rfl)⟩

end Server
