import ProsaHyper.Lib.Potential
import ProsaHyper.Server.Proof.Blocked

/-!
# The server comes to rest

By itself the server runs its loop, lets the timers of the pending messages run out, and resumes the
calls that have a message for the processor. What it does so is paid for by what came from outside:
the internal messages, and the requests of the calls.

* `drainage`: the potential of the server; `server_steps_le`: the bound over a whole run.
* `rested`: what a state with nothing left to do is.
* `calls_drain`: left to itself the server comes to rest, in any order of its steps. Then every call
  has its response, unless the loop is held by a service queue without room.
* `requests_step`: what the server can still dispatch.
-/

set_option autoImplicit false

namespace Server

open Prosa Http

variable {M : Type}

/-- The steps the server takes by itself. -/
def Ev.own : Ev M → Bool
  | .elapse _ | .started _ | .bound _ | .recv | .recvHttp _ | .sent | .pull _ | .procRemoved _
  | .callSent _ | .callAnswered _ => true
  | _ => false

/-- What a step from outside brings: a message for the loop, or a request for a service. -/
def Ev.gain : Ev M → Nat
  | .internal _ => 1
  | .processed _ (.srvReq _ _ _) => 6
  | _ => 0

/-- The steps left to the loop, if nothing waits for it. -/
def RunPc.level : RunPc M → Nat
  | .start => 3
  | .bind => 2
  | .select | .removeProc => 1
  | .sending _ _ _ => 4
  | .ended _ | .panicked => 0

/-- The steps a call has left, with those of the loop and of the timer on its message. -/
def CallPc.level : CallPc M → Nat
  | .sending _ _ => 6
  | .waiting _ => 1
  | _ => 0

@[simp] theorem CallPc.level_sending (msg : RequestMsg M) (handler : SrvRespHandler M) :
    (CallPc.sending msg handler).level = 6 := rfl
@[simp] theorem CallPc.level_waiting (handler : SrvRespHandler M) :
    (CallPc.waiting handler).level = 1 := rfl
@[simp] theorem CallPc.level_requesting : (.requesting : CallPc M).level = 0 := rfl
@[simp] theorem CallPc.level_done (res : Except HttpError Response) :
    (.done res : CallPc M).level = 0 := rfl
@[simp] theorem CallPc.level_cancelled : (.cancelled : CallPc M).level = 0 := rfl

def HyperServerProc.level (s : HyperServerProc M) : Nat :=
  s.pc.level + s.internalRxQueue.buf.length + 4 * s.httpRx.buf.length + s.pendingReq.load +
    tally (fun call => call.pc.level) s.calls

section
variable {urlIsSsl : Url → Bool} {adaptor : HyperServerAdaptor} {s s' : HyperServerProc M}
  {e : Ev M} {os : List (Out M)}

theorem level_drop (msgs : List (RequestMsg M)) : (s.drop msgs).level = s.level := rfl

theorem level_leave (s : HyperServerProc M) (pc : RunPc M) (hp : pc.level = 0) :
    (s.leave pc).1.level + s.pc.level ≤ s.level := by
  simp only [HyperServerProc.leave, HyperServerProc.level, hp, HyperServerProc.drop,
    Chan.dropRx_buf, List.length_nil, PendingMsgs.load_empty]
  omega

/-- The call `c` goes from `pc₀` to `pc`. -/
theorem level_set {c : Nat} {call : Call M} {pc₀ : CallPc M} (hc : s.calls[c]? = some call)
    (hp : call.pc = pc₀) (pc : CallPc M) :
    tally (fun call => call.pc.level) (s.calls.set c { call with pc }) + pc₀.level =
      tally (fun call => call.pc.level) s.calls + pc.level :=
  hp ▸ tally_set hc _

/-- **Every step is paid for.** -/
theorem level_step (h : s.step urlIsSsl adaptor e = some (s', os)) :
    s'.level + e.own.toNat ≤ s.level + e.gain := by
  have len {α : Type} {c c' : Chan α} {a : α} (hq : c.recv = some (a, c')) :
      c.buf.length = c'.buf.length + 1 := by rw [(Chan.recv_eq_some hq).1, List.length_cons]
  have taken {id : Nat} {msg : RequestMsg M} (hl : s.pendingReq.msgs.lookup id = some msg) :
      (s.pendingReq.erase id).load < s.pendingReq.load :=
    PendingMsgs.load_erase (AList.lookup_isSome.1 (by rw [hl]; rfl))
  cases moves_of_step h with
  | internal hq =>
    have hlen := congrArg List.length (Chan.send_eq_some hq).2.2.1
    simp only [List.length_append, List.length_singleton] at hlen
    simp only [HyperServerProc.level, Ev.own, Ev.gain, hlen, Bool.toNat_false]
    omega
  | queueSend | queueRecv | queueClosed | drawn | accepted => exact Nat.le_refl _
  | elapse he =>
    have hload := PendingMsgs.load_elapse he
    simp only [HyperServerProc.level, Ev.own, Ev.gain, Bool.toNat_true]
    omega
  | startFailed hp | bindFailed hp | sendFailed hp | procRemoved hp | procRemoveFailed hp =>
    refine Nat.le_trans (Nat.add_le_add_left ?_ _) (level_leave s _ rfl)
    rw [hp]
    exact Nat.succ_pos _
  | acceptFailed hp => exact Nat.le_trans (Nat.le_add_right _ _) (level_leave s _ rfl)
  | started hp | bound hp =>
    simp only [HyperServerProc.level, hp, RunPc.level, Ev.own, Ev.gain, Bool.toNat_true]
    omega
  | @recvPanic m q hp hq _ =>
    have hleave := level_leave { s with internalRxQueue := q } .panicked rfl
    have hlen := len hq
    simp only [HyperServerProc.level, hp, RunPc.level, Ev.own, Ev.gain, Bool.toNat_true] at hleave ⊢
    omega
  | recvStale _ hq | recvService _ hq =>
    have hlen := len hq
    simp only [HyperServerProc.level, Ev.own, Ev.gain, Bool.toNat_true, hlen]
    omega
  | recvData _ hq hl | recvNoData _ hq hl | recvError _ hq hl =>
    have hlen := len hq
    have hload := taken hl
    simp only [HyperServerProc.drop, HyperServerProc.level, Ev.own, Ev.gain, Bool.toNat_true, hlen]
    omega
  | recvShutdown hp hq =>
    have hlen := len hq
    simp only [HyperServerProc.level, hp, RunPc.level, Ev.own, Ev.gain, Bool.toNat_true, hlen]
    omega
  | dispatch hp hq =>
    have hlen := len hq
    simp only [HyperServerProc.level, hp, RunPc.level, Ev.own, Ev.gain, Bool.toNat_true, hlen]
    omega
  | refuse _ hq =>
    have hlen := len hq
    simp only [HyperServerProc.level, Ev.own, Ev.gain, Bool.toNat_true, hlen]
    omega
  | @sent queue request httpMsg q hp _ =>
    have hload := PendingMsgs.load_push s.pendingReq request.id httpMsg
    simp only [HyperServerProc.level, hp, RunPc.level, Ev.own, Ev.gain, Bool.toNat_true]
    omega
  | pulled _ _ hl =>
    have hload := taken hl
    simp only [HyperServerProc.level, Ev.own, Ev.gain, Bool.toNat_true]
    omega
  | conn he => cases e <;> first | exact Nat.le_refl _ | cases he
  | call => simp [HyperServerProc.level, CallPc.level, Ev.own]
  | @opened c call srvName req handler hc hp =>
    have hset := level_set hc hp (.sending (RequestMsg.new s.nextId srvName req c) handler)
    simp only [CallPc.level_requesting, CallPc.level_sending] at hset
    simp only [HyperServerProc.level, Ev.own, Ev.gain, Bool.toNat_false]
    omega
  | @processed c call resp res _ hc hp _ =>
    have hset := level_set hc hp (.done res)
    simp only [CallPc.level_requesting, CallPc.level_done] at hset
    simp only [HyperServerProc.level, Ev.own, Bool.toNat_false]
    omega
  | @callSent c call msg handler q hc hp hq =>
    have hset := level_set hc hp (.waiting handler)
    have hlen := congrArg List.length (Chan.send_eq_some hq).2.2.1
    simp only [List.length_append, List.length_singleton] at hlen
    simp only [CallPc.level_sending, CallPc.level_waiting] at hset
    simp only [HyperServerProc.level, Ev.own, Ev.gain, Bool.toNat_true, hlen]
    omega
  | @callSendFailed c call msg handler hc hp _ =>
    have hset := level_set hc hp (.waiting handler)
    simp only [CallPc.level_sending, CallPc.level_waiting] at hset
    rw [level_drop]
    simp only [HyperServerProc.level, Ev.own, Ev.gain, Bool.toNat_true]
    omega
  | @callAnswered c call handler m hc hp _ =>
    have hset := level_set hc hp (.done (waitInternResp adaptor handler m))
    simp only [CallPc.level_waiting, CallPc.level_done] at hset
    simp only [HyperServerProc.level, Ev.own, Ev.gain, Bool.toNat_true]
    omega
  | callCancelled hc =>
    have hset := level_set hc rfl .cancelled
    simp only [CallPc.level_cancelled] at hset
    simp only [HyperServerProc.level, Ev.own, Ev.gain, Bool.toNat_false]
    omega
  | sendCancelled hc hp =>
    have hset := level_set hc hp .cancelled
    simp only [CallPc.level_sending, CallPc.level_cancelled] at hset
    rw [level_drop]
    simp only [HyperServerProc.level, Ev.own, Ev.gain, Bool.toNat_false]
    omega

theorem Ev.gain_of_own (h : e.own = true) : e.gain = 0 := by
  cases e <;> first | rfl | cases h

/-- The own steps of the server, and what they are paid with. -/
def drainage (urlIsSsl : Url → Bool) (adaptor : HyperServerAdaptor) :
    Potential (serverMachine M urlIsSsl adaptor) where
  own := Ev.own
  level := HyperServerProc.level
  gain := Ev.gain
  spend s e s' os h he := by
    have hstep := level_step h
    rw [he, Ev.gain_of_own he, Bool.toNat_true] at hstep
    exact hstep
  bring s e s' os h _ := Nat.le_trans (Nat.le_add_right _ _) (level_step h)

/-- **No idle loop.** In every run the own steps of the server are paid for by the messages and the
requests that came. -/
theorem server_steps_le {tr : List (Rec (HyperServerProc M) (Ev M) (Out M))}
    (hr : (serverMachine M urlIsSsl adaptor).Run tr s) :
    tr.countP (fun r => r.ev.own) + s.level ≤ 3 + tally (fun r => r.ev.gain) tr := by
  obtain ⟨s₀, ⟨settings, queues, nextId, rfl⟩, -, hle⟩ :=
    (drainage urlIsSsl adaptor).amortized_run (fun _ he => Ev.gain_of_own he) hr
  exact hle

/-! ## What is left to dispatch -/

/-- The message a call still sends. -/
def CallPc.requests : CallPc M → Nat
  | .sending _ _ => 1
  | _ => 0

@[simp] theorem CallPc.requests_sending (msg : RequestMsg M) (handler : SrvRespHandler M) :
    (CallPc.sending msg handler).requests = 1 := rfl
@[simp] theorem CallPc.requests_waiting (handler : SrvRespHandler M) :
    (CallPc.waiting handler).requests = 0 := rfl
@[simp] theorem CallPc.requests_requesting : (.requesting : CallPc M).requests = 0 := rfl
@[simp] theorem CallPc.requests_done (res : Except HttpError Response) :
    (.done res : CallPc M).requests = 0 := rfl
@[simp] theorem CallPc.requests_cancelled : (.cancelled : CallPc M).requests = 0 := rfl

/-- The messages that may still be dispatched. -/
def HyperServerProc.requests (s : HyperServerProc M) : Nat :=
  s.pc.hand.toList.length + s.httpRx.buf.length + tally (fun call => call.pc.requests) s.calls

/-- A call asks for a service. -/
def Ev.asks : Ev M → Nat
  | .processed _ (.srvReq _ _ _) => 1
  | _ => 0

def Out.dispatches : Out M → Nat
  | .dispatched _ _ _ => 1
  | _ => 0

theorem dispatches_plain (h : ∀ o ∈ os, o.plain = true) : tally Out.dispatches os = 0 := by
  refine tally_eq_zero.2 fun o ho => ?_
  have hplain := h o ho
  cases o <;> first | rfl | cases hplain

theorem requests_leave (s : HyperServerProc M) (pc : RunPc M) (hp : pc.hand = none) (n : Nat) :
    (s.leave pc).1.requests + tally Out.dispatches (s.leave pc).2 ≤ s.requests + n := by
  have hdrop : tally Out.dispatches (s.leave pc).2 = 0 := tally_eq_zero.2 fun o ho => by
    obtain ⟨msg, -, rfl⟩ := List.mem_map.1 ho
    rfl
  rw [hdrop]
  simp only [HyperServerProc.leave, HyperServerProc.requests, HyperServerProc.drop, hp,
    Chan.dropRx_buf, Option.toList_none, List.length_nil]
  omega

theorem requests_set {c : Nat} {call : Call M} {pc₀ : CallPc M} (hc : s.calls[c]? = some call)
    (hp : call.pc = pc₀) (pc : CallPc M) :
    tally (fun call => call.pc.requests) (s.calls.set c { call with pc }) + pc₀.requests =
      tally (fun call => call.pc.requests) s.calls + pc.requests :=
  hp ▸ tally_set hc _

/-- A dispatch takes one of the messages, and a call adds one. -/
theorem requests_step (h : s.step urlIsSsl adaptor e = some (s', os)) :
    s'.requests + tally Out.dispatches os ≤ s.requests + e.asks := by
  have len {α : Type} {c c' : Chan α} {a : α} (hq : c.recv = some (a, c')) :
      c.buf.length = c'.buf.length + 1 := by rw [(Chan.recv_eq_some hq).1, List.length_cons]
  cases moves_of_step h with
  | startFailed | bindFailed | sendFailed | acceptFailed | procRemoveFailed =>
    exact requests_leave s _ rfl _
  | @recvPanic m q =>
    rw [tally_cons, show (Out.took m).dispatches = 0 from rfl, Nat.zero_add]
    exact requests_leave { s with internalRxQueue := q } .panicked rfl _
  | procRemoved =>
    rw [tally_cons, show (.bus .removeProc : Out M).dispatches = 0 from rfl, Nat.zero_add]
    exact requests_leave s (.ended (.ok ())) rfl _
  | conn _ ho =>
    rw [dispatches_plain fun _ => plain_socket ho]
    exact Nat.le_add_right _ _
  | dispatch hp hq | refuse hp hq =>
    have hlen := len hq
    simp only [HyperServerProc.requests, hp, hlen, RunPc.hand, Option.toList_none,
      Option.toList_some, List.length_nil, List.length_singleton, tally_nil, tally_cons,
      Out.dispatches]
    omega
  | started hp | bound hp | recvShutdown hp | sent hp =>
    simp only [HyperServerProc.requests, hp, RunPc.hand, Option.toList_none, Option.toList_some,
      List.length_nil, List.length_singleton, tally_nil, tally_cons, Out.dispatches]
    omega
  | call =>
    simp only [HyperServerProc.requests, tally_append, tally_cons, tally_nil,
      CallPc.requests_requesting]
    omega
  | @opened c call srvName req handler hc hp =>
    have hset := requests_set hc hp (.sending (RequestMsg.new s.nextId srvName req c) handler)
    simp only [CallPc.requests_requesting, CallPc.requests_sending] at hset
    simp only [HyperServerProc.requests, Out.dispatches, Ev.asks, tally_cons, tally_nil]
    omega
  | @processed c call resp res _ hc hp ho =>
    have hset := requests_set hc hp (.done res)
    simp only [CallPc.requests_requesting, CallPc.requests_done] at hset
    rw [dispatches_plain fun _ => plain_completed ho]
    simp only [HyperServerProc.requests]
    omega
  | @callSent c call msg handler q hc hp hq =>
    have hset := requests_set hc hp (.waiting handler)
    have hlen := congrArg List.length (Chan.send_eq_some hq).2.2.1
    simp only [List.length_append, List.length_singleton] at hlen
    simp only [CallPc.requests_sending, CallPc.requests_waiting] at hset
    simp only [HyperServerProc.requests, hlen, tally_nil]
    omega
  | @callSendFailed c call msg handler hc hp _ =>
    have hset := requests_set hc hp (.waiting handler)
    simp only [CallPc.requests_sending, CallPc.requests_waiting] at hset
    simp only [HyperServerProc.requests, HyperServerProc.drop, Out.dispatches, tally_cons,
      tally_nil]
    omega
  | @callAnswered c call handler m hc hp _ =>
    have hset := requests_set hc hp (.done (waitInternResp adaptor handler m))
    simp only [CallPc.requests_waiting, CallPc.requests_done] at hset
    rw [dispatches_plain fun _ => plain_completed (countRes_counts _)]
    simp only [HyperServerProc.requests]
    omega
  | callCancelled hc =>
    have hset := requests_set hc rfl .cancelled
    simp only [CallPc.requests_cancelled] at hset
    simp only [HyperServerProc.requests, tally_nil]
    omega
  | sendCancelled hc hp =>
    have hset := requests_set hc hp .cancelled
    simp only [CallPc.requests_sending, CallPc.requests_cancelled] at hset
    simp only [HyperServerProc.requests, HyperServerProc.drop, Out.dispatches, tally_cons,
      tally_nil]
    omega
  | _ => exact Nat.le_add_right _ _

/-! ## At rest -/

/-- The channel of the HTTP messages keeps its capacity. -/
theorem httpRx_cap {tr : List (Rec (HyperServerProc M) (Ev M) (Out M))}
    (hr : (serverMachine M urlIsSsl adaptor).Run tr s) : s.httpRx.cap = 2048 := by
  refine hr.state_invariant (I := fun s => s.httpRx.cap = 2048) ?_ fun s e s' os hs hst => ?_
  · rintro s ⟨settings, queues, nextId, rfl⟩
    rfl
  · cases moves_of_step hst with
    | dispatch _ hq | refuse _ hq => exact (Chan.recv_eq_some hq).2.2.2.trans hs
    | callSent _ _ hq => exact (Chan.send_eq_some hq).2.2.2.2.2.trans hs
    | _ => exact hs

/-- Where the loop can be with nothing left to do: at a send on a queue without room, in its
`select!` with nothing to take, or nowhere. -/
inductive Idle (s : HyperServerProc M) : Prop
  | held {queue : Nat} {request httpMsg : RequestMsg M} : s.pc = .sending queue request httpMsg →
      (s.queues queue).rx = true → (s.queues queue).send (.request request) = none → Idle s
  | select : s.pc = .select → s.internalRxQueue.buf = [] → s.httpRx.buf = [] →
      s.pendingReq.all = [] → Idle s
  | ended : s.pc.isOver = true → Idle s

theorem all_eq_nil {p : PendingMsgs (RequestMsg M)} (h : ∀ id, id ∉ p.msgs) : p.all = [] := by
  rw [PendingMsgs.all, List.map_eq_nil_iff, List.eq_nil_iff_forall_not_mem]
  rintro ⟨id, msg⟩ hm
  exact h id (AList.mem_keys.2 (List.mem_keys_of_mem hm))

/-- `get_proc_service` answers something. -/
theorem getProcService_exists (table : ServiceTable) (name : String) :
    ∃ sel, table.getProcService name sel = true := by
  cases hq : table.queuesOf name with
  | nil => exact ⟨none, by rw [ServiceTable.getProcService, hq]; rfl⟩
  | cons queue queues => exact ⟨some queue, by simp [ServiceTable.getProcService, hq]⟩

variable (urlIsSsl) (adaptor) in
/-- In its `select!` the loop takes the oldest HTTP message. -/
theorem recvHttp_select {msg : RequestMsg M} {l : List (RequestMsg M)} (hp : s.pc = .select)
    (hb : s.httpRx.buf = msg :: l) :
    ∃ sel, (s.step urlIsSsl adaptor (.recvHttp sel)).isSome = true := by
  obtain ⟨q, hq, -⟩ := Chan.recv_cons hb
  obtain ⟨sel, hsel⟩ := getProcService_exists s.service msg.service
  refine ⟨sel, ?_⟩
  simp only [HyperServerProc.step, HyperServerProc.onRecvHttp, hp, hq, hsel, if_true]
  split <;> rfl

variable (urlIsSsl) (adaptor) in
/-- In its `select!` the loop takes a pending message whose timer ran out. -/
theorem pull_select {id : Nat} (hp : s.pc = .select) (hm : id ∈ s.pendingReq.msgs)
    (hx : id ∈ s.pendingReq.expired) : (s.step urlIsSsl adaptor (.pull id)).isSome = true := by
  obtain ⟨msg, hmsg⟩ := Option.isSome_iff_exists.1 (AList.lookup_isSome.2 hm)
  have hne : s.pendingReq.isEmpty = false := by
    refine Bool.eq_false_iff.2 fun he => ?_
    rw [PendingMsgs.isEmpty, List.isEmpty_iff] at he
    rw [AList.lookup, he] at hmsg
    cases hmsg
  simp only [HyperServerProc.step, HyperServerProc.onPull, hp, hne, Bool.false_eq_true, if_false,
    PendingMsgs.pull_eq_some.2 ⟨hx, hmsg, rfl⟩]
  rfl

theorem idle_of_rests (h : (drainage urlIsSsl adaptor).Rests s) : Idle s := by
  have stuck (e : Ev M) (he : e.own = true) : s.step urlIsSsl adaptor e = none := h e ⟨he, rfl⟩
  cases hp : s.pc with
  | start =>
    have hst := stuck (.started (.ok ())) rfl
    simp [HyperServerProc.step, HyperServerProc.onStarted, hp] at hst
  | bind =>
    have hst := stuck (.bound (.ok ())) rfl
    simp [HyperServerProc.step, HyperServerProc.onBound, hp] at hst
  | removeProc =>
    have hst := stuck (.procRemoved true) rfl
    simp [HyperServerProc.step, HyperServerProc.onProcRemoved, hp] at hst
  | ended | panicked => exact .ended (by rw [hp]; rfl)
  | sending queue request httpMsg =>
    have hst := stuck .sent rfl
    simp only [HyperServerProc.step, HyperServerProc.onSent, hp] at hst
    split at hst
    · rename_i hrx
      exact .held hp hrx (Option.map_eq_none_iff.1 hst)
    · cases hst
  | select =>
    have hmain : s.internalRxQueue.buf = [] := by
      by_contra hne
      obtain ⟨m, l, hb⟩ := List.exists_cons_of_ne_nil hne
      obtain ⟨s', os, hst, -⟩ := recv_select urlIsSsl adaptor hp hb
      rw [stuck .recv rfl] at hst
      cases hst
    have hhttp : s.httpRx.buf = [] := by
      by_contra hne
      obtain ⟨m, l, hb⟩ := List.exists_cons_of_ne_nil hne
      obtain ⟨sel, hst⟩ := recvHttp_select urlIsSsl adaptor hp hb
      rw [stuck (.recvHttp sel) rfl] at hst
      cases hst
    have hpend : s.pendingReq.all = [] := by
      refine all_eq_nil fun id hid => ?_
      by_cases he : id ∈ s.pendingReq.expired
      · have hst := pull_select urlIsSsl adaptor hp hid he
        rw [stuck (.pull id) rfl] at hst
        cases hst
      · have hst := stuck (.elapse id) rfl
        simp [HyperServerProc.step, PendingMsgs.elapse, hid, he] at hst
    exact .select hp hmain hhttp hpend

/-- With nothing of a call queued, in hand or pending, no call waits at rest. -/
theorem no_wait (hl : Linear s) (hcap : s.httpRx.cap = 2048) (hq : s.httpRx.buf = [])
    (hh : s.pc.hand = none) (hp : s.pendingReq.all = [])
    (hrest : (drainage urlIsSsl adaptor).Rests s) {c : Nat} {call : Call M}
    (hc : s.calls[c]? = some call) : call.pc.inWait = false := by
  cases hpc : call.pc with
  | requesting | done | cancelled => rfl
  | sending msg handler =>
    have hst : s.step urlIsSsl adaptor (.callSent c) = none := hrest (.callSent c) ⟨rfl, rfl⟩
    simp only [HyperServerProc.step, HyperServerProc.onCallSent, hc, hpc] at hst
    split at hst
    · rename_i hrx
      simp [Chan.send, hrx, hq, hcap] at hst
    · cases hst
  | waiting handler =>
    have hst : s.step urlIsSsl adaptor (.callAnswered c) = none :=
      hrest (.callAnswered c) ⟨rfl, rfl⟩
    simp only [HyperServerProc.step, HyperServerProc.onCallAnswered, hc, hpc,
      Option.map_eq_none_iff] at hst
    -- its sender is in one place, and there is none left
    have hheld : held s c = 1 := by
      rw [hl.places, hl.waits_open ⟨call, hc, by rw [hpc]; rfl, hst⟩]
      rfl
    have hsend : sendingTo s c = 0 := by
      by_contra hne
      obtain ⟨call', msg, hc', hm⟩ := hl.sending_of_pos (Nat.pos_of_ne_zero hne)
      rw [hc] at hc'
      cases hc'
      rw [hpc] at hm
      cases hm
    rw [held, hsend, queuedTo, hq, handTo, hh, pendingTo, PendingMsgs.count, hp] at hheld
    cases hheld

/-- What an own step does to a call. -/
theorem call_of_own (c : Nat) (he : e.own = true) (h : s.step urlIsSsl adaptor e = some (s', os)) :
    s'.calls[c]? = s.calls[c]? ∨ ∃ call pc, s.calls[c]? = some call ∧
      s'.calls[c]? = some { call with pc } ∧ (pc.inWait = true ∨ ∃ res, pc = .done res) := by
  have moved {i : Nat} {call : Call M} {pc : CallPc M} (hi : s.calls[i]? = some call)
      (hs : s'.calls = s.calls.set i { call with pc })
      (hpc : pc.inWait = true ∨ ∃ res, pc = .done res) :
      s'.calls[c]? = s.calls[c]? ∨ ∃ call pc, s.calls[c]? = some call ∧
        s'.calls[c]? = some { call with pc } ∧ (pc.inWait = true ∨ ∃ res, pc = .done res) := by
    rw [hs]
    by_cases hic : i = c
    · subst hic
      exact .inr ⟨call, pc, hi, getElem?_set_self_some hi _, hpc⟩
    · exact .inl (List.getElem?_set_ne hic)
  cases moves_of_step h with
  | callSent hc | callSendFailed hc => exact moved hc rfl (.inl rfl)
  | callAnswered hc => exact moved hc rfl (.inr ⟨_, rfl⟩)
  | call | opened | processed | callCancelled | sendCancelled => cases he
  | _ => exact .inl rfl

/-- The call `c` has its response, or waits for it. -/
def OnItsWay (c : Nat) (s : HyperServerProc M) : Prop :=
  ∃ call, s.calls[c]? = some call ∧ (call.pc.inWait = true ∨ ∃ res, call.pc = .done res)

theorem step_onItsWay {c : Nat} (hs : OnItsWay c s) (he : e.own = true)
    (h : s.step urlIsSsl adaptor e = some (s', os)) : OnItsWay c s' := by
  obtain ⟨call, hc, hw⟩ := hs
  rcases call_of_own c he h with hsame | ⟨call', pc, -, hc', hw'⟩
  · exact ⟨call, hsame.trans hc, hw⟩
  · exact ⟨_, hc', hw'⟩

/-- What the server left to itself comes to: the loop waits at a send on a service queue that has
no room, or nothing waits for the loop and every call that waited has its response. -/
inductive Rested (s t : HyperServerProc M) : Prop
  | held {queue : Nat} {request httpMsg : RequestMsg M} : t.pc = .sending queue request httpMsg →
      (t.queues queue).rx = true → (t.queues queue).send (.request request) = none → Rested s t
  | served : t.pc = .select ∧ t.internalRxQueue.buf = [] ∨ t.pc.isOver = true →
      t.httpRx.buf = [] → t.pendingReq.all = [] →
      (∀ (c : Nat) (call : Call M), s.calls[c]? = some call → call.pc.inWait = true →
        ∃ call' res, t.calls[c]? = some call' ∧ call'.pc = .done res) → Rested s t

theorem rested {tr : List (Rec (HyperServerProc M) (Ev M) (Out M))} {t : HyperServerProc M}
    (hr : (serverMachine M urlIsSsl adaptor).Run tr t)
    (hrest : (drainage urlIsSsl adaptor).Rests t)
    (hway : ∀ (c : Nat) (call : Call M), s.calls[c]? = some call → call.pc.inWait = true →
      OnItsWay c t) : Rested s t := by
  have hlin := linear_of_run hr
  have done (hq : t.httpRx.buf = []) (hh : t.pc.hand = none) (hp : t.pendingReq.all = [])
      (c : Nat) (call : Call M) (hc : s.calls[c]? = some call) (hw : call.pc.inWait = true) :
      ∃ call' res, t.calls[c]? = some call' ∧ call'.pc = .done res := by
    obtain ⟨call', hc', hw'⟩ := hway c call hc hw
    have hno := no_wait hlin (httpRx_cap hr) hq hh hp hrest hc'
    obtain ⟨res, hres⟩ := hw'.resolve_left (by rw [hno]; exact Bool.false_ne_true)
    exact ⟨call', res, hc', hres⟩
  cases idle_of_rests hrest with
  | held hpc hrx hfull => exact .held hpc hrx hfull
  | select hpc hmain hhttp hpend =>
    exact .served (.inl ⟨hpc, hmain⟩) hhttp hpend (done hhttp (by rw [hpc]; rfl) hpend)
  | ended ho =>
    obtain ⟨hrx, hpend⟩ := hlin.ended ho
    have hhttp := t.httpRx.closed hrx
    have hh : t.pc.hand = none := by
      cases hpc : t.pc <;> first | rfl | (rw [hpc] at ho; cases ho)
    exact .served (.inr ho) hhttp hpend (done hhttp hh hpend)

/-- Left to itself in `s`, the server comes to rest, whichever of its steps it takes first. -/
structure Drains (urlIsSsl : Url → Bool) (adaptor : HyperServerAdaptor) (s : HyperServerProc M) :
    Prop where
  bounded : ∀ tr t, ((serverMachine M urlIsSsl adaptor).startAt s).Run tr t →
    (∀ r ∈ tr, r.ev.own = true) → tr.length ≤ s.level
  rests : ∃ t, (serverMachine M urlIsSsl adaptor).Leads (fun e => e.own = true) s t ∧
    (drainage urlIsSsl adaptor).Rests t
  rested : ∀ t, (serverMachine M urlIsSsl adaptor).Leads (fun e => e.own = true) s t →
    (drainage urlIsSsl adaptor).Rests t → Rested s t

/-- **The server drains**, after any run. -/
theorem calls_drain {tr : List (Rec (HyperServerProc M) (Ev M) (Out M))}
    (hr : (serverMachine M urlIsSsl adaptor).Run tr s) : Drains urlIsSsl adaptor s where
  bounded _ _ := (drainage urlIsSsl adaptor).bounded
  rests := (drainage urlIsSsl adaptor).leads_to_rest s
  rested _ hl hrest := by
    obtain ⟨tr', hr', -⟩ := id hl
    exact rested (hr.append hr') hrest fun c call hc hw => hl.invariant (I := OnItsWay c)
      (fun _ _ _ _ hs he hst => step_onItsWay hs he hst) ⟨call, hc, .inl hw⟩

end

/-- A call is dispatched: what came pays for six steps, and for the four that are left. -/
theorem dispatched_own_steps : ∃ q, (serverMachine Nat plainHttp .default).exec plainServer
      (called "svc" ++ [.recvHttp (some 5), .sent]) = some q ∧
      q.1.countP (fun r => r.ev.own) = 6 ∧ q.2.level = 4 ∧
      q.1.countP (fun r => r.ev.own) + q.2.level ≤ 3 + tally (fun r => r.ev.gain) q.1 :=
  ⟨_, (Option.some_get rfl).symm, rfl, rfl,
    server_steps_le (Machine.run_get (init_server plainHttp .default) rfl)⟩

/-- A call waits for a service that never answers. -/
theorem dispatched_drains : ∃ q, (serverMachine Nat plainHttp .default).exec plainServer
      (called "svc" ++ [.recvHttp (some 5), .sent]) = some q ∧
      q.2.calls.map (·.pc.inWait) = [true] ∧ Drains plainHttp .default q.2 :=
  ⟨_, (Option.some_get rfl).symm, rfl, calls_drain (Machine.run_get (init_server _ _) rfl)⟩

end Server
