import ProsaHyper.Server.Proof.Cases

/-!
# Where the reply senders are

The reply sender of a call travels in the message the call built. `held s c` counts it through the
four places it can be in: the send of the call that has not gone through, the channel of HTTP
messages, the hand of the loop, and the pending messages.

* `step_fresh`: no identifier of a request is drawn twice, so a dispatched message is pending under
  an identifier of its own.
* `step_balanced`: what a step adds to the places and takes from them, its outputs show.
* `fate_of_step`: what a step does to the channel of a call, its outputs show.
-/

set_option autoImplicit false

namespace Server

open Prosa Http

variable {M : Type}

/-! ## Counting messages -/

/-- `msg` answers to the call `c`. -/
def toCall (c : Nat) (msg : RequestMsg M) : Nat := if msg.responseQueue = c then 1 else 0

@[simp] theorem toCall_takeData (c : Nat) (msg : RequestMsg M) :
    toCall c msg.takeData.2 = toCall c msg := rfl

theorem toCall_pos {c : Nat} {msg : RequestMsg M} : 0 < toCall c msg ↔ msg.responseQueue = c := by
  unfold toCall; split <;> simp_all

@[simp] def openedOf (c : Nat) : Out M → Nat
  | .opened msg => toCall c msg
  | _ => 0

@[simp] def dispatchedOf (c : Nat) : Out M → Nat
  | .dispatched msg _ _ => toCall c msg
  | _ => 0

@[simp] def repliedOf (c : Nat) : Out M → Nat
  | .replied _ msg _ => toCall c msg
  | _ => 0

/-- The replies of the dispatch arm. -/
@[simp] def refusedOf (c : Nat) : Out M → Nat
  | .replied .unable msg _ => toCall c msg
  | _ => 0

@[simp] def droppedOf (c : Nat) : Out M → Nat
  | .dropped msg => toCall c msg
  | _ => 0

/-- What the send of a call holds. -/
def Call.holds (c : Nat) (call : Call M) : Nat := tally (toCall c) call.pc.msg?.toList

def sendingTo (s : HyperServerProc M) (c : Nat) : Nat := tally (Call.holds c) s.calls

def queuedTo (s : HyperServerProc M) (c : Nat) : Nat := tally (toCall c) s.httpRx.buf

def handTo (pc : RunPc M) (c : Nat) : Nat := tally (toCall c) pc.hand.toList

def pendingTo (s : HyperServerProc M) (c : Nat) : Nat := s.pendingReq.count (toCall c)

/-- The places of the reply sender of `c`. -/
def held (s : HyperServerProc M) (c : Nat) : Nat :=
  sendingTo s c + queuedTo s c + handTo s.pc c + pendingTo s c

/-- The places before the dispatch. -/
def undispatched (s : HyperServerProc M) (c : Nat) : Nat :=
  sendingTo s c + queuedTo s c + handTo s.pc c

@[simp] theorem handTo_select (c : Nat) : handTo (.select : RunPc M) c = 0 := rfl

@[simp] theorem handTo_sending (queue : Nat) (request msg : RequestMsg M) (c : Nat) :
    handTo (.sending queue request msg) c = toCall c msg := by
  simp [handTo, RunPc.hand]

/-- An output that says nothing about the messages of the calls. -/
def Out.quiet : Out M → Bool
  | .opened _ | .dispatched _ _ _ | .replied _ _ _ | .dropped _ => false
  | _ => true

theorem Out.quiet_of_plain {o : Out M} (h : o.plain = true) : o.quiet = true := by
  cases o with
  | completed | count | socket => rfl
  | _ => cases h

theorem all_quiet_of_plain {os : List (Out M)} (h : ∀ o ∈ os, o.plain = true) :
    os.all Out.quiet = true :=
  List.all_eq_true.2 fun o ho => Out.quiet_of_plain (h o ho)

/-- The outputs move the sender of no call. -/
structure Silent (c : Nat) (os : List (Out M)) : Prop where
  opened : tally (openedOf c) os = 0
  dispatched : tally (dispatchedOf c) os = 0
  replied : tally (repliedOf c) os = 0
  refused : tally (refusedOf c) os = 0
  dropped : tally (droppedOf c) os = 0

theorem silent_of_quiet (c : Nat) {os : List (Out M)} (h : os.all Out.quiet = true) :
    Silent c os := by
  have zero (f : Out M → Nat) (hf : ∀ o, o.quiet = true → f o = 0) : tally f os = 0 :=
    tally_eq_zero.2 fun o ho => hf o (List.all_eq_true.1 h o ho)
  refine ⟨zero _ ?_, zero _ ?_, zero _ ?_, zero _ ?_, zero _ ?_⟩ <;>
  · intro o ho
    cases o with
    | opened | dispatched | replied | dropped => cases ho
    | _ => rfl

/-! ## Identifiers -/

/-- The identifiers of the requests made so far are below `nextId`, and the one in hand is not
pending yet. -/
structure Fresh (s : HyperServerProc M) : Prop where
  pending : ∀ id ∈ s.pendingReq.msgs, id < s.nextId
  request : ∀ queue request httpMsg, s.pc = .sending queue request httpMsg →
    request.id < s.nextId ∧ request.id ∉ s.pendingReq.msgs

section
variable {urlIsSsl : Url → Bool} {adaptor : HyperServerAdaptor} {s s' : HyperServerProc M}
  {e : Ev M} {os : List (Out M)}

theorem fresh_erase {id id' n : Nat} (h : ∀ i ∈ s.pendingReq.msgs, i < n)
    (hm : id ∈ (s.pendingReq.erase id').msgs) : id < n :=
  h id (AList.mem_erase.1 hm).2

theorem Fresh.idle (hp : ∀ id ∈ s.pendingReq.msgs, id < s.nextId)
    (hpc : ∀ queue request httpMsg, s.pc ≠ .sending queue request httpMsg) : Fresh s :=
  ⟨hp, fun q r m h => absurd h (hpc q r m)⟩

theorem step_fresh (hs : Fresh s) (h : s.step urlIsSsl adaptor e = some (s', os)) : Fresh s' := by
  obtain ⟨hp, hr⟩ := hs
  cases moves_of_step h with
  | internal | queueSend | queueRecv | queueClosed | conn | call | processed | callSent
  | callSendFailed | callAnswered | callCancelled | sendCancelled | accepted =>
    exact ⟨hp, hr⟩
  | drawn | opened =>
    exact ⟨fun id hid => Nat.lt_succ_of_lt (hp id hid), fun q r m hpc =>
      ⟨Nat.lt_succ_of_lt (hr q r m hpc).1, (hr q r m hpc).2⟩⟩
  | elapse he =>
    obtain ⟨-, rfl⟩ := PendingMsgs.elapse_eq_some.1 he
    exact ⟨hp, hr⟩
  | startFailed | bindFailed | recvPanic | sendFailed | acceptFailed | procRemoved
  | procRemoveFailed =>
    exact .idle (fun id hid => absurd hid (AList.notMem_empty id)) fun _ _ _ h => by cases h
  | started | bound | recvShutdown => exact .idle hp fun _ _ _ h => by cases h
  | recvStale | recvService | refuse => exact ⟨hp, hr⟩
  | recvData hpc | recvNoData hpc | recvError hpc | pulled hpc =>
    exact .idle (fun id => fresh_erase hp) (by simp [HyperServerProc.drop, hpc])
  | dispatch hpc =>
    refine ⟨fun id hid => Nat.lt_succ_of_lt (hp id hid), fun q r m hpc' => ?_⟩
    cases hpc'
    exact ⟨Nat.lt_succ_self _, fun hm => Nat.lt_irrefl _ (hp _ hm)⟩
  | sent hpc _ =>
    refine .idle (fun id hid => ?_) fun _ _ _ h => by cases h
    rcases (AList.mem_insert _).1 hid with rfl | hid
    · exact (hr _ _ _ hpc).1
    · exact hp id hid

theorem fresh_of_run {tr : List (Rec (HyperServerProc M) (Ev M) (Out M))}
    (hr : (serverMachine M urlIsSsl adaptor).Run tr s) : Fresh s := by
  refine hr.state_invariant (I := Fresh) ?_ fun _ _ _ _ hs hst => step_fresh hs hst
  rintro s ⟨settings, queues, nextId, rfl⟩
  exact .idle (fun id hid => absurd hid (AList.notMem_empty id)) fun _ _ _ h => by cases h

/-! ## The books of a step -/

/-- The books of the call `c` over a step from `s`: its sender, and its sender before dispatch. -/
structure Balanced (c : Nat) (s : HyperServerProc M) (r : HyperServerProc M × List (Out M)) :
    Prop where
  sender : held r.1 c + tally (repliedOf c) r.2 + tally (droppedOf c) r.2 =
    held s c + tally (openedOf c) r.2
  dispatch : undispatched r.1 c + tally (dispatchedOf c) r.2 + tally (refusedOf c) r.2 ≤
    undispatched s c + tally (openedOf c) r.2

/-- The end of `internal_run` drops what it owns. -/
theorem leave_balanced (c : Nat) (pc : RunPc M) (hp : pc.hand = none) :
    Balanced c s (s.leave pc) := by
  have hand : handTo pc c = 0 := by rw [handTo, hp]; rfl
  have drops (f : Out M → Nat) : tally f (s.owned.map .dropped) =
      tally (fun m => f (.dropped m)) s.pc.hand.toList +
        tally (fun m => f (.dropped m)) s.httpRx.buf +
        tally (fun m => f (.dropped m)) s.pendingReq.all := by
    rw [tally_map, HyperServerProc.owned, tally_append, tally_append]
  refine ⟨?_, ?_⟩
  · have hd : tally (droppedOf c) (s.owned.map .dropped) =
        handTo s.pc c + queuedTo s c + pendingTo s c := drops _
    have hr : tally (repliedOf c) (s.owned.map .dropped) = 0 := by simp [drops]
    have hopen : tally (openedOf c) (s.owned.map .dropped) = 0 := by simp [drops]
    simp only [held, HyperServerProc.leave, hd, hr, hopen, hand]
    simp [sendingTo, queuedTo, pendingTo, PendingMsgs.count, HyperServerProc.drop]
    omega
  · have hd : tally (dispatchedOf c) (s.owned.map .dropped) = 0 := by simp [drops]
    have hr : tally (refusedOf c) (s.owned.map .dropped) = 0 := by simp [drops]
    simp only [undispatched, HyperServerProc.leave, hd, hr, hand]
    simp [sendingTo, queuedTo, HyperServerProc.drop]
    omega

/-- A step that moves no sender. -/
theorem Balanced.still {c : Nat} (h1 : sendingTo s' c = sendingTo s c)
    (h2 : queuedTo s' c = queuedTo s c) (h3 : handTo s'.pc c = handTo s.pc c)
    (h4 : pendingTo s' c = pendingTo s c) (ho : os.all Out.quiet = true) :
    Balanced c s (s', os) := by
  have hs := silent_of_quiet c ho
  refine ⟨?_, ?_⟩
  · simp only [held, h1, h2, h3, h4, hs.replied, hs.dropped, hs.opened]
  · simp only [undispatched, h1, h2, h3, hs.dispatched, hs.refused, hs.opened]
    omega

/-- A quiet output changes nothing. -/
theorem Balanced.cons {c : Nat} {o : Out M} (ho : o.quiet = true) (h : Balanced c s (s', os)) :
    Balanced c s (s', o :: os) := by
  obtain ⟨h1, h2⟩ := h
  cases o with
  | opened | dispatched | replied | dropped => cases ho
  | _ => exact ⟨by simpa using h1, by simpa using h2⟩

/-- The sends of the calls, after the call `i` moved to `pc`. -/
theorem sendingTo_set {i c : Nat} {call : Call M} (hc : s.calls[i]? = some call) (pc : CallPc M) :
    tally (Call.holds c) (s.calls.set i { call with pc }) + tally (toCall c) call.pc.msg?.toList =
      sendingTo s c + tally (toCall c) pc.msg?.toList :=
  tally_set hc { call with pc }

/-- The send of the call `i` is over. -/
theorem sendingTo_over {i c : Nat} {call : Call M} {msg : RequestMsg M}
    (hc : s.calls[i]? = some call) (hm : call.pc.msg? = some msg) (pc : CallPc M)
    (hp : pc.msg? = none) :
    tally (Call.holds c) (s.calls.set i { call with pc }) + toCall c msg = sendingTo s c := by
  have hset := sendingTo_set (c := c) hc pc
  simpa [hm, hp] using hset

/-- A step of a call that outputs nothing about its message. -/
theorem Balanced.call {i c : Nat} {call : Call M} {pc : CallPc M} (hc : s.calls[i]? = some call)
    (h0 : call.pc.msg? = none) (h1 : pc.msg? = none) (ho : os.all Out.quiet = true) :
    Balanced c s ({ s with calls := s.calls.set i { call with pc } }, os) := by
  refine .still ?_ rfl rfl rfl ho
  have hset := sendingTo_set (c := c) hc pc
  rw [h0, h1] at hset
  exact hset

/-- **Every step balances the books.** -/
theorem step_balanced (c : Nat) (hf : Fresh s) (h : s.step urlIsSsl adaptor e = some (s', os)) :
    Balanced c s (s', os) := by
  cases moves_of_step h with
  | internal | queueSend | queueRecv | queueClosed | drawn | accepted | recvStale | recvService =>
    exact .still rfl rfl rfl rfl rfl
  | elapse he =>
    obtain ⟨-, rfl⟩ := PendingMsgs.elapse_eq_some.1 he
    exact .still rfl rfl rfl rfl rfl
  | startFailed | bindFailed | sendFailed | acceptFailed | procRemoveFailed =>
    exact leave_balanced c _ rfl
  | started hp | bound hp | recvShutdown hp =>
    exact .still rfl rfl (by rw [hp]; rfl) rfl rfl
  | @recvPanic m q hp _ hm =>
    have hl : Balanced c { s with internalRxQueue := q } _ := leave_balanced c .panicked rfl
    exact .cons rfl ⟨hl.sender, hl.dispatch⟩
  | procRemoved => exact .cons rfl (leave_balanced c _ rfl)
  | recvData hp _ hl | recvNoData hp _ hl | recvError hp _ hl | pulled hp _ hl =>
    have hcount := PendingMsgs.count_erase (toCall c) hl
    refine ⟨?_, ?_⟩ <;>
      simp [held, undispatched, sendingTo, queuedTo, pendingTo, HyperServerProc.drop]
    omega
  | dispatch hp hq =>
    have hbuf := Chan.tally_recv (f := toCall c) hq
    refine ⟨?_, ?_⟩ <;>
      simp [held, undispatched, sendingTo, pendingTo, hp, hbuf, queuedTo] <;> omega
  | refuse hp hq =>
    have hbuf := Chan.tally_recv (f := toCall c) hq
    refine ⟨?_, ?_⟩ <;>
      simp [held, undispatched, sendingTo, pendingTo, hp, hbuf, queuedTo] <;> omega
  | @sent queue request httpMsg q hp hq =>
    have hcount := PendingMsgs.count_push httpMsg (toCall c) (hf.request _ _ _ hp).2
    refine ⟨?_, ?_⟩ <;> simp [held, undispatched, sendingTo, queuedTo, pendingTo, hp, hcount]
    omega
  | conn _ ho => exact .still rfl rfl rfl rfl (all_quiet_of_plain fun _ => plain_socket ho)
  | call =>
    refine .still ?_ rfl rfl rfl rfl
    simp [sendingTo, Call.holds, CallPc.msg?]
  | @opened i call srvName req handler hc hp =>
    have hset := sendingTo_set (c := c) hc
      (.sending (RequestMsg.new s.nextId srvName req i) handler)
    simp only [hp, CallPc.msg?, Option.toList_none, tally_nil, Option.toList_some, tally_cons,
      Nat.add_zero] at hset
    refine ⟨?_, ?_⟩ <;> simp [held, undispatched, sendingTo, queuedTo, pendingTo, hset] <;> omega
  | processed hc hp ho =>
    exact .call hc (by rw [hp]; rfl) rfl (all_quiet_of_plain fun _ => plain_completed ho)
  | @callSent i call msg handler q hc hp hq =>
    have hset := sendingTo_over (c := c) hc (by rw [hp]; rfl) (.waiting handler) rfl
    have hbuf := Chan.tally_send (f := toCall c) hq
    refine ⟨?_, ?_⟩ <;>
      simp [held, undispatched, sendingTo, queuedTo, pendingTo, hbuf] at hset ⊢ <;> omega
  | @callSendFailed i call msg handler hc hp _ =>
    have hset := sendingTo_over (c := c) hc (by rw [hp]; rfl) (.waiting handler) rfl
    refine ⟨?_, ?_⟩ <;>
      simp [held, undispatched, sendingTo, queuedTo, pendingTo, HyperServerProc.drop] at hset ⊢ <;>
      omega
  | callAnswered hc hp _ =>
    exact .call hc (by rw [hp]; rfl) rfl
      (all_quiet_of_plain fun _ => plain_completed (countRes_counts _))
  | callCancelled hc hp _ => exact .call hc hp rfl rfl
  | sendCancelled hc hp =>
    have hset := sendingTo_over (c := c) hc (by rw [hp]; rfl) .cancelled rfl
    refine ⟨?_, ?_⟩ <;>
      simp [held, undispatched, sendingTo, queuedTo, pendingTo, HyperServerProc.drop] at hset ⊢ <;>
      omega

/-! ## The channels -/

/-- What a step with outputs `os` does to the channel of the call `c`. -/
inductive Fate (c : Nat) (os : List (Out M)) (o : Oneshot M) : Oneshot M → Prop
  | opened : tally (openedOf c) os = 1 → tally (repliedOf c) os = 0 → tally (droppedOf c) os = 0 →
      Fate c os o .open
  | replied {site : Site} {msg : RequestMsg M} {a : InternalMsg M} : .replied site msg a ∈ os →
      msg.responseQueue = c → tally (openedOf c) os = 0 → tally (repliedOf c) os = 1 →
      tally (droppedOf c) os = 0 → Fate c os o (.sent a)
  | dropped : tally (openedOf c) os = 0 → tally (repliedOf c) os = 0 →
      0 < tally (droppedOf c) os → Fate c os o .closed
  | kept : tally (openedOf c) os = 0 → tally (repliedOf c) os = 0 → tally (droppedOf c) os = 0 →
      Fate c os o o

theorem Fate.quiet {c : Nat} {o : Oneshot M} (ho : os.all Out.quiet = true) : Fate c os o o := by
  have hs := silent_of_quiet c ho
  exact .kept hs.opened hs.replied hs.dropped

/-- The messages `msgs` are dropped. -/
theorem Fate.drop (c : Nat) (msgs : List (RequestMsg M)) :
    Fate c (msgs.map .dropped) (s.replies c) ((s.drop msgs).replies c) := by
  have hopen : tally (openedOf c) (msgs.map .dropped) = 0 := by simp [tally_map]
  have hr : tally (repliedOf c) (msgs.map .dropped) = 0 := by simp [tally_map]
  simp only [HyperServerProc.drop]
  split
  · rename_i hany
    obtain ⟨msg, hm, hc⟩ := List.any_eq_true.1 hany
    refine .dropped hopen hr (Nat.lt_of_lt_of_le ?_ (le_tally (List.mem_map_of_mem hm)))
    exact toCall_pos.2 (by simpa using hc)
  · rename_i hany
    refine .kept hopen hr ?_
    rw [tally_map, tally_eq_zero]
    intro msg hm
    have hne : msg.responseQueue ≠ c := fun hc =>
      hany (List.any_eq_true.2 ⟨msg, hm, by simpa using hc⟩)
    simp [toCall, hne]

/-- One message is replied to. -/
theorem Fate.reply (c : Nat) {site : Site} {msg msg' : RequestMsg M} {a : InternalMsg M}
    (hmsg : msg'.responseQueue = msg.responseQueue) :
    Fate c [.replied site msg a] (s.replies c)
      (Function.update s.replies msg'.responseQueue (.sent a) c) := by
  by_cases hc : msg.responseQueue = c
  · rw [hmsg, hc, Function.update_self]
    exact .replied List.mem_cons_self hc (by simp) (by simp [toCall, hc]) (by simp)
  · rw [hmsg, Function.update_of_ne (Ne.symm hc)]
    exact .kept (by simp) (by simp [toCall, hc]) (by simp)

theorem Fate.cons {c : Nat} {o : Out M} {x x' : Oneshot M} (ho : o.quiet = true)
    (h : Fate c os x x') : Fate c (o :: os) x x' := by
  have hs : Silent c [o] := silent_of_quiet c (by simpa using ho)
  have skip (f : Out M → Nat) (hf : tally f [o] = 0) : tally f (o :: os) = tally f os := by
    rw [← List.singleton_append, tally_append, hf, Nat.zero_add]
  have h1 := skip _ hs.opened
  have h2 := skip _ hs.replied
  have h3 := skip _ hs.dropped
  cases h with
  | opened ha hb hc => exact .opened (h1.trans ha) (h2.trans hb) (h3.trans hc)
  | replied hm hq ha hb hc =>
    exact .replied (List.mem_cons_of_mem _ hm) hq (h1.trans ha) (h2.trans hb) (h3.trans hc)
  | dropped ha hb hc => exact .dropped (h1.trans ha) (h2.trans hb) (by rw [h3]; exact hc)
  | kept ha hb hc => exact .kept (h1.trans ha) (h2.trans hb) (h3.trans hc)

/-- **What a step does to a channel, its outputs show.** -/
theorem fate_of_step (c : Nat) (h : s.step urlIsSsl adaptor e = some (s', os)) :
    Fate c os (s.replies c) (s'.replies c) := by
  cases moves_of_step h with
  | internal | queueSend | queueRecv | queueClosed | drawn | elapse | started | bound | recvStale
  | recvService | recvShutdown | accepted | call | callSent | callCancelled => exact .quiet rfl
  | startFailed | bindFailed | sendFailed | acceptFailed | procRemoveFailed =>
    exact Fate.drop c s.owned
  | recvPanic => exact .cons rfl (Fate.drop c _)
  | procRemoved => exact .cons rfl (Fate.drop c s.owned)
  | recvData | recvError => exact .cons rfl (.reply c rfl)
  | recvNoData => exact .cons rfl (Fate.drop c [_])
  | dispatch => exact .quiet rfl
  | sent => exact .kept (by simp) (by simp) (by simp)
  | refuse | pulled => exact .reply c rfl
  | conn _ ho => exact .quiet (all_quiet_of_plain fun _ => plain_socket ho)
  | @opened i call srvName req handler =>
    by_cases hi : i = c
    · subst hi
      simp only [Function.update_self]
      exact .opened (by simp [toCall, RequestMsg.new]) (by simp) (by simp)
    · simp only [Function.update_of_ne (Ne.symm hi)]
      exact .kept (by simp [toCall, RequestMsg.new, hi]) (by simp) (by simp)
  | processed _ _ ho => exact .quiet (all_quiet_of_plain fun _ => plain_completed ho)
  | callSendFailed | sendCancelled => exact Fate.drop c [_]
  | callAnswered =>
    exact .quiet (all_quiet_of_plain fun _ => plain_completed (countRes_counts _))

end

end Server
