import ProsaHyper.Lib.Protocol
import ProsaHyper.Server.Proof.Stranded

/-!
# The life of a call

`callProtocol` says what can happen to a call and in which order: it completes by itself, or it
sends a message that is refused, dispatched or lost, and after the dispatch answered or lost; then
it completes. The server takes each of its calls through this protocol, whatever happens to the
others.

* `stage`: where a call is, read off the state of the server.
* `step_stage`: what a step shows of a call takes it from its place before to its place after.
* `calls_follow`: the same over every run.
-/

set_option autoImplicit false

namespace Server

open Prosa Http

variable {M : Type}

/-- What happens to a call. -/
inductive Act
  | opened
  | dispatched
  | replied (site : Site)
  | dropped
  | completed
  deriving DecidableEq, Repr

/-- Where a call is. `waiting`: its message was not dispatched yet; `lost`: it was dropped. -/
inductive Stage
  | unborn
  | waiting
  | inService
  | answered
  | lost
  | completed
  deriving DecidableEq, Repr

/-- The order in which things happen to a call. -/
def callProtocol : Protocol Stage Act where
  start := .unborn
  act
    | .unborn, .opened => some .waiting
    | .unborn, .completed => some .completed
    | .waiting, .dispatched => some .inService
    | .waiting, .replied .unable => some .answered
    | .waiting, .dropped => some .lost
    | .inService, .replied .response => some .answered
    | .inService, .replied .responseErr => some .answered
    | .inService, .replied .timeout => some .answered
    | .inService, .dropped => some .lost
    | .answered, .completed => some .completed
    | .lost, .completed => some .completed
    | _, _ => none

/-- What an output says about the call `c`. -/
def Out.act? (c : Nat) : Out M → Option Act
  | .opened msg => if msg.responseQueue = c then some .opened else none
  | .dispatched msg _ _ => if msg.responseQueue = c then some .dispatched else none
  | .replied site msg _ => if msg.responseQueue = c then some (.replied site) else none
  | .dropped msg => if msg.responseQueue = c then some .dropped else none
  | .completed call _ => if call = c then some .completed else none
  | _ => none

/-- What the outputs `os` say about the call `c`, in order. -/
def acts (c : Nat) (os : List (Out M)) : List Act := os.filterMap (Out.act? c)

def CallPc.isDone : CallPc M → Bool
  | .done _ => true
  | _ => false

/-- The call `c` has its response. -/
def isDone (s : HyperServerProc M) (c : Nat) : Bool := s.calls[c]?.any (·.pc.isDone)

/-- Where a call without a response is, with `pending` messages of it pending. -/
def Oneshot.stage (pending : Nat) : Oneshot M → Stage
  | .unborn => .unborn
  | .open => if pending = 0 then .waiting else .inService
  | .sent _ => .answered
  | .closed => .lost

/-- Where the call `c` is. -/
def stage (s : HyperServerProc M) (c : Nat) : Stage :=
  if isDone s c then .completed else (s.replies c).stage (pendingTo s c)

section
variable {urlIsSsl : Url → Bool} {adaptor : HyperServerAdaptor} {s s' : HyperServerProc M}
  {e : Ev M} {os : List (Out M)} {c : Nat}

@[simp] theorem acts_nil : acts c ([] : List (Out M)) = [] := rfl

theorem acts_append (os os' : List (Out M)) : acts c (os ++ os') = acts c os ++ acts c os' :=
  List.filterMap_append

theorem acts_cons_of_none {o : Out M} (h : o.act? c = none) : acts c (o :: os) = acts c os :=
  List.filterMap_cons_none h

theorem acts_eq_nil (h : ∀ o ∈ os, o.act? c = none) : acts c os = [] :=
  List.filterMap_eq_nil_iff.2 h

/-- Dropped messages. -/
theorem acts_dropped (msgs : List (RequestMsg M)) :
    acts c (msgs.map .dropped) = List.replicate (tally (toCall c) msgs) .dropped := by
  induction msgs with
  | nil => rfl
  | cons msg msgs ih =>
    by_cases hc : msg.responseQueue = c
    · rw [List.map_cons, tally_cons, toCall, if_pos hc, Nat.add_comm, List.replicate_succ, ← ih]
      exact List.filterMap_cons_some (by simp [Out.act?, hc])
    · rw [List.map_cons, tally_cons, toCall, if_neg hc, Nat.zero_add, ← ih]
      exact List.filterMap_cons_none (by simp [Out.act?, hc])

theorem stage_congr (hd : isDone s' c = isDone s c) (hr : s'.replies c = s.replies c)
    (hp : pendingTo s' c = pendingTo s c) : stage s' c = stage s c := by
  rw [stage, stage, hd, hr, hp]

theorem stage_eq {o : Oneshot M} {n : Nat} (hd : isDone s c = false) (hr : s.replies c = o)
    (hp : pendingTo s c = n) : stage s c = o.stage n := by
  rw [stage, hd, hr, hp]
  rfl

/-- The call `i` goes to `pc`. -/
theorem isDone_set {i : Nat} {call : Call M} (hi : s.calls[i]? = some call) (pc : CallPc M)
    (hs : s'.calls = s.calls.set i { call with pc }) :
    isDone s' c = if i = c then pc.isDone else isDone s c := by
  rw [isDone, hs, getElem?_set_some hi]
  split <;> rfl

/-- A call that is not over stays so where it goes to no response. -/
theorem isDone_of_set {i : Nat} {call : Call M} {pc : CallPc M} (hi : s.calls[i]? = some call)
    (h0 : call.pc.isDone = false) (h1 : pc.isDone = false)
    (hs : s'.calls = s.calls.set i { call with pc }) : isDone s' c = isDone s c := by
  rw [isDone_set hi pc hs]
  split
  · rename_i hic
    rw [h1, isDone, ← hic, hi, Option.any_some, h0]
  · rfl

theorem isDone_of_call {call : Call M} (hc : s.calls[c]? = some call) :
    isDone s c = call.pc.isDone := by
  rw [isDone, hc, Option.any_some]

theorem isDone_started {i : Nat} (hs : s'.calls = s.calls ++ [⟨i, .requesting⟩]) :
    isDone s' c = isDone s c := by
  simp only [isDone, hs, List.getElem?_append]
  split
  · rfl
  · rename_i hlt
    rw [List.getElem?_eq_none (Nat.le_of_not_lt hlt)]
    cases c - s.calls.length <;> simp [CallPc.isDone]

theorem CallPc.isDone_of_isLive {pc : CallPc M} (h : pc.isLive = true) : pc.isDone = false := by
  cases pc <;> first | rfl | cases h

/-- A call gets its response in a step that leaves its channel as it is. -/
theorem done_of_step (hl : Linear s) (h : s.step urlIsSsl adaptor e = some (s', os)) :
    isDone s' c = isDone s c ∨ (s.replies c).senders = 0 ∧ s'.replies c = s.replies c := by
  cases moves_of_step h with
  | call => exact .inl (isDone_started rfl)
  | opened hc hp => exact .inl (isDone_of_set hc (by rw [hp]; rfl) rfl rfl)
  | callSent hc hp | callSendFailed hc hp | sendCancelled hc hp =>
    exact .inl (isDone_of_set hc (by rw [hp]; rfl) rfl rfl)
  | callCancelled hc _ hlive =>
    exact .inl (isDone_of_set hc (CallPc.isDone_of_isLive hlive) rfl rfl)
  | @processed i call resp res _ hc hp =>
    by_cases hic : i = c
    · subst hic
      refine .inr ⟨?_, rfl⟩
      rw [hl.unborn i fun call' hc' => by rw [hc] at hc'; cases hc'; exact hp]
      rfl
    · exact .inl (by rw [isDone_set hc (.done res) rfl, if_neg hic])
  | @callAnswered i call handler m hc hp hm =>
    by_cases hic : i = c
    · subst hic
      exact .inr ⟨Oneshot.senders_of_recv hm, rfl⟩
    · exact .inl (by rw [isDone_set hc (.done _) rfl, if_neg hic])
  | _ => exact .inl rfl

/-- The channel of a call that has its response has no sender. -/
def Settled (s : HyperServerProc M) : Prop := ∀ c, isDone s c = true → (s.replies c).senders = 0

theorem step_settled (hl : Linear s) (hs : Settled s)
    (h : s.step urlIsSsl adaptor e = some (s', os)) : Settled s' := by
  intro c hd
  rcases done_of_step (c := c) hl h with hdone | ⟨h0, hr⟩
  · rw [hdone] at hd
    have hfate := fate_of_step c h
    generalize s'.replies c = o at hfate ⊢
    cases hfate with
    | opened h1 =>
      obtain ⟨call, _, _, hc, hp, -⟩ := call_of_opened (c := c) h (by omega)
      rw [isDone_of_call hc, hp] at hd
      cases hd
    | replied | dropped => rfl
    | kept => exact hs c hd
  · rw [hr, h0]

theorem settled_of_run {tr : List (Rec (HyperServerProc M) (Ev M) (Out M))}
    (hr : (serverMachine M urlIsSsl adaptor).Run tr s) : Settled s := by
  induction hr with
  | start hi =>
    obtain ⟨settings, queues, nextId, rfl⟩ := hi
    intro c hd
    rfl
  | next hr hst ih => exact step_settled (linear_of_run hr) ih hst

/-! ## One step -/

theorem Oneshot.eq_open {o : Oneshot M} (h : 0 < o.senders) : o = .open := by
  cases o <;> first | rfl | cases h

theorem any_toCall (msgs : List (RequestMsg M)) :
    msgs.any (·.responseQueue == c) = decide (0 < tally (toCall c) msgs) := by
  rw [Bool.eq_iff_iff, decide_eq_true_iff, tally_pos_iff, List.any_eq_true]
  simp only [toCall_pos, beq_iff_eq]

/-- A call whose sender is somewhere waits for it. -/
theorem stage_of_held (hl : Linear s) (hs : Settled s) (h : 0 < held s c) :
    s.replies c = .open ∧ held s c = 1 ∧ isDone s c = false ∧
      stage s c = if pendingTo s c = 0 then .waiting else .inService := by
  have hpl := hl.places c
  have hopen : s.replies c = .open := Oneshot.eq_open (hpl ▸ h)
  have hdone : isDone s c = false := by
    by_contra hd
    have hz := hs c (by simpa using hd)
    omega
  exact ⟨hopen, by rw [hpl, hopen]; rfl, hdone, stage_eq hdone hopen rfl⟩

/-- A step that shows nothing of the call. -/
theorem still_stage (ha : acts c os = []) (hd : isDone s' c = isDone s c)
    (hr : s'.replies c = s.replies c) (hp : pendingTo s' c = pendingTo s c) :
    callProtocol.go (stage s c) (acts c os) = some (stage s' c) := by
  rw [ha, Protocol.go_nil, stage_congr hd hr hp]

/-- A step that shows one thing of a call without a response. -/
theorem moved_stage {a : Act} {p : Stage} {o : Oneshot M} {n : Nat} (hp : stage s c = p)
    (ha : acts c os = [a]) (hd : isDone s' c = false) (hr : s'.replies c = o)
    (hn : pendingTo s' c = n) (hgo : callProtocol.act p a = some (o.stage n)) :
    callProtocol.go (stage s c) (acts c os) = some (stage s' c) := by
  rw [hp, ha, Protocol.go_single, hgo, stage_eq hd hr hn]

/-- A step that uses the sender in `msg`, or drops it. -/
theorem used_stage {msg : RequestMsg M} {o : Oneshot M} {a : Act} (hl : Linear s) (hs : Settled s)
    (hpos : msg.responseQueue = c → 0 < held s c) (hd : isDone s' c = isDone s c)
    (hr : s'.replies c = if msg.responseQueue = c then o else s.replies c)
    (ha : acts c os = if msg.responseQueue = c then [a] else [])
    (hp : msg.responseQueue ≠ c → pendingTo s' c = pendingTo s c)
    (hgo : msg.responseQueue = c → held s c = 1 → ∀ n, callProtocol.act
      (if pendingTo s c = 0 then .waiting else .inService) a = some (o.stage n)) :
    callProtocol.go (stage s c) (acts c os) = some (stage s' c) := by
  by_cases hc : msg.responseQueue = c
  · obtain ⟨-, hone, hnot, hstage⟩ := stage_of_held hl hs (hpos hc)
    rw [if_pos hc] at ha hr
    exact moved_stage hstage ha (hd.trans hnot) hr rfl (hgo hc hone _)
  · rw [if_neg hc] at ha hr
    exact still_stage ha hd hr (hp hc)

/-- The end of `internal_run` loses the messages it owns. -/
theorem leave_stage (hl : Linear s) (hs : Settled s) (pc : RunPc M) :
    callProtocol.go (stage s c) (acts c (s.leave pc).2) = some (stage (s.leave pc).1 c) := by
  have hsum : tally (toCall c) s.owned = handTo s.pc c + queuedTo s c + pendingTo s c := by
    rw [HyperServerProc.owned, tally_append, tally_append]
    rfl
  have hpend : pendingTo (s.leave pc).1 c = 0 := rfl
  have hdone : isDone (s.leave pc).1 c = isDone s c := rfl
  have hos : acts c (s.leave pc).2 = List.replicate (tally (toCall c) s.owned) .dropped :=
    acts_dropped s.owned
  have hr : (s.leave pc).1.replies c =
      if s.owned.any (·.responseQueue == c) then .closed else s.replies c := rfl
  rw [any_toCall] at hr
  rcases Nat.eq_zero_or_pos (tally (toCall c) s.owned) with hz | hpos
  · rw [hos, hz, List.replicate_zero, Protocol.go_nil]
    refine congrArg some (stage_congr hdone ?_ (by omega)).symm
    rw [hr, hz]
    rfl
  · obtain ⟨-, hone, hnot, hstage⟩ := stage_of_held hl hs (c := c) (by rw [held]; omega)
    have hn : tally (toCall c) s.owned = 1 := by rw [held] at hone; omega
    have hlost : stage (s.leave pc).1 c = .lost := by
      rw [stage, hdone, hnot, hr, hn]
      rfl
    rw [hos, hn, hlost, hstage]
    split <;> rfl

theorem update_replies (q : Nat) (o : Oneshot M) :
    Function.update s.replies q o c = if q = c then o else s.replies c := by
  rw [Function.update_apply]
  exact if_congr eq_comm rfl rfl

theorem replies_drop (msg : RequestMsg M) :
    (s.drop [msg]).replies c = if msg.responseQueue = c then .closed else s.replies c := by
  simp [HyperServerProc.drop]

theorem acts_single (o : Out M) : acts c [o] = (o.act? c).toList := by
  cases h : o.act? c <;> simp [acts, h]

theorem acts_replied (site : Site) (msg : RequestMsg M) (a : InternalMsg M) :
    acts c [.replied site msg a] = if msg.responseQueue = c then [.replied site] else [] := by
  simp only [acts_single, Out.act?]
  split <;> rfl

theorem acts_drop (msg : RequestMsg M) :
    acts c [.dropped msg] = if msg.responseQueue = c then [.dropped] else [] := by
  simp only [acts_single, Out.act?]
  split <;> rfl

theorem acts_completed {i : Nat} {res : Except HttpError Response}
    (hq : ∀ o ∈ os, ∃ code version, o = .count code version) :
    acts c (os ++ [.completed i res]) = if i = c then [.completed] else [] := by
  have hnil : acts c os = [] := acts_eq_nil fun o ho => by
    obtain ⟨code, version, rfl⟩ := hq o ho
    rfl
  simp only [acts_append, hnil, List.nil_append, acts_single, Out.act?]
  split <;> rfl

/-- The send of a call that holds its own message. -/
theorem undispatched_of_sending {i : Nat} {call : Call M} {msg : RequestMsg M}
    (hc : s.calls[i]? = some call) (hm : call.pc.msg? = some msg) :
    0 < undispatched s msg.responseQueue := by
  have hpos : 0 < sendingTo s msg.responseQueue := by
    refine tally_pos_iff.2 ⟨call, List.mem_of_getElem? hc, ?_⟩
    simp [Call.holds, hm, toCall]
  rw [undispatched]
  omega

/-- A pending message is used, or dropped. -/
theorem pending_stage {id : Nat} {msg : RequestMsg M} {o : Oneshot M} {a : Act} (hl : Linear s)
    (hs : Settled s) (hm : s.pendingReq.msgs.lookup id = some msg)
    (hcalls : s'.calls = s.calls) (hpend : s'.pendingReq = s.pendingReq.erase id)
    (hr : s'.replies c = if msg.responseQueue = c then o else s.replies c)
    (ha : acts c os = if msg.responseQueue = c then [a] else [])
    (hgo : ∀ n, callProtocol.act .inService a = some (o.stage n)) :
    callProtocol.go (stage s c) (acts c os) = some (stage s' c) := by
  have hcount : toCall c msg + pendingTo s' c = pendingTo s c := by
    rw [pendingTo, pendingTo, hpend]
    exact PendingMsgs.count_erase (toCall c) hm
  have hdone : isDone s' c = isDone s c := by rw [isDone, isDone, hcalls]
  refine used_stage hl hs (fun hc => ?_) hdone hr ha (fun hc => ?_) fun hc _ n => ?_
  · rw [toCall, if_pos hc] at hcount
    rw [held]
    omega
  · rw [toCall, if_neg hc] at hcount
    omega
  · rw [toCall, if_pos hc] at hcount
    rw [if_neg (by omega)]
    exact hgo n

/-- A message that was not dispatched is used, or dropped. -/
theorem undispatched_stage {msg : RequestMsg M} {o : Oneshot M} {a : Act} (hl : Linear s)
    (hs : Settled s) (hund : msg.responseQueue = c → 0 < undispatched s c)
    (hd : isDone s' c = isDone s c) (hpend : s'.pendingReq = s.pendingReq)
    (hr : s'.replies c = if msg.responseQueue = c then o else s.replies c)
    (ha : acts c os = if msg.responseQueue = c then [a] else [])
    (hgo : ∀ n, callProtocol.act .waiting a = some (o.stage n)) :
    callProtocol.go (stage s c) (acts c os) = some (stage s' c) := by
  have hsplit : held s c = undispatched s c + pendingTo s c := rfl
  refine used_stage hl hs (fun hc => ?_) hd hr ha (fun _ => by rw [pendingTo, hpend]; rfl)
    fun hc hone n => ?_
  · have := hund hc
    omega
  · have := hund hc
    rw [if_pos (by omega)]
    exact hgo n

/-- A call gets its response. -/
theorem completed_stage {i : Nat} {call : Call M} {res : Except HttpError Response}
    (hi : s.calls[i]? = some call) (h0 : call.pc.isDone = false)
    (hs : s'.calls = s.calls.set i { call with pc := .done res }) (hr : s'.replies = s.replies)
    (hp : s'.pendingReq = s.pendingReq) (ha : acts c os = if i = c then [.completed] else [])
    (hgo : ∀ n, callProtocol.act ((s.replies i).stage n) .completed = some .completed) :
    callProtocol.go (stage s c) (acts c os) = some (stage s' c) := by
  have hdone := isDone_set (c := c) hi (.done res) hs
  by_cases hic : i = c
  · subst hic
    rw [if_pos rfl] at ha hdone
    have hnot : isDone s i = false := by rw [isDone_of_call hi, h0]
    rw [ha, Protocol.go_single, stage, stage, hnot, hdone]
    exact hgo _
  · rw [if_neg hic] at ha hdone
    exact still_stage ha hdone (by rw [hr]) (by rw [pendingTo, pendingTo, hp])

/-- **One step.** What a step shows of a call takes it from where it was to where it is. -/
theorem step_stage (hf : Fresh s) (hl : Linear s) (hs : Settled s)
    (h : s.step urlIsSsl adaptor e = some (s', os)) :
    callProtocol.go (stage s c) (acts c os) = some (stage s' c) := by
  cases moves_of_step h with
  | internal | queueSend | queueRecv | queueClosed | drawn | started | bound | recvStale
  | recvService | recvShutdown | dispatch | accepted => exact still_stage rfl rfl rfl rfl
  | elapse he =>
    obtain ⟨-, rfl⟩ := PendingMsgs.elapse_eq_some.1 he
    exact still_stage rfl rfl rfl rfl
  | startFailed | bindFailed | sendFailed | acceptFailed | procRemoveFailed | procRemoved =>
    exact leave_stage hl hs _
  | @recvPanic m q =>
    have hl' : Linear { s with internalRxQueue := q } :=
      ⟨hl.places, hl.unborn, hl.born, hl.own, hl.answer, hl.ended⟩
    exact leave_stage (s := { s with internalRxQueue := q }) hl' hs .panicked
  | recvData _ _ hm | recvError _ _ hm =>
    exact pending_stage hl hs hm rfl rfl (update_replies _ _) (acts_replied _ _ _) fun _ => rfl
  | recvNoData _ _ hm =>
    exact pending_stage hl hs hm rfl rfl (replies_drop _) (acts_drop _) fun _ => rfl
  | pulled _ _ hm =>
    exact pending_stage hl hs hm rfl rfl (update_replies _ _) (acts_replied _ _ _) fun _ => rfl
  | @refuse httpMsg q sel _ hq =>
    have hbuf : queuedTo s c = toCall c httpMsg + tally (toCall c) q.buf := Chan.tally_recv hq
    refine undispatched_stage hl hs (fun hc => ?_) rfl rfl (update_replies _ _)
      (acts_replied _ _ _) fun _ => rfl
    rw [toCall, if_pos hc] at hbuf
    rw [undispatched]
    omega
  | @sent queue request httpMsg q hp _ =>
    have hcount : (s.pendingReq.pushWithId request.id httpMsg).count (toCall c) =
        toCall c httpMsg + pendingTo s c :=
      PendingMsgs.count_push httpMsg (toCall c) (hf.request _ _ _ hp).2
    have ha : acts c [.dispatched httpMsg request queue] =
        if httpMsg.responseQueue = c then [.dispatched] else [] := by
      simp only [acts_single, Out.act?]
      split <;> rfl
    by_cases hc : httpMsg.responseQueue = c
    · have hhand : handTo s.pc c = 1 := by rw [hp, handTo_sending, toCall, if_pos hc]
      obtain ⟨hopen, hone, hnot, hstage⟩ := stage_of_held hl hs (c := c) (by rw [held]; omega)
      have hz : pendingTo s c = 0 := by rw [held] at hone; omega
      rw [hz, toCall, if_pos hc] at hcount
      rw [if_pos hz] at hstage
      exact moved_stage hstage (by rw [ha, if_pos hc]) hnot hopen hcount rfl
    · rw [toCall, if_neg hc, Nat.zero_add] at hcount
      exact still_stage (by rw [ha, if_neg hc]) rfl rfl hcount
  | conn _ hq =>
    refine still_stage (acts_eq_nil fun o ho => ?_) rfl rfl rfl
    obtain ⟨delta, version, rfl⟩ := hq o ho
    rfl
  | call => exact still_stage rfl (isDone_started rfl) rfl rfl
  | @opened i call srvName req handler hc hp =>
    have hrep : Function.update s.replies i .open c = if i = c then .open else s.replies c :=
      update_replies i .open
    have ha : acts c [.opened (RequestMsg.new s.nextId srvName req i)] =
        if i = c then [.opened] else [] := by
      simp only [acts_single, Out.act?, RequestMsg.new]
      split <;> rfl
    by_cases hic : i = c
    · subst hic
      have hun : s.replies i = .unborn := hl.unborn i fun call' hc' => by
        rw [hc] at hc'
        cases hc'
        exact hp
      have hnot : isDone s i = false := by rw [isDone_of_call hc, hp]; rfl
      have hpend : pendingTo s i = 0 := by
        have hheld := hl.places i
        rw [hun] at hheld
        exact (Nat.add_eq_zero_iff.1 hheld).2
      rw [if_pos rfl] at ha hrep
      exact moved_stage (stage_eq hnot hun hpend) ha
        ((isDone_of_set hc (by rw [hp]; rfl) rfl rfl).trans hnot) hrep hpend rfl
    · rw [if_neg hic] at ha hrep
      exact still_stage ha (isDone_of_set hc (by rw [hp]; rfl) rfl rfl) hrep rfl
  | @processed i call resp res _ hc hp hq =>
    have hun : s.replies i = .unborn := hl.unborn i fun call' hc' => by
      rw [hc] at hc'
      cases hc'
      exact hp
    exact completed_stage hc (by rw [hp]; rfl) rfl rfl rfl (acts_completed hq) fun _ => by
      rw [hun]
      rfl
  | callSent hc hp =>
    exact still_stage rfl (isDone_of_set hc (by rw [hp]; rfl) rfl rfl) rfl rfl
  | @callSendFailed i call msg handler hc hp _ =>
    exact undispatched_stage hl hs
      (fun hic => hic ▸ undispatched_of_sending hc (by rw [hp]; rfl))
      (isDone_of_set hc (by rw [hp]; rfl) rfl rfl) rfl (replies_drop msg) (acts_drop msg)
      fun _ => rfl
  | @callAnswered i call handler m hc hp hm =>
    refine completed_stage hc (by rw [hp]; rfl) rfl rfl rfl (acts_completed (countRes_counts _))
      fun _ => ?_
    cases hr : s.replies i <;> first | rfl | (rw [hr] at hm; cases hm)
  | callCancelled hc _ hlive =>
    exact still_stage rfl (isDone_of_set hc (CallPc.isDone_of_isLive hlive) rfl rfl) rfl rfl
  | @sendCancelled i call msg handler hc hp =>
    exact undispatched_stage hl hs
      (fun hic => hic ▸ undispatched_of_sending hc (by rw [hp]; rfl))
      (isDone_of_set hc (by rw [hp]; rfl) rfl rfl) rfl (replies_drop msg) (acts_drop msg)
      fun _ => rfl

/-- **The life of a call.** In every run what is shown of a call follows the protocol, and takes it
to where it is. -/
theorem calls_follow {tr : List (Rec (HyperServerProc M) (Ev M) (Out M))}
    (hr : (serverMachine M urlIsSsl adaptor).Run tr s) (c : Nat) :
    callProtocol.after (acts c (outs tr)) = some (stage s c) := by
  refine callProtocol.of_run (stage · c) rfl acts_append ?_
    (fun tr s e s' os hr hst => ?_) hr
  · rintro s ⟨settings, queues, nextId, rfl⟩
    rfl
  · exact step_stage (fresh_of_run hr) (linear_of_run hr) (settled_of_run hr) hst

end

/-- A call is dispatched, times out, and completes. -/
theorem timedOut_follows : ∃ q, (serverMachine Nat plainHttp .default).exec plainServer
      (called "svc" ++ [.recvHttp (some 5), .sent, .elapse 1, .pull 1, .callAnswered 0]) = some q ∧
      acts 0 (outs q.1) = [.opened, .dispatched, .replied .timeout, .completed] ∧
      callProtocol.after (acts 0 (outs q.1)) = some (stage q.2 0) :=
  ⟨_, (Option.some_get rfl).symm, rfl,
    calls_follow (Machine.run_get (init_server plainHttp .default) rfl) 0⟩

end Server
