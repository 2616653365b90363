import ProsaHyper.Server.Proof.Stranded

/-!
# Faults of a peer

What goes wrong on one connection reaches the server as an error of `accept_raw`, a failed
handshake, the end of `serve_connection`, or the end of a call whose client is gone. `SameBut` says
that two states differ in that peer only.

* `step_same`: a step that is not the peer's does the same in both.
* `SameBut.follows`: so does every continuation, whatever the peer does with what it has.
* `faults_isolated_iff`: in a run every fault leaves the loop and the other calls as they were, now
  and in every continuation, iff none of them is an error of `accept_raw`.
-/

set_option autoImplicit false

namespace Server

open Prosa Http

variable {M : Type}

/-- The connection serves HTTP/2: its calls do not wait for each other. -/
def Conn.multiplexed (c : Conn) : Bool := c.isHttp2 && c.pc != .handshaking

/-- The connection an event is about. -/
def Ev.onConn? : Ev M → Option Nat
  | .handshaken i _ | .served i | .call i => some i
  | _ => none

theorem onConn_of_conn {e : Ev M} {i : Nat} (h : e.conn? = some i) : e.onConn? = some i := by
  cases e <;> first | exact h | cases h

/-- The event is about none of the connections `F` and none of the calls `C`. -/
def Ev.avoids (F C : Nat → Prop) (e : Ev M) : Prop :=
  (∀ i, e.onConn? = some i → ¬ F i) ∧ ∀ c, e.call? = some c → ¬ C c

/-- The same loop with other connections, calls and reply channels. -/
def HyperServerProc.graft (t : HyperServerProc M) (cs : List Conn) (ls : List (Call M))
    (rs : Nat → Oneshot M) : HyperServerProc M :=
  { t with conns := cs, calls := ls, replies := rs }

/-- `t` and `t'` differ at most in the connections `F`, in the calls `C` and in what these are sent.
A call of `C` came on a connection of `F` or on one that serves HTTP/2. -/
structure SameBut (F C : Nat → Prop) (t t' : HyperServerProc M) : Prop where
  rest : t' = t.graft t'.conns t'.calls t'.replies
  conns : ∀ i, ¬ F i → t'.conns[i]? = t.conns[i]?
  connsLength : t'.conns.length = t.conns.length
  calls : ∀ c, ¬ C c → t'.calls[c]? = t.calls[c]?
  owner : ∀ c : Nat, t'.calls[c]?.map Call.conn = t.calls[c]?.map Call.conn
  replies : ∀ c, ¬ C c → t'.replies c = t.replies c
  known : ∀ c, C c → c < t.calls.length
  loose : ∀ c call, C c → t.calls[c]? = some call →
    F call.conn ∨ ∃ x, t.conns[call.conn]? = some x ∧ x.multiplexed = true

section
variable {F C : Nat → Prop} {t t' t₁ : HyperServerProc M}

theorem SameBut.callsLength (h : SameBut F C t t') : t'.calls.length = t.calls.length := by
  have hlt : ∀ {c : Nat}, c < t'.calls.length ↔ c < t.calls.length := by
    intro c
    have ho := congrArg Option.isSome (h.owner c)
    simp only [Option.isSome_map] at ho
    constructor <;> intro hlt
    · have hs : t'.calls[c]?.isSome = true := by simp [hlt]
      rw [ho] at hs
      simpa using hs
    · have hs : t.calls[c]?.isSome = true := by simp [hlt]
      rw [← ho] at hs
      simpa using hs
  have h₁ := hlt (c := t.calls.length)
  have h₂ := hlt (c := t'.calls.length)
  omega

theorem SameBut.symm (h : SameBut F C t t') : SameBut F C t' t := by
  refine ⟨?_, fun i hi => (h.conns i hi).symm, h.connsLength.symm, fun c hc => (h.calls c hc).symm,
    fun c => (h.owner c).symm, fun c hc => (h.replies c hc).symm,
    fun c hc => h.callsLength ▸ h.known c hc, fun c call hc hcall => ?_⟩
  · rw [h.rest]
    rfl
  · have ho := h.owner c
    rw [hcall] at ho
    obtain ⟨call', hcall', hconn⟩ := Option.map_eq_some_iff.1 ho.symm
    by_cases hF : F call.conn
    · exact .inl hF
    · rw [← hconn, h.conns _ (hconn ▸ hF)]
      exact h.loose c call' hc hcall'

/-- The other connections, calls and replies are changed alike. -/
theorem SameBut.alike (h : SameBut F C t t') (hc : t₁.conns = t.conns) (hl : t₁.calls = t.calls)
    {rs : Nat → Oneshot M} (hr : ∀ c, ¬ C c → rs c = t₁.replies c) :
    SameBut F C t₁ (t₁.graft t'.conns t'.calls rs) := by
  refine ⟨rfl, ?_, ?_, ?_, ?_, hr, ?_, ?_⟩
  · rw [hc]; exact h.conns
  · rw [hc]; exact h.connsLength
  · rw [hl]; exact h.calls
  · rw [hl]; exact h.owner
  · rw [hl]; exact h.known
  · rw [hc, hl]; exact h.loose

/-- A channel is used alike. -/
theorem SameBut.update (h : SameBut F C t t') (d : Nat) (m : Oneshot M) (c : Nat) (hc : ¬ C c) :
    Function.update t'.replies d m c = Function.update t.replies d m c := by
  by_cases hd : c = d
  · rw [hd, Function.update_self, Function.update_self]
  · rw [Function.update_of_ne hd, Function.update_of_ne hd]
    exact h.replies c hc

/-- Messages are dropped alike. -/
theorem SameBut.drop (h : SameBut F C t t') (msgs : List (RequestMsg M)) (c : Nat) (hc : ¬ C c) :
    (t'.drop msgs).replies c = (t.drop msgs).replies c := by
  have hrs : t'.replies c = t.replies c := h.replies c hc
  simp [HyperServerProc.drop, hrs]

/-- A connection is accepted alike. -/
theorem SameBut.addConn (h : SameBut F C t t') (x : Conn) :
    SameBut F C { t with conns := t.conns ++ [x] } { t' with conns := t'.conns ++ [x] } := by
  have hlen := h.connsLength
  refine ⟨?_, fun i hi => ?_, ?_, h.calls, h.owner, h.replies, h.known, fun c call hc hcall => ?_⟩
  · rw [h.rest]
    rfl
  · show (t'.conns ++ _)[i]? = (t.conns ++ _)[i]?
    rw [List.getElem?_append, List.getElem?_append, hlen, h.conns i hi]
  · show (t'.conns ++ _).length = (t.conns ++ _).length
    rw [List.length_append, List.length_append, hlen]
  · rcases h.loose c call hc hcall with hF | ⟨y, hy, hm⟩
    · exact .inl hF
    · refine .inr ⟨y, ?_, hm⟩
      rw [List.getElem?_append_left (List.getElem?_eq_some_iff.1 hy).1]
      exact hy

/-- A loop step reads only what is the same. -/
theorem loop_same {urlIsSsl : Url → Bool} {adaptor : HyperServerAdaptor} {e : Ev M}
    {os : List (Out M)} (h : SameBut F C t t') (hst : t.step urlIsSsl adaptor e = some (t₁, os))
    (hconn : e.onConn? = none) (hcall : e.call? = none) :
    ∃ t₁', t'.step urlIsSsl adaptor e = some (t₁', os) ∧ SameBut F C t₁ t₁' := by
  obtain ⟨cs, ls, rs, rfl⟩ : ∃ cs ls rs, t' = t.graft cs ls rs := ⟨_, _, _, h.rest⟩
  have same (hstep : ∃ rs', (t.graft cs ls rs).step urlIsSsl adaptor e =
        some (t₁.graft cs ls rs', os) ∧ ∀ c, ¬ C c → rs' c = t₁.replies c)
      (hc : t₁.conns = t.conns) (hl : t₁.calls = t.calls) :
      ∃ t₁', (t.graft cs ls rs).step urlIsSsl adaptor e = some (t₁', os) ∧
        SameBut F C t₁ t₁' := by
    obtain ⟨rs', hst', hr⟩ := hstep
    exact ⟨_, hst', h.alike hc hl hr⟩
  have hpc : (t.graft cs ls rs).pc = t.pc := rfl
  have hrx : (t.graft cs ls rs).internalRxQueue = t.internalRxQueue := rfl
  have hhttp : (t.graft cs ls rs).httpRx = t.httpRx := rfl
  have hpend : (t.graft cs ls rs).pendingReq = t.pendingReq := rfl
  have hserv : (t.graft cs ls rs).service = t.service := rfl
  have hqueues : (t.graft cs ls rs).queues = t.queues := rfl
  cases moves_of_step hst with
  | internal hq | queueSend hq | queueRecv hq | elapse hq =>
    exact same ⟨rs, by simp [HyperServerProc.step, HyperServerProc.graft, hq], h.replies⟩ rfl rfl
  | queueClosed | drawn => exact same ⟨rs, rfl, h.replies⟩ rfl rfl
  | startFailed hp | bindFailed hp | acceptFailed hp | procRemoved hp =>
    refine same ⟨_, ?_, h.drop _⟩ rfl rfl
    simp only [HyperServerProc.step, HyperServerProc.onStarted, HyperServerProc.onBound,
      HyperServerProc.onAccept, HyperServerProc.onProcRemoved, hpc, hp]
    rfl
  | procRemoveFailed hp =>
    refine same ⟨_, ?_, h.drop _⟩ rfl rfl
    simp only [HyperServerProc.step, HyperServerProc.onProcRemoved, hpc, hp, Bool.false_eq_true,
      if_false, Option.some.injEq] at hst ⊢
    cases congrArg (fun q => q.1.pc) hst
    rfl
  | started hp hs =>
    refine same ⟨rs, ?_, h.replies⟩ rfl rfl
    simp only [HyperServerProc.step, HyperServerProc.onStarted, hpc, hp, Option.some.injEq] at hst ⊢
    have hset := congrArg (fun q => q.1.settings) hst
    dsimp only at hset
    rw [← hset]
    rfl
  | bound hp =>
    refine same ⟨rs, ?_, h.replies⟩ rfl rfl
    simp only [HyperServerProc.step, HyperServerProc.onBound, hpc, hp]
    rfl
  | @recvPanic m q hp hq hm =>
    refine same ⟨_, ?_, h.drop _⟩ rfl rfl
    cases m <;> first
      | (simp only [HyperServerProc.step, HyperServerProc.onRecv, hpc, hrx, hp, hq]; rfl)
      | cases hm
  | @recvStale m q id hp hq hm hid =>
    refine same ⟨rs, ?_, h.replies⟩ rfl rfl
    have hpull : t.pendingReq.pullMsg id = none := PendingMsgs.pullMsg_eq_none.2 hid
    cases m <;> cases hm <;>
      (simp only [HyperServerProc.step, HyperServerProc.onRecv, hpc, hrx, hpend, hp, hq, hpull]
       rfl)
  | recvData hp hq hl hd =>
    refine same ⟨_, ?_, h.update _ _⟩ rfl rfl
    simp only [HyperServerProc.step, HyperServerProc.onRecv, hpc, hrx, hpend, hp, hq,
      PendingMsgs.pullMsg, hl, hd, Option.map_some]
    rfl
  | recvNoData hp hq hl hd =>
    refine same ⟨_, ?_, h.drop _⟩ rfl rfl
    simp only [HyperServerProc.step, HyperServerProc.onRecv, hpc, hrx, hpend, hp, hq,
      PendingMsgs.pullMsg, hl, hd, Option.map_some]
    rfl
  | recvError hp hq hl =>
    refine same ⟨_, ?_, h.update _ _⟩ rfl rfl
    simp only [HyperServerProc.step, HyperServerProc.onRecv, hpc, hrx, hpend, hp, hq,
      PendingMsgs.pullMsg, hl, Option.map_some]
    rfl
  | recvService hp hq | recvShutdown hp hq =>
    refine same ⟨rs, ?_, h.replies⟩ rfl rfl
    simp only [HyperServerProc.step, HyperServerProc.onRecv, hpc, hrx, hp, hq]
    rfl
  | dispatch hp hq hs hd =>
    refine same ⟨rs, ?_, h.replies⟩ rfl rfl
    simp only [HyperServerProc.step, HyperServerProc.onRecvHttp, hpc, hhttp, hp, hq, hserv,
      if_pos hs, RequestMsg.takeData, hd]
    rfl
  | @refuse httpMsg q sel hp hq hs hn =>
    refine same ⟨_, ?_, h.update _ _⟩ rfl rfl
    simp only [HyperServerProc.step, HyperServerProc.onRecvHttp, hpc, hhttp, hp, hq, hserv,
      if_pos hs, RequestMsg.takeData]
    cases sel with
    | none => rfl
    | some queue =>
      rw [hn.resolve_left (by simp)]
      rfl
  | sent hp hq =>
    refine same ⟨rs, ?_, h.replies⟩ rfl rfl
    simp only [HyperServerProc.step, HyperServerProc.onSent, hpc, hp, hqueues,
      if_pos (Chan.send_eq_some hq).1, hq, Option.map_some]
    rfl
  | sendFailed hp hq =>
    refine same ⟨_, ?_, h.drop _⟩ rfl rfl
    simp only [HyperServerProc.step, HyperServerProc.onSent, hpc, hp, hqueues, hq,
      Bool.false_eq_true, if_false, Option.some.injEq] at hst ⊢
    cases congrArg (fun q => q.1.pc) hst
    rfl
  | accepted hp =>
    refine ⟨t.graft (cs ++ [⟨.handshaking, false⟩]) ls rs, ?_, h.addConn ⟨.handshaking, false⟩⟩
    simp [HyperServerProc.step, HyperServerProc.onAccept, HyperServerProc.graft, hp]
  | @pulled id msg hp he hl =>
    refine same ⟨_, ?_, h.update _ _⟩ rfl rfl
    have hne : t.pendingReq.isEmpty = false := by
      by_contra hc
      have hc : t.pendingReq.isEmpty = true := by simpa using hc
      simp only [HyperServerProc.step, HyperServerProc.onPull, hp, hc, if_true] at hst
      cases hst
    have hpull : t.pendingReq.pull id = some (msg, t.pendingReq.erase id) :=
      PendingMsgs.pull_eq_some.2 ⟨he, hl, rfl⟩
    simp only [HyperServerProc.step, HyperServerProc.onPull, hpc, hpend, hp, hne, hpull,
      Bool.false_eq_true, if_false]
    rfl
  | conn he => cases hconn.symm.trans (onConn_of_conn he)
  | call => cases hconn
  | opened | processed | callSent | callSendFailed | callAnswered | callCancelled
  | sendCancelled => cases hcall

/-- Connection `i` goes on alike. -/
theorem SameBut.setConn (h : SameBut F C t t') {i : Nat} {x y : Conn} (hx : t.conns[i]? = some x)
    (hm : x.multiplexed = true → y.multiplexed = true) :
    SameBut F C { t with conns := t.conns.set i y } { t' with conns := t'.conns.set i y } := by
  refine ⟨?_, fun j hj => ?_, ?_, h.calls, h.owner, h.replies, h.known, fun c call hc hcall => ?_⟩
  · rw [h.rest]
    rfl
  · show (t'.conns.set i y)[j]? = (t.conns.set i y)[j]?
    rw [List.getElem?_set, List.getElem?_set, h.connsLength, h.conns j hj]
  · show (t'.conns.set i y).length = (t.conns.set i y).length
    rw [List.length_set, List.length_set, h.connsLength]
  · rcases h.loose c call hc hcall with hF | ⟨z, hz, hzm⟩
    · exact .inl hF
    · refine .inr ?_
      show ∃ x, (t.conns.set i y)[call.conn]? = some x ∧ x.multiplexed = true
      by_cases hi : i = call.conn
      · subst hi
        cases hx.symm.trans hz
        rw [getElem?_set_self_some hx]
        exact ⟨y, rfl, hm hzm⟩
      · rw [List.getElem?_set_ne hi]
        exact ⟨z, hz, hzm⟩

/-- Call `c` goes on alike. -/
theorem SameBut.setCall (h : SameBut F C t t') {c : Nat} {call : Call M} {pc : CallPc M}
    (hcall : t.calls[c]? = some call) (hC : ¬ C c) (hc : t₁.conns = t.conns)
    (hl : t₁.calls = t.calls.set c { call with pc }) {rs : Nat → Oneshot M}
    (hr : ∀ d, ¬ C d → rs d = t₁.replies d) :
    SameBut F C t₁ (t₁.graft t'.conns (t'.calls.set c { call with pc }) rs) := by
  have hcall' : t'.calls[c]? = some call := (h.calls c hC).trans hcall
  have hset : ∀ d, t₁.calls[d]? = if c = d then some { call with pc } else t.calls[d]? :=
    fun d => by rw [hl, getElem?_set_some hcall]
  have hset' := getElem?_set_some hcall' { call with pc }
  refine ⟨rfl, ?_, ?_, fun d hd => ?_, fun d => ?_, hr, ?_, fun d x hd hx => ?_⟩
  · rw [hc]; exact h.conns
  · rw [hc]; exact h.connsLength
  · show (t'.calls.set c { call with pc })[d]? = t₁.calls[d]?
    rw [hset, hset', h.calls d hd]
  · show (t'.calls.set c { call with pc })[d]?.map Call.conn = t₁.calls[d]?.map Call.conn
    rw [hset, hset']
    split
    · rfl
    · exact h.owner d
  · rw [hl, List.length_set]; exact h.known
  · rw [hset] at hx
    rw [hc]
    split at hx
    · rename_i hcd
      exact absurd (hcd ▸ hd) hC
    · exact h.loose d x hd hx

/-- On a connection that is not `F` and does not serve HTTP/2 the same calls have a future. -/
theorem SameBut.calling (h : SameBut F C t t') {i : Nat} {x : Conn} (hF : ¬ F i)
    (hx : t.conns[i]? = some x) (hm : x.multiplexed = false) : t'.calling i = t.calling i := by
  have sub : ∀ {a b : HyperServerProc M}, SameBut F C a b → a.conns[i]? = some x →
      a.calling i = true → b.calling i = true := by
    intro a b hab ha hcalling
    obtain ⟨call, hmem, hcall⟩ := List.any_eq_true.1 hcalling
    obtain ⟨c, hc⟩ := List.getElem?_of_mem hmem
    simp only [Bool.and_eq_true, beq_iff_eq] at hcall
    have hC : ¬ C c := by
      intro hC
      rcases hab.loose c call hC hc with hF' | ⟨y, hy, hym⟩
      · exact hF (hcall.1 ▸ hF')
      · rw [hcall.1, ha] at hy
        cases hy
        rw [hm] at hym
        cases hym
    refine List.any_eq_true.2 ⟨call, List.mem_of_getElem? ((hab.calls c hC).trans hc), ?_⟩
    simp [hcall]
  have hx' : t'.conns[i]? = some x := (h.conns i hF).trans hx
  rw [Bool.eq_iff_iff]
  exact ⟨sub h.symm hx', sub h hx⟩

/-- What lets a connection take a call, or end, is the same. -/
theorem same_guard (h : SameBut F C t t') {i : Nat} {b : Bool} (hF : ¬ F i)
    (hx : t.conns[i]? = some ⟨.serving, b⟩) : (b || !t'.calling i) = (b || !t.calling i) := by
  cases b with
  | true => rfl
  | false => rw [h.calling hF hx rfl]

/-- Another call is started alike. -/
theorem SameBut.addCall (h : SameBut F C t t') (i : Nat) :
    SameBut F C { t with calls := t.calls ++ [⟨i, .requesting⟩] }
      { t' with calls := t'.calls ++ [⟨i, .requesting⟩] } := by
  have hlen := h.callsLength
  refine ⟨?_, h.conns, h.connsLength, fun d hd => ?_, fun d => ?_, h.replies, fun d hd => ?_,
    fun d x hd hx => ?_⟩
  · rw [h.rest]
    rfl
  · show (t'.calls ++ _)[d]? = (t.calls ++ _)[d]?
    rw [List.getElem?_append, List.getElem?_append, hlen, h.calls d hd]
  · show (t'.calls ++ _)[d]?.map Call.conn = (t.calls ++ _)[d]?.map Call.conn
    rw [List.getElem?_append, List.getElem?_append, hlen]
    split
    · exact h.owner d
    · rfl
  · show d < (t.calls ++ _).length
    have := h.known d hd
    rw [List.length_append]
    omega
  · have hx : (t.calls ++ [⟨i, .requesting⟩])[d]? = some x := hx
    rw [List.getElem?_append_left (h.known d hd)] at hx
    exact h.loose d x hd hx

/-- A step of another connection does the same. -/
theorem conn_same {urlIsSsl : Url → Bool} {adaptor : HyperServerAdaptor} {e : Ev M}
    {os : List (Out M)} {i : Nat} (h : SameBut F C t t')
    (hst : t.step urlIsSsl adaptor e = some (t₁, os)) (hi : e.onConn? = some i) (hF : ¬ F i) :
    ∃ t₁', t'.step urlIsSsl adaptor e = some (t₁', os) ∧ SameBut F C t₁ t₁' := by
  cases e with
  | handshaken j r =>
    cases hi
    simp only [HyperServerProc.step, HyperServerProc.onHandshaken] at hst ⊢
    split at hst
    · rename_i b hx
      rw [h.conns i hF, hx]
      split at hst
      · cases hst
        exact ⟨_, rfl, h.setConn hx (by simp [Conn.multiplexed])⟩
      · cases hst
        exact ⟨_, rfl, h.setConn hx (by simp [Conn.multiplexed])⟩
    · cases hst
  | served j =>
    cases hi
    simp only [HyperServerProc.step, HyperServerProc.onServed] at hst ⊢
    split at hst
    · rename_i b hx
      rw [h.conns i hF, hx]
      have hguard : (b || !t'.calling i) = (b || !t.calling i) :=
        same_guard h hF hx
      simp only [hguard]
      split at hst
      · rename_i hb
        rw [if_pos hb]
        cases hst
        exact ⟨_, rfl, h.setConn hx (by simp [Conn.multiplexed])⟩
      · cases hst
    · cases hst
  | call j =>
    cases hi
    simp only [HyperServerProc.step, HyperServerProc.onCall] at hst ⊢
    split at hst
    · rename_i b hx
      rw [h.conns i hF, hx]
      have hguard : (b || !t'.calling i) = (b || !t.calling i) :=
        same_guard h hF hx
      simp only [hguard]
      split at hst
      · rename_i hb
        rw [if_pos hb]
        cases hst
        exact ⟨_, rfl, h.addCall i⟩
      · cases hst
    · cases hst
  | _ => cases hi

/-- A step of another call does the same. -/
theorem call_same {urlIsSsl : Url → Bool} {adaptor : HyperServerAdaptor} {e : Ev M}
    {os : List (Out M)} {c : Nat} (h : SameBut F C t t')
    (hst : t.step urlIsSsl adaptor e = some (t₁, os)) (hc : e.call? = some c) (hC : ¬ C c) :
    ∃ t₁', t'.step urlIsSsl adaptor e = some (t₁', os) ∧ SameBut F C t₁ t₁' := by
  obtain ⟨cs, ls, rs, rfl⟩ : ∃ cs ls rs, t' = t.graft cs ls rs := ⟨_, _, _, h.rest⟩
  have hnext : (t.graft cs ls rs).nextId = t.nextId := rfl
  have hhttp : (t.graft cs ls rs).httpRx = t.httpRx := rfl
  cases e with
  | processed d resp =>
    cases hc
    simp only [HyperServerProc.step, HyperServerProc.onProcessed] at hst ⊢
    rw [h.calls c hC, hnext]
    split at hst
    · cases hst
    · rename_i call hcall
      split at hst
      · cases resp with
        | srvReq srvName req handler =>
          cases hst
          exact ⟨_, rfl, h.setCall hcall hC (by rfl) (by rfl) (by exact h.update _ _)⟩
        | httpResp res =>
          cases hst
          exact ⟨_, rfl, h.setCall hcall hC (by rfl) (by rfl) (by exact h.replies)⟩
        | httpErr err =>
          cases hst
          exact ⟨_, rfl, h.setCall hcall hC (by rfl) (by rfl) (by exact h.replies)⟩
      · cases hst
  | callSent d =>
    cases hc
    simp only [HyperServerProc.step, HyperServerProc.onCallSent] at hst ⊢
    rw [h.calls c hC, hhttp]
    split at hst
    · cases hst
    · rename_i call hcall
      split at hst
      · split at hst
        · rename_i hrx
          rw [if_pos hrx]
          obtain ⟨q, hq, he⟩ := Option.map_eq_some_iff.1 hst
          cases he
          rw [hq]
          exact ⟨_, rfl, h.setCall hcall hC (by rfl) (by rfl) (by exact h.replies)⟩
        · rename_i hrx
          rw [if_neg hrx]
          cases hst
          exact ⟨_, rfl, h.setCall hcall hC (by rfl) (by rfl) (by exact h.drop _)⟩
      · cases hst
  | callAnswered d =>
    cases hc
    simp only [HyperServerProc.step, HyperServerProc.onCallAnswered] at hst ⊢
    rw [h.calls c hC, h.replies c hC]
    split at hst
    · cases hst
    · rename_i call hcall
      split at hst
      · obtain ⟨m, hm, he⟩ := Option.map_eq_some_iff.1 hst
        cases he
        rw [hm]
        exact ⟨_, rfl, h.setCall hcall hC (by rfl) (by rfl) (by exact h.replies)⟩
      · cases hst
  | callCancelled d =>
    cases hc
    simp only [HyperServerProc.step, HyperServerProc.onCallCancelled] at hst ⊢
    rw [h.calls c hC]
    split at hst
    · cases hst
    · rename_i call hcall
      split at hst <;> cases hst
      · exact ⟨_, rfl, h.setCall hcall hC (by rfl) (by rfl) (by exact h.replies)⟩
      · exact ⟨_, rfl, h.setCall hcall hC (by rfl) (by rfl) (by exact h.replies)⟩
      · exact ⟨_, rfl, h.setCall hcall hC (by rfl) (by rfl) (by exact h.drop _)⟩
  | _ => cases hc

/-- A step of the faulty peer that hands nothing to the processor. -/
inductive Ev.aside (F C : Nat → Prop) : Ev M → Prop
  | conn {e : Ev M} {i : Nat} : e.conn? = some i → F i → aside F C e
  | answered {c : Nat} : C c → aside F C (.callAnswered c)

/-- A connection of the peer changes in one of the states only. -/
theorem SameBut.ownConn (h : SameBut F C t t') {i : Nat} {y : Conn} (hF : F i) :
    SameBut F C { t with conns := t.conns.set i y } t' := by
  have hset : ∀ j, ¬ F j → (t.conns.set i y)[j]? = t.conns[j]? := by
    intro j hj
    by_cases hi : i = j
    · exact absurd (hi ▸ hF) hj
    · exact List.getElem?_set_ne hi
  refine ⟨h.rest, fun j hj => ?_, ?_, h.calls, h.owner, h.replies, h.known,
    fun c call hc hcall => ?_⟩
  · rw [h.conns j hj]
    exact (hset j hj).symm
  · rw [h.connsLength]
    exact List.length_set.symm
  · by_cases hj : F call.conn
    · exact .inl hj
    · refine .inr ?_
      show ∃ x, (t.conns.set i y)[call.conn]? = some x ∧ x.multiplexed = true
      rw [hset _ hj]
      exact (h.loose c call hc hcall).resolve_left hj

/-- A call of the peer changes in one of the states only. -/
theorem SameBut.ownCall (h : SameBut F C t t') {c : Nat} {call : Call M} {pc : CallPc M}
    {rs : Nat → Oneshot M} (hcall : t.calls[c]? = some call) (hC : C c)
    (hr : ∀ d, ¬ C d → rs d = t.replies d) :
    SameBut F C (t.graft t.conns (t.calls.set c { call with pc }) rs) t' := by
  have hset := getElem?_set_some hcall { call with pc }
  refine ⟨h.rest, h.conns, h.connsLength, fun d hd => ?_, fun d => ?_, fun d hd => ?_,
    fun d hd => ?_, fun d x hd hx => ?_⟩
  · rw [h.calls d hd]
    show _ = (t.calls.set c { call with pc })[d]?
    rw [hset, if_neg (fun hcd : c = d => hd (hcd ▸ hC))]
  · rw [h.owner d]
    show _ = (t.calls.set c { call with pc })[d]?.map Call.conn
    rw [hset]
    split
    · rename_i hcd
      rw [← hcd, hcall]
      rfl
    · rfl
  · rw [h.replies d hd]
    exact (hr d hd).symm
  · show d < (t.calls.set c { call with pc }).length
    rw [List.length_set]
    exact h.known d hd
  · have hx : (t.calls.set c { call with pc })[d]? = some x := hx
    rw [hset] at hx
    split at hx
    · cases hx
      exact h.loose c call hC hcall
    · exact h.loose d x hd hx

/-- The peer takes a step alone. -/
theorem aside_same {urlIsSsl : Url → Bool} {adaptor : HyperServerAdaptor} {e : Ev M}
    {os : List (Out M)} (h : SameBut F C t t') (hst : t.step urlIsSsl adaptor e = some (t₁, os))
    (ha : e.aside F C) : SameBut F C t₁ t' := by
  cases ha with
  | conn he hF =>
    cases moves_of_step hst with
    | conn he' =>
      cases he.symm.trans he'
      exact h.ownConn hF
    | _ => cases he
  | answered hC =>
    cases moves_of_step hst with
    | callAnswered hcall => exact h.ownCall hcall hC fun _ _ => rfl
    | conn he => cases he

/-- The call of the peer is cancelled. -/
theorem cancelled_same {urlIsSsl : Url → Bool} {adaptor : HyperServerAdaptor} {c : Nat}
    {os : List (Out M)} (h : SameBut F C t t') (hl : Linear t) (hC : C c)
    (hst : t.step urlIsSsl adaptor (.callCancelled c) = some (t₁, os)) : SameBut F C t₁ t' := by
  cases moves_of_step hst with
  | callCancelled hcall => exact h.ownCall hcall hC fun _ _ => rfl
  | @sendCancelled _ _ msg handler hcall hp =>
    refine h.ownCall hcall hC fun d hd => ?_
    have hown : msg.responseQueue = c := hl.own c _ msg hcall (by rw [hp]; rfl)
    have hne : msg.responseQueue ≠ d := fun hcd => hd (hcd ▸ hown ▸ hC)
    simp [hne]
  | conn he => cases he

/-- A step that is not the peer's does the same. -/
theorem step_same {urlIsSsl : Url → Bool} {adaptor : HyperServerAdaptor} {e : Ev M}
    {os : List (Out M)} (h : SameBut F C t t') (hst : t.step urlIsSsl adaptor e = some (t₁, os))
    (ha : e.avoids F C) :
    ∃ t₁', t'.step urlIsSsl adaptor e = some (t₁', os) ∧ SameBut F C t₁ t₁' := by
  cases hi : e.onConn? with
  | some i => exact conn_same h hst hi (ha.1 i hi)
  | none =>
    cases hc : e.call? with
    | some c => exact call_same h hst hc (ha.2 c hc)
    | none => exact loop_same h hst hi hc

end

/-! ## The continuations of a fault -/

open Classical in
/-- The events `es` without those about the connections `F` and the calls `C`. -/
noncomputable def others (F C : Nat → Prop) (es : List (Ev M)) : List (Ev M) :=
  es.filter fun e => e.avoids F C

/-- The calls other than `C` are where they were, and were sent the same. -/
def SameReplies (C : Nat → Prop) (t t' : HyperServerProc M) : Prop :=
  ∀ c, ¬ C c → t'.calls[c]? = t.calls[c]? ∧ t'.replies c = t.replies c

/-- Whatever happens next from `s`, it happens from `s'` without the peer, and the other calls get
the same. -/
def Follows (urlIsSsl : Url → Bool) (adaptor : HyperServerAdaptor) (F C : Nat → Prop)
    (s s' : HyperServerProc M) : Prop :=
  ∀ es tr t, (serverMachine M urlIsSsl adaptor).exec s es = some (tr, t) →
    (∀ e ∈ es, e.avoids F C ∨ e.aside F C) →
    ∃ tr' t', (serverMachine M urlIsSsl adaptor).exec s' (others F C es) = some (tr', t') ∧
      SameReplies C t t'

/-- The fault that led from `s` to `s'` leaves the loop and the other calls as they were, now and in
every continuation. -/
structure Isolated (urlIsSsl : Url → Bool) (adaptor : HyperServerAdaptor) (F C : Nat → Prop)
    (s s' : HyperServerProc M) : Prop where
  running : s'.pc = s.pc
  pending : s'.pendingReq = s.pendingReq
  httpRx : s'.httpRx = s.httpRx
  now : SameReplies C s s'
  faulty : Follows urlIsSsl adaptor F C s s'
  faultless : Follows urlIsSsl adaptor F C s' s

/-- What goes wrong on a connection, with the connections and the calls of the peer: a call over
HTTP/2 is reset alone. -/
inductive Fault (s : HyperServerProc M) : Ev M → (Nat → Prop) → (Nat → Prop) → Prop
  | accept {desc : String} :
      Fault s (.accept (.error desc)) (fun _ => False) (fun _ => False)
  | handshake {i : Nat} {desc : String} :
      Fault s (.handshaken i (.error desc)) (fun j => j = i) (fun _ => False)
  | served {i : Nat} : Fault s (.served i) (fun j => j = i) (fun _ => False)
  | cancelled {c : Nat} {call : Call M} : s.calls[c]? = some call →
      Fault s (.callCancelled c)
        (fun j => j = call.conn ∧ ∀ x, s.conns[j]? = some x → x.multiplexed = false)
        (fun d => d = c)

/-- The event is an error of `accept_raw`. -/
def Ev.acceptFailed : Ev M → Prop
  | .accept (.error _) => True
  | _ => False

section
variable {urlIsSsl : Url → Bool} {adaptor : HyperServerAdaptor} {F C : Nat → Prop}
  {s s' : HyperServerProc M} {e : Ev M} {os : List (Out M)}
  {tr : List (Rec (HyperServerProc M) (Ev M) (Out M))}

theorem SameBut.follows (h : SameBut F C s s') : Follows urlIsSsl adaptor F C s s' := by
  intro es
  induction es generalizing s s' with
  | nil =>
    intro tr t hex _
    simp only [Machine.exec, Option.some.injEq, Prod.mk.injEq] at hex
    obtain ⟨rfl, rfl⟩ := hex
    exact ⟨[], s', rfl, fun c hc => ⟨h.calls c hc, h.replies c hc⟩⟩
  | cons e es ih =>
    intro tr t hex hes
    have hrest : ∀ e ∈ es, e.avoids F C ∨ e.aside F C :=
      fun e he => hes e (List.mem_cons_of_mem _ he)
    simp only [Machine.exec] at hex
    split at hex
    · cases hex
    · rename_i s₁ os hst
      obtain ⟨q, hq, he⟩ := Option.map_eq_some_iff.1 hex
      cases he
      by_cases ha : e.avoids F C
      · obtain ⟨s₁', hst', h₁⟩ := step_same h hst ha
        obtain ⟨tr', t', hex', hsame⟩ := ih h₁ _ _ hq hrest
        refine ⟨⟨s', e, os, s₁'⟩ :: tr', t', ?_, hsame⟩
        have hst' : (serverMachine M urlIsSsl adaptor).step s' e = some (s₁', os) := hst'
        have hex' : (serverMachine M urlIsSsl adaptor).exec s₁' (others F C es) = some (tr', t') :=
          hex'
        rw [others, List.filter_cons_of_pos (by simpa using ha)]
        simp only [Machine.exec, hst']
        rw [← others, hex']
        rfl
      · have h₁ := aside_same h hst ((hes e List.mem_cons_self).resolve_left ha)
        obtain ⟨tr', t', hex', hsame⟩ := ih h₁ _ _ hq hrest
        refine ⟨tr', t', ?_, hsame⟩
        rw [others, List.filter_cons_of_neg (by simpa using ha)]
        exact hex'

theorem SameBut.isolated (h : SameBut F C s s') : Isolated urlIsSsl adaptor F C s s' := by
  refine ⟨?_, ?_, ?_, fun c hc => ⟨h.calls c hc, h.replies c hc⟩, h.follows, h.symm.follows⟩
  · rw [h.rest]
    rfl
  · rw [h.rest]
    rfl
  · rw [h.rest]
    rfl

/-- Nothing differs yet. -/
theorem SameBut.refl (known : ∀ c, C c → c < s.calls.length)
    (loose : ∀ c call, C c → s.calls[c]? = some call →
      F call.conn ∨ ∃ x, s.conns[call.conn]? = some x ∧ x.multiplexed = true) :
    SameBut F C s s :=
  ⟨rfl, fun _ _ => rfl, rfl, fun _ _ => rfl, fun _ => rfl, fun _ _ => rfl, known, loose⟩

/-- A fault of a peer that was accepted is its own. -/
theorem fault_same (hl : Linear s) (hst : s.step urlIsSsl adaptor e = some (s', os))
    (hf : Fault s e F C) (ha : ¬ e.acceptFailed) : SameBut F C s s' := by
  cases hf with
  | accept => exact absurd trivial ha
  | @handshake i | @served i =>
    have h0 : SameBut (fun j => j = i) (fun _ => False) s s :=
      .refl (fun _ hc => False.elim hc) (fun _ _ hc => False.elim hc)
    exact (aside_same h0 hst (.conn rfl rfl)).symm
  | @cancelled c call hcall =>
    refine (cancelled_same (C := fun d => d = c)
      (.refl (fun d hd => ?_) (fun d call' hd hcall' => ?_)) hl rfl hst).symm
    · rw [hd]
      exact (List.getElem?_eq_some_iff.1 hcall).1
    · rw [hd, hcall] at hcall'
      cases hcall'
      by_cases hm : ∀ x, s.conns[call.conn]? = some x → x.multiplexed = false
      · exact .inl ⟨rfl, hm⟩
      · refine .inr ?_
        push Not at hm
        obtain ⟨x, hx, hxm⟩ := hm
        exact ⟨x, hx, by simpa using hxm⟩

/-- An error of `accept_raw` moves the loop. -/
theorem acceptFailed_moves (hst : s.step urlIsSsl adaptor e = some (s', os))
    (ha : e.acceptFailed) :
    Fault s e (fun _ => False) (fun _ => False) ∧ s'.pc ≠ s.pc := by
  cases moves_of_step hst with
  | acceptFailed hp =>
    refine ⟨.accept, fun hpc => ?_⟩
    rw [hp] at hpc
    cases hpc
  | conn he => cases e <;> first | exact False.elim ha | cases he
  | _ => exact False.elim ha

/-- **Faults of a peer are contained** in a run iff none of them is an error of `accept_raw`. -/
theorem faults_isolated_iff (hr : (serverMachine M urlIsSsl adaptor).Run tr s) :
    (∀ r ∈ tr, ∀ F C, Fault r.pre r.ev F C → Isolated urlIsSsl adaptor F C r.pre r.post) ↔
      Machine.Along (fun _ e => ¬ e.acceptFailed) tr := by
  constructor
  · intro h r hm ha
    obtain ⟨-, hst⟩ := hr.step_of_mem hm
    obtain ⟨hf, hne⟩ := acceptFailed_moves hst ha
    exact hne (h r hm _ _ hf).running
  · intro h r hm F C hf
    obtain ⟨⟨tr₀, hr₀⟩, hst⟩ := hr.step_of_mem hm
    exact (fault_same (linear_of_run hr₀) hst hf (h r hm)).isolated

end

/-- `accept_raw` fails while a call waits for its answer: the loop ends, and the sender of the call
is dropped. -/
theorem acceptFailed_uncontained : ∃ q s' os,
    (serverMachine Nat plainHttp .default).exec plainServer
      (called "svc" ++ [.recvHttp (some 5), .sent]) = some q ∧
      (serverMachine Nat plainHttp .default).Run
        (q.1 ++ [⟨q.2, .accept (.error "Too many open files"), os, s'⟩]) s' ∧
      Fault q.2 (.accept (.error "Too many open files")) (fun _ => False) (fun _ => False) ∧
      ¬ Isolated plainHttp .default (fun _ => False) (fun _ => False) q.2 s' ∧
      q.2.pendingReq.msgs.keys = [1] ∧ s'.pc.isOver = true ∧ s'.replies 0 = .closed :=
  ⟨_, _, _, (Option.some_get rfl).symm, .next (Machine.run_get (init_server _ _) rfl) rfl, .accept,
    fun h => absurd h.running (fun h => by cases h), rfl, rfl, rfl⟩

/-- A handshake fails and a client goes away, while the call waits for its answer. -/
theorem peersFail_isolated : ∃ q, (serverMachine Nat plainHttp .default).exec plainServer
      (called "svc" ++ [.recvHttp (some 5), .sent, .accept (.ok ()), .handshaken 1 (.error "eof"),
        .callCancelled 0, .served 0]) = some q ∧
      ∀ r ∈ q.1, ∀ F C, Fault r.pre r.ev F C →
        Isolated plainHttp .default F C r.pre r.post := by
  refine ⟨_, (Option.some_get rfl).symm,
    (faults_isolated_iff (Machine.run_get (init_server _ _) rfl)).2 ?_⟩
  refine Machine.along_exec (C := fun _ (e : Ev Nat) => ¬ e.acceptFailed)
    (Option.some_get (by rfl)).symm ?_
  simp [called, Ev.acceptFailed]

end Server
