import ProsaHyper.Server.Proof.Balance

/-!
# No call is stranded

The one-shot sender of a call that waits is in exactly one place, as long as it was neither used
nor dropped. `Linear` is the invariant: the places of the sender count what its channel says.

* `call_of_step`: what a step does to one call.
* `linear_of_run`: the invariant, over every run and after every end of `internal_run`.
* `calls_housed`: a waiting call has its sender in one place; a step that takes it out uses it or
  drops it once; then the call completes; and once `internal_run` ended, every call can complete.
-/

set_option autoImplicit false

namespace Server

open Prosa Http

variable {M : Type}

/-- The call is in `wait_intern_resp`. -/
def CallPc.inWait : CallPc M → Bool
  | .sending _ _ | .waiting _ => true
  | _ => false

/-- The number of senders that exist. -/
def Oneshot.senders : Oneshot M → Nat
  | .open => 1
  | _ => 0

theorem Oneshot.senders_le (o : Oneshot M) : o.senders ≤ 1 := by
  cases o <;> simp [senders]

theorem Oneshot.senders_of_recv {o : Oneshot M} {m : Option (InternalMsg M)} (h : o.recv = some m) :
    o.senders = 0 := by
  cases o <;> first | rfl | cases h

/-- The messages a one-shot channel can carry. -/
def isReply : InternalMsg M → Bool
  | .response msg => msg.data.isSome
  | .error _ => true
  | _ => false

/-! ## One call -/

/-- How a call goes from one await point to the next in a step with outputs `os`. -/
inductive Advances (c : Nat) (os : List (Out M)) : CallPc M → CallPc M → Prop
  | opened {msg : RequestMsg M} {handler : SrvRespHandler M} : msg.responseQueue = c →
      .opened msg ∈ os → Advances c os .requesting (.sending msg handler)
  | processed {res : Except HttpError Response} : Advances c os .requesting (.done res)
  | sent {msg : RequestMsg M} {handler : SrvRespHandler M} :
      Advances c os (.sending msg handler) (.waiting handler)
  | answered {handler : SrvRespHandler M} {res : Except HttpError Response} :
      Advances c os (.waiting handler) (.done res)
  | cancelled {pc : CallPc M} : pc.isLive = true → Advances c os pc .cancelled

namespace Advances

variable {c : Nat} {os : List (Out M)} {pc pc' : CallPc M} (h : Advances c os pc pc')
include h

theorem ne_requesting : pc' ≠ .requesting := by
  cases h <;> rintro ⟨⟩

theorem inWait (hw : pc'.inWait = true) : pc.inWait = true ∨ 0 < tally (openedOf c) os := by
  cases h with
  | opened hq ho => exact .inr (tally_pos_iff.2 ⟨_, ho, toCall_pos.2 hq⟩)
  | sent => exact .inl rfl
  | _ => cases hw

theorem own {msg : RequestMsg M} (hm : pc'.msg? = some msg) :
    msg.responseQueue = c ∧ .opened msg ∈ os := by
  cases h with
  | opened hq ho => cases hm; exact ⟨hq, ho⟩
  | _ => cases hm

end Advances

/-- The call that is resumed. -/
def Ev.call? : Ev M → Option Nat
  | .processed c _ | .callSent c | .callAnswered c | .callCancelled c => some c
  | _ => none

section
variable {urlIsSsl : Url → Bool} {adaptor : HyperServerAdaptor} {s s' : HyperServerProc M}
  {e : Ev M} {os : List (Out M)}

/-- What a step does to the call `c`. -/
inductive CallStep (s s' : HyperServerProc M) (e : Ev M) (os : List (Out M)) (c : Nat) : Prop
  | same : s'.calls[c]? = s.calls[c]? → CallStep s s' e os c
  | started {i : Nat} : s.calls[c]? = none → s'.calls[c]? = some ⟨i, .requesting⟩ →
      CallStep s s' e os c
  | advanced {call : Call M} {pc : CallPc M} : e.call? = some c → s.calls[c]? = some call →
      s'.calls[c]? = some { call with pc } → Advances c os call.pc pc → CallStep s s' e os c

theorem CallStep.set {i c : Nat} {call : Call M} {pc : CallPc M} (he : e.call? = some i)
    (hi : s.calls[i]? = some call) (hs : s'.calls = s.calls.set i { call with pc })
    (ha : Advances i os call.pc pc) : CallStep s s' e os c := by
  by_cases hc : i = c
  · subst hc
    have hlt : i < s.calls.length := (List.getElem?_eq_some_iff.1 hi).1
    exact .advanced he hi (by rw [hs, List.getElem?_set_self hlt]) ha
  · exact .same (by rw [hs, List.getElem?_set_ne hc])

theorem call_of_step (c : Nat) (h : s.step urlIsSsl adaptor e = some (s', os)) :
    CallStep s s' e os c := by
  cases moves_of_step h with
  | @call i =>
    by_cases hc : c < s.calls.length
    · exact .same (List.getElem?_append_left hc)
    · have hnone : s.calls[c]? = none := List.getElem?_eq_none (Nat.le_of_not_lt hc)
      by_cases heq : c = s.calls.length
      · subst heq
        exact .started (i := i) hnone (by simp)
      · refine .same ?_
        rw [hnone, List.getElem?_eq_none]
        simp only [List.length_append, List.length_singleton]
        omega
  | opened hc hp => exact .set rfl hc rfl (by rw [hp]; exact .opened rfl List.mem_cons_self)
  | processed hc hp => exact .set rfl hc rfl (by rw [hp]; exact .processed)
  | callSent hc hp | callSendFailed hc hp => exact .set rfl hc rfl (by rw [hp]; exact .sent)
  | callAnswered hc hp => exact .set rfl hc rfl (by rw [hp]; exact .answered)
  | callCancelled hc _ hl => exact .set rfl hc rfl (.cancelled hl)
  | sendCancelled hc hp => exact .set rfl hc rfl (.cancelled (by rw [hp]; rfl))
  | _ => exact .same rfl

/-- Only a call that is processing its request opens its channel, and it goes on to send. -/
theorem call_of_opened {c : Nat} (h : s.step urlIsSsl adaptor e = some (s', os))
    (ho : 0 < tally (openedOf c) os) : ∃ call msg handler, s.calls[c]? = some call ∧
      call.pc = .requesting ∧ s'.calls[c]? = some { call with pc := .sending msg handler } := by
  have silent {os : List (Out M)} (hq : os.all Out.quiet = true) : ¬ 0 < tally (openedOf c) os := by
    rw [(silent_of_quiet c hq).opened]
    exact Nat.lt_irrefl 0
  cases moves_of_step h with
  | opened hc hp =>
    have hi : _ = c := toCall_pos.1 (by simpa using ho)
    subst hi
    exact ⟨_, _, _, hc, hp, getElem?_set_self_some hc _⟩
  | conn _ hq => exact absurd ho (silent (all_quiet_of_plain fun _ => plain_socket hq))
  | processed _ _ hq => exact absurd ho (silent (all_quiet_of_plain fun _ => plain_completed hq))
  | callAnswered =>
    exact absurd ho (silent (all_quiet_of_plain fun _ => plain_completed (countRes_counts _)))
  | startFailed | bindFailed | sendFailed | acceptFailed | procRemoveFailed | recvPanic
  | procRemoved => simp [HyperServerProc.leave, tally_map] at ho
  | _ => simp at ho

/-- What is sent on a channel is the data of a response or an error. -/
theorem replied_isReply {site : Site} {msg : RequestMsg M} {a : InternalMsg M}
    (h : s.step urlIsSsl adaptor e = some (s', os)) (ho : .replied site msg a ∈ os) :
    isReply a = true := by
  cases reply_of_step h ho <;> rfl

/-! ## The invariant -/

/-- The places of the sender of a call count what its channel says; the message a call sends is its
own, and once `internal_run` ended only the sends of the calls are left as places. -/
structure Linear (s : HyperServerProc M) : Prop where
  places : ∀ c, held s c = (s.replies c).senders
  unborn : ∀ c, (∀ call : Call M, s.calls[c]? = some call → call.pc = .requesting) →
    s.replies c = .unborn
  born : ∀ c (call : Call M), s.calls[c]? = some call → call.pc.inWait = true →
    s.replies c ≠ .unborn
  own : ∀ (c : Nat) (call : Call M) msg, s.calls[c]? = some call → call.pc.msg? = some msg →
    msg.responseQueue = c
  answer : ∀ c a, s.replies c = .sent a → isReply a = true
  ended : s.pc.isOver = true → s.httpRx.rx = false ∧ s.pendingReq.all = []

theorem init_linear (settings : HyperServerSettings) (queues : Nat → Chan (InternalMsg M))
    (nextId : Nat) : Linear (HyperServerProc.new settings queues nextId) where
  places _ := rfl
  unborn _ _ := rfl
  born _ _ h := by simp [HyperServerProc.new] at h
  own _ _ _ h := by simp [HyperServerProc.new] at h
  answer _ _ h := by simp [HyperServerProc.new] at h
  ended h := by simp [HyperServerProc.new, RunPc.isOver] at h

/-- Once `internal_run` ended, it stays so. -/
theorem step_over (rx : s.pc.isOver = true → s.httpRx.rx = false ∧ s.pendingReq.all = [])
    (h : s.step urlIsSsl adaptor e = some (s', os)) (ho : s'.pc.isOver = true) :
    s'.httpRx.rx = false ∧ s'.pendingReq.all = [] := by
  cases moves_of_step h with
  | elapse he =>
    obtain ⟨-, rfl⟩ := PendingMsgs.elapse_eq_some.1 he
    exact rx ho
  | startFailed | bindFailed | recvPanic | sendFailed | acceptFailed | procRemoved
  | procRemoveFailed => exact ⟨rfl, rfl⟩
  | started | bound | recvShutdown | dispatch | sent => cases ho
  | recvData hp | recvNoData hp | recvError hp | pulled hp | refuse hp =>
    simp only [HyperServerProc.drop, hp] at ho
    cases ho
  | callSent _ _ hq =>
    have hrx := (Chan.send_eq_some hq).1
    rw [(rx ho).1] at hrx
    cases hrx
  | _ => exact rx ho

/-- The books of a call, by its channel. -/
theorem Linear.books (hs : Linear s) (hf : Fresh s) (c : Nat)
    (h : s.step urlIsSsl adaptor e = some (s', os)) :
    held s' c + tally (repliedOf c) os + tally (droppedOf c) os =
      (s.replies c).senders + tally (openedOf c) os := by
  rw [← hs.places c]
  exact (step_balanced c hf h).sender

/-- **A step keeps the invariant.** -/
theorem step_linear (hf : Fresh s) (hs : Linear s) (h : s.step urlIsSsl adaptor e = some (s', os)) :
    Linear s' := by
  have books (c : Nat) := hs.books hf c h
  obtain ⟨-, hunborn, hborn, hown, hanswer, hover⟩ := hs
  refine ⟨fun c => ?_, fun c hreq => ?_, fun c call hc hw => ?_, fun c call msg hc hm => ?_,
    fun c a ha => ?_, step_over hover h⟩
  · have hb := books c
    have hle := (s.replies c).senders_le
    have hfate := fate_of_step c h
    generalize s'.replies c = o at hfate ⊢
    cases hfate with
    | opened h1 h2 h3 =>
      obtain ⟨call, _, _, hc, hp, -⟩ := call_of_opened (c := c) h (by omega)
      have hu : s.replies c = .unborn := hunborn c fun call' hc' => by
        rw [hc] at hc'
        cases hc'
        exact hp
      rw [hu, h1, h2, h3] at hb
      exact hb
    | replied _ _ h1 h2 h3 => simp only [Oneshot.senders]; omega
    | dropped h1 h2 h3 => simp only [Oneshot.senders]; omega
    | kept h1 h2 h3 => omega
  · -- the call is as it was, or has just been started
    have hu : s.replies c = .unborn := hunborn c fun call hc => by
      cases call_of_step c h with
      | same heq => exact hreq call (heq.trans hc)
      | started hn => rw [hc] at hn; cases hn
      | advanced _ hc' hc'' ha =>
        exact absurd (hreq _ hc'') ha.ne_requesting
    have hb := books c
    have hfate := fate_of_step c h
    rw [hu] at hb hfate
    simp only [Oneshot.senders] at hb
    generalize s'.replies c = o at hfate ⊢
    cases hfate with
    | opened h1 =>
      obtain ⟨call, _, _, -, -, hc⟩ := call_of_opened (c := c) h (by omega)
      cases hreq _ hc
    | replied _ _ h1 h2 h3 => omega
    | dropped h1 h2 h3 => omega
    | kept => rfl
  · have hnew : s.replies c ≠ .unborn ∨ 0 < tally (openedOf c) os := by
      cases call_of_step c h with
      | same heq => exact .inl (hborn c call (heq ▸ hc) hw)
      | started _ hc' =>
        rw [hc] at hc'
        cases hc'
        cases hw
      | advanced _ hc₀ hc' ha =>
        rw [hc] at hc'
        cases hc'
        exact (ha.inWait hw).imp (hborn c _ hc₀) id
    have hfate := fate_of_step c h
    generalize s'.replies c = o at hfate ⊢
    cases hfate with
    | kept h1 => exact hnew.resolve_right (by omega)
    | _ => simp
  · cases call_of_step c h with
    | same heq => exact hown c call msg (heq ▸ hc) hm
    | started _ hc' =>
      rw [hc] at hc'
      cases hc'
      cases hm
    | advanced _ _ hc' ha =>
      rw [hc] at hc'
      cases hc'
      exact (ha.own hm).1
  · have hfate := fate_of_step c h
    rw [ha] at hfate
    generalize hx : s.replies c = x at hfate
    cases hfate with
    | replied ho => exact replied_isReply h ho
    | kept => exact hanswer c a hx

theorem linear_of_run {tr : List (Rec (HyperServerProc M) (Ev M) (Out M))}
    (hr : (serverMachine M urlIsSsl adaptor).Run tr s) : Linear s := by
  induction hr with
  | start hi =>
    obtain ⟨settings, queues, nextId, rfl⟩ := hi
    exact init_linear settings queues nextId
  | next hr hst ih => exact step_linear (fresh_of_run hr) ih hst

end

/-! ## Every call completes -/

/-- The call `c` is in `wait_intern_resp` and its channel was neither used nor dropped. -/
def Waits (s : HyperServerProc M) (c : Nat) : Prop :=
  ∃ call, s.calls[c]? = some call ∧ call.pc.inWait = true ∧ (s.replies c).recv = none

/-- What a call answers to what its channel said. The status 503 rests on the contract of
`response_builder`. -/
inductive Answers (adaptor : HyperServerAdaptor) (handler : SrvRespHandler M) :
    Option (InternalMsg M) → Except HttpError Response → Prop
  | data {id : Nat} {data : M} :
      Answers adaptor handler (some (.response ⟨id, some data⟩)) (handler (.ok data))
  | error {err : ErrorMsg M} : Answers adaptor handler (some (.error err)) (handler (.error err))
  | unavailable {res : Except HttpError Response} :
      res = (adaptor.responseBuilder 503).body ["Can't handle your request for now"] →
      (∀ r, res = .ok r → r.status = 503) → Answers adaptor handler none res

/-- A sender that left its place was used once, or dropped once. -/
inductive Released (c : Nat) (os : List (Out M)) : Oneshot M → Prop
  | used {site : Site} {msg : RequestMsg M} {a : InternalMsg M} : .replied site msg a ∈ os →
      msg.responseQueue = c → tally (repliedOf c) os = 1 → tally (droppedOf c) os = 0 →
      Released c os (.sent a)
  | dropped : tally (repliedOf c) os = 0 → tally (droppedOf c) os = 1 → Released c os .closed

/-- The steps of the call `c` in `wait_intern_resp`. -/
def resumes (c : Nat) (e : Ev M) : Prop := e = .callSent c ∨ e = .callAnswered c

/-- The call `c` is not stranded in `s`. -/
structure Housed (urlIsSsl : Url → Bool) (adaptor : HyperServerAdaptor) (s : HyperServerProc M)
    (c : Nat) : Prop where
  /-- its sender is in one place -/
  place : Waits s c → held s c = 1
  /-- a step that takes it out uses it once or drops it -/
  released : ∀ e s' os, s.step urlIsSsl adaptor e = some (s', os) → Waits s c → held s' c = 0 →
    Released c os (s'.replies c)
  /-- once it left, the call can complete, and stays able to -/
  completes : ∀ call handler m, s.calls[c]? = some call → call.pc = .waiting handler →
    (s.replies c).recv = some m → ∃ res, Answers adaptor handler m res ∧
      s.step urlIsSsl adaptor (.callAnswered c) =
        some ({ s with calls := s.calls.set c { call with pc := .done res } },
          countRes res ++ [.completed c res]) ∧
      ∀ e s' os, s.step urlIsSsl adaptor e = some (s', os) → e.call? ≠ some c →
        s'.calls[c]? = some call ∧ s'.replies c = s.replies c
  /-- no call is left waiting by the end of `internal_run` -/
  ended : s.pc.isOver = true → ∀ call, s.calls[c]? = some call → call.pc.inWait = true →
    (∀ handler, call.pc = .waiting handler → ¬ Waits s c) ∧
      ∃ t call' res, (serverMachine M urlIsSsl adaptor).Leads (resumes c) s t ∧
        t.calls[c]? = some call' ∧ call'.pc = .done res

section
variable {urlIsSsl : Url → Bool} {adaptor : HyperServerAdaptor} {s s' : HyperServerProc M}
  {e : Ev M} {os : List (Out M)}

theorem Linear.waits_open (hs : Linear s) {c : Nat} (hw : Waits s c) : s.replies c = .open := by
  obtain ⟨call, hc, hi, hrecv⟩ := hw
  have hb := hs.born c call hc hi
  generalize s.replies c = o at hb hrecv
  cases o with
  | unborn => exact absurd rfl hb
  | «open» => rfl
  | sent | closed => cases hrecv

/-- What a used or dropped sender makes the call answer. -/
theorem Linear.answers (hs : Linear s) {c : Nat} {m : Option (InternalMsg M)}
    (h : (s.replies c).recv = some m) (handler : SrvRespHandler M) :
    Answers adaptor handler m (waitInternResp adaptor handler m) := by
  have hanswer := hs.answer c
  generalize s.replies c = o at h hanswer
  cases o with
  | unborn | «open» => cases h
  | closed => cases h; exact .unavailable rfl fun r hr => (Builder.body_status hr).1
  | sent a =>
    cases h
    have ha := hanswer a rfl
    match a, ha with
    | .response ⟨id, some data⟩, _ => exact .data
    | .error err, _ => exact .error

/-- Once the sender is gone, a call stays as it is until it is resumed. -/
theorem Linear.stays (hs : Linear s) (hf : Fresh s) {c : Nat} {call : Call M}
    (hc : s.calls[c]? = some call) (hw : call.pc.inWait = true) (h0 : (s.replies c).senders = 0)
    (h : s.step urlIsSsl adaptor e = some (s', os)) (he : e.call? ≠ some c) :
    s'.calls[c]? = some call ∧ s'.replies c = s.replies c := by
  have hcall : s'.calls[c]? = some call := by
    cases call_of_step c h with
    | same heq => exact heq.trans hc
    | started hn => rw [hc] at hn; cases hn
    | advanced he' => exact absurd he' he
  refine ⟨hcall, ?_⟩
  have hopen : tally (openedOf c) os = 0 := by
    by_contra hne
    obtain ⟨call', _, _, hc', hp, -⟩ := call_of_opened (c := c) h (by omega)
    rw [hc] at hc'
    cases hc'
    rw [hp] at hw
    cases hw
  have hb := hs.books hf c h
  have hfate := fate_of_step c h
  generalize s'.replies c = o at hfate ⊢
  cases hfate with
  | opened h1 | replied _ _ h1 h2 | dropped h1 h2 h3 => omega
  | kept => rfl

/-- Once `internal_run` ended, the sender of a call can only be in its own send. -/
theorem Linear.held_over (hs : Linear s) (ho : s.pc.isOver = true) (c : Nat) :
    held s c = sendingTo s c := by
  obtain ⟨hrx, hp⟩ := hs.ended ho
  have hq : queuedTo s c = 0 := by rw [queuedTo, s.httpRx.closed hrx]; rfl
  have hhand : handTo s.pc c = 0 := by
    cases hpc : s.pc <;> first | rfl | (rw [hpc] at ho; cases ho)
  have hpend : pendingTo s c = 0 := by rw [pendingTo, PendingMsgs.count, hp]; rfl
  rw [held, hq, hhand, hpend]
  rfl

/-- A place in a send is the send of the call itself. -/
theorem Linear.sending_of_pos (hs : Linear s) {c : Nat} (h : 0 < sendingTo s c) :
    ∃ call msg, s.calls[c]? = some call ∧ call.pc.msg? = some msg := by
  obtain ⟨call, hm, hpos⟩ := tally_pos_iff.1 h
  obtain ⟨i, hi⟩ := List.mem_iff_getElem?.1 hm
  obtain ⟨msg, hmsg, hc⟩ := tally_pos_iff.1 hpos
  have hmsg : call.pc.msg? = some msg := by simpa using hmsg
  rw [toCall_pos, hs.own i call msg hi hmsg] at hc
  subst hc
  exact ⟨call, msg, hi, hmsg⟩

/-- Once `internal_run` ended, a call that waits on its channel has no sender. -/
theorem Linear.not_waits (hs : Linear s) (ho : s.pc.isOver = true) {c : Nat} {call : Call M}
    {handler : SrvRespHandler M} (hc : s.calls[c]? = some call) (hp : call.pc = .waiting handler) :
    ¬ Waits s c := by
  intro hw
  have hpos : 0 < sendingTo s c := by
    rw [← hs.held_over ho, hs.places, hs.waits_open hw]
    exact Nat.one_pos
  obtain ⟨call', msg, hc', hm⟩ := hs.sending_of_pos hpos
  rw [hc] at hc'
  cases hc'
  rw [hp] at hm
  cases hm

variable (urlIsSsl) (adaptor) in
/-- A used or dropped sender lets the call complete. -/
theorem Linear.answered (hs : Linear s) {c : Nat} {call : Call M} {handler : SrvRespHandler M}
    {m : Option (InternalMsg M)} (hc : s.calls[c]? = some call) (hp : call.pc = .waiting handler)
    (hm : (s.replies c).recv = some m) : ∃ res, Answers adaptor handler m res ∧
      s.step urlIsSsl adaptor (.callAnswered c) =
        some ({ s with calls := s.calls.set c { call with pc := .done res } },
          countRes res ++ [.completed c res]) := by
  refine ⟨_, hs.answers hm handler, ?_⟩
  simp only [HyperServerProc.step, HyperServerProc.onCallAnswered, hc, hp, hm, Option.map_some,
    HyperServerProc.setCall]

/-- Once `internal_run` ended, every call in `wait_intern_resp` completes by its own steps. -/
theorem Linear.finishes (hs : Linear s) (hf : Fresh s) (ho : s.pc.isOver = true) {c : Nat}
    {call : Call M} (hc : s.calls[c]? = some call) (hw : call.pc.inWait = true) :
    ∃ t call' res, (serverMachine M urlIsSsl adaptor).Leads (resumes c) s t ∧
      t.calls[c]? = some call' ∧ call'.pc = .done res := by
  have hlt : c < s.calls.length := (List.getElem?_eq_some_iff.1 hc).1
  -- from a state where it waits on its channel, one step is enough
  have last : ∀ {s : HyperServerProc M} {call : Call M} {handler : SrvRespHandler M}, Linear s →
      s.pc.isOver = true → s.calls[c]? = some call → call.pc = .waiting handler →
      ∃ t call' res, (serverMachine M urlIsSsl adaptor).Leads (resumes c) s t ∧
        t.calls[c]? = some call' ∧ call'.pc = .done res := by
    intro s call handler hs ho hc hp
    have hrecv : (s.replies c).recv ≠ none := fun hn =>
      hs.not_waits ho hc hp ⟨call, hc, by rw [hp]; rfl, hn⟩
    obtain ⟨m, hm⟩ := Option.ne_none_iff_exists'.1 hrecv
    obtain ⟨res, -, hst⟩ := hs.answered urlIsSsl adaptor hc hp hm
    have hl := Machine.Leads.step (S := serverMachine M urlIsSsl adaptor) (C := resumes c)
      (e := .callAnswered c) hst (.inr rfl)
    exact ⟨_, _, res, hl, getElem?_set_self_some hc _, rfl⟩
  cases hp : call.pc with
  | waiting handler => exact last hs ho hc hp
  | sending msg handler =>
    have hst : s.step urlIsSsl adaptor (.callSent c) = some
        ((s.setCall c call (.waiting handler)).drop [msg], [.dropped msg]) := by
      simp only [HyperServerProc.step, HyperServerProc.onCallSent, hc, hp, (hs.ended ho).1,
        Bool.false_eq_true, if_false]
    obtain ⟨t, call', res, hl, ht⟩ := last (step_linear hf hs hst) ho
      (List.getElem?_set_self hlt) rfl
    have hfirst := Machine.Leads.step (S := serverMachine M urlIsSsl adaptor) (C := resumes c)
      (e := .callSent c) hst (.inl rfl)
    exact ⟨t, call', res, hfirst.trans hl, ht⟩
  | requesting | done | cancelled => rw [hp] at hw; cases hw

/-- **No call is stranded**, in any state of any run. -/
theorem calls_housed {tr : List (Rec (HyperServerProc M) (Ev M) (Out M))}
    (hr : (serverMachine M urlIsSsl adaptor).Run tr s) (c : Nat) :
    Housed urlIsSsl adaptor s c := by
  have hs := linear_of_run hr
  have hf := fresh_of_run hr
  refine ⟨fun hw => ?_, fun e s' os h hw h0 => ?_, fun call handler m hc hp hm => ?_,
    fun ho call hc hw => ?_⟩
  · rw [hs.places c, hs.waits_open hw]
    rfl
  · have hb := hs.books hf c h
    have hfate := fate_of_step c h
    rw [hs.waits_open hw] at hb hfate
    simp only [Oneshot.senders] at hb
    generalize s'.replies c = o at hfate ⊢
    cases hfate with
    | opened h1 =>
      obtain ⟨call, hc, hin, -⟩ := hw
      obtain ⟨call', _, _, hc', hp, -⟩ := call_of_opened (c := c) h (by omega)
      rw [hc] at hc'
      cases hc'
      rw [hp] at hin
      cases hin
    | replied hm hq _ h2 h3 => exact .used hm hq h2 h3
    | dropped h1 h2 h3 => exact .dropped h2 (by omega)
    | kept h1 h2 h3 => omega
  · obtain ⟨res, ha, hst⟩ := hs.answered urlIsSsl adaptor hc hp hm
    refine ⟨res, ha, hst, fun e s' os h he => ?_⟩
    exact hs.stays hf hc (by rw [hp]; rfl) (Oneshot.senders_of_recv hm) h he
  · exact ⟨fun handler hp => hs.not_waits ho hc hp, hs.finishes hf ho hc hw⟩

end

/-! ## A server to run -/

/-- A handler that answers the data, or what `default_srv_error_response` makes of the error. -/
def echo : SrvRespHandler Nat
  | .ok data => (defaultResponseBuilder 200).body [toString data]
  | .error err => defaultSrvErrorResponse err defaultResponseBuilder

def plainHttp : Url → Bool := fun _ => false

/-- A server on plain HTTP, with room for one message on each service queue. -/
def plainServer : HyperServerProc Nat :=
  .new (.new ⟨"http://0.0.0.0:8080", none⟩ HyperServerSettings.defaultServiceTimeout)
    (fun _ => .new 1 true) 0

theorem init_server (urlIsSsl : Url → Bool) (adaptor : HyperServerAdaptor) :
    (serverMachine Nat urlIsSsl adaptor).init plainServer := ⟨_, _, _, rfl⟩

/-- A call asks for the service `name`, while queue 5 offers `"svc"`. -/
def called (name : String) : List (Ev Nat) :=
  [.started (.ok ()), .bound (.ok ()), .internal (.service [("svc", 5)]), .recv, .accept (.ok ()),
    .handshaken 0 (.ok none), .call 0, .processed 0 (.srvReq name 7 echo), .callSent 0]

/-- The server is shut down while the call waits, which completes with 503. -/
theorem shutWaiting_housed : ∃ q, (serverMachine Nat plainHttp .default).exec plainServer
      (called "svc" ++ [.recvHttp (some 5), .sent, .internal .shutdown, .recv, .procRemoved true]) =
        some q ∧ q.2.pc.isOver = true ∧ q.2.calls.map (·.pc.inWait) = [true] ∧
      Housed plainHttp .default q.2 0 :=
  ⟨_, (Option.some_get rfl).symm, rfl, rfl,
    calls_housed (Machine.run_get (init_server _ _) rfl) 0⟩

end Server
