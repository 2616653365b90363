import ProsaHyper.Server.Proof.Origin

/-!
# The answer of a call is its own

The pending messages are keyed by the identifier of the internal request, and an answer is matched
with a call by this identifier alone, whatever is late, duplicated or unknown.

* `step_spent`: an identifier that was used for a request is never used for another one.
* `replies_correlated`: in every run a call is sent at most one message, which is an answer to the
  request dispatched for this call, or a timeout, or a refusal of this call.
-/

set_option autoImplicit false

namespace Server

open Prosa Http

variable {M : Type}

/-- The identifier `id` was drawn, and not for a request still in hand. -/
structure Spent (s : HyperServerProc M) (id : Nat) : Prop where
  drawn : id < s.nextId
  hand : ∀ queue request httpMsg, s.pc = .sending queue request httpMsg → request.id ≠ id

section
variable {urlIsSsl : Url → Bool} {adaptor : HyperServerAdaptor} {s s' : HyperServerProc M}
  {e : Ev M} {os : List (Out M)} {id c : Nat}

/-- The only request a step dispatches is the one in hand. -/
theorem hand_of_dispatched (h : s.step urlIsSsl adaptor e = some (s', os))
    (hd : Dispatched os id c) : ∃ queue request httpMsg, s.pc = .sending queue request httpMsg ∧
      request.id = id ∧ httpMsg.responseQueue = c ∧ s'.pc = .select ∧ s'.nextId = s.nextId := by
  obtain ⟨msg, request, queue, hm, hid, hc⟩ := hd
  cases moves_of_step h with
  | sent hp =>
    cases List.mem_singleton.1 hm
    exact ⟨_, _, _, hp, hid, hc, rfl, rfl⟩
  | conn _ hq => cases plain_socket hq hm
  | processed _ _ hq => cases plain_completed hq hm
  | callAnswered => cases plain_completed (countRes_counts _) hm
  | _ => simp [HyperServerProc.leave] at hm

/-- **An identifier is used once.** -/
theorem step_spent (hs : Spent s id) (h : s.step urlIsSsl adaptor e = some (s', os)) :
    Spent s' id ∧ (∀ c, ¬ Dispatched os id c) ∧
      (id ∈ s'.pendingReq.msgs → id ∈ s.pendingReq.msgs) := by
  have hnot : ∀ c, ¬ Dispatched os id c := by
    intro c hd
    obtain ⟨queue, request, httpMsg, hp, hid, -⟩ := hand_of_dispatched h hd
    exact hs.hand _ _ _ hp hid
  refine ⟨?_, hnot, fun hm => ?_⟩
  · obtain ⟨hlt, hhand⟩ := hs
    cases moves_of_step h with
    | drawn | opened => exact ⟨Nat.lt_succ_of_lt hlt, hhand⟩
    | dispatch =>
      refine ⟨Nat.lt_succ_of_lt hlt, fun q r m hp => ?_⟩
      cases hp
      exact Nat.ne_of_gt hlt
    | startFailed | started | bindFailed | bound | recvPanic | recvShutdown | sent | sendFailed
    | acceptFailed | procRemoved | procRemoveFailed => exact ⟨hlt, fun _ _ _ h => by cases h⟩
    | _ => exact ⟨hlt, hhand⟩
  · obtain ⟨msg, hl⟩ := Option.isSome_iff_exists.1 (AList.lookup_isSome.2 hm)
    rcases pending_of_step h hl with ⟨hl, -⟩ | ⟨-, hd⟩
    · exact AList.lookup_isSome.1 (by rw [hl]; rfl)
    · exact absurd hd (hnot _)

/-- Once the entry of a request was pulled, no answer to it is pending again. -/
theorem pulled_of_run {s₀ : HyperServerProc M}
    {tr : List (Rec (HyperServerProc M) (Ev M) (Out M))} (hs : Spent s id)
    (hn : id ∉ s.pendingReq.msgs) (hc : ((serverMachine M urlIsSsl adaptor).startAt s).Run tr s₀) :
    Spent s₀ id ∧ id ∉ s₀.pendingReq.msgs := by
  induction hc with
  | start hi => cases hi; exact ⟨hs, hn⟩
  | next _ hst ih =>
    obtain ⟨h1, -, h2⟩ := step_spent ih.1 hst
    exact ⟨h1, fun hm => ih.2 (h2 hm)⟩

theorem Fresh.spent (hf : Fresh s) (hm : id ∈ s.pendingReq.msgs) : Spent s id where
  drawn := hf.pending id hm
  hand q r m hp hid := (hf.request q r m hp).2 (hid ▸ hm)

/-- The step that receives `m` from the main queue takes it. -/
theorem took_of_recv {m : InternalMsg M} {q : Chan (InternalMsg M)}
    (h : s.step urlIsSsl adaptor .recv = some (s', os))
    (hq : s.internalRxQueue.recv = some (m, q)) : .took m ∈ os := by
  have head {m' : InternalMsg M} {q' : Chan (InternalMsg M)} {os' : List (Out M)}
      (hq' : s.internalRxQueue.recv = some (m', q')) : .took m ∈ Out.took m' :: os' := by
    rw [hq] at hq'
    cases hq'
    exact List.mem_cons_self
  cases moves_of_step h with
  | recvPanic _ hq' | recvStale _ hq' | recvData _ hq' | recvNoData _ hq' | recvError _ hq'
  | recvService _ hq' | recvShutdown _ hq' => exact head hq'
  | conn he => cases he

theorem answers?_of_panics {m : InternalMsg M} (h : panics m = true) : m.answers? = none := by
  cases m <;> first | rfl | cases h

/-- Nothing of a call or of the pending messages is changed. -/
structure Untouched (r : Rec (HyperServerProc M) (Ev M) (Out M)) : Prop where
  pending : r.post.pendingReq = r.pre.pendingReq
  calls : r.post.calls = r.pre.calls
  replies : r.post.replies = r.pre.replies

/-- **An answer that nothing waits for** is ignored. -/
theorem stale_untouched {m : InternalMsg M} (h : s.step urlIsSsl adaptor e = some (s', os))
    (hm : .took m ∈ os) (ha : m.answers? = some id) (hn : id ∉ s.pendingReq.msgs) :
    Untouched ⟨s, e, os, s'⟩ := by
  have absent {msg : RequestMsg M} (hl : s.pendingReq.msgs.lookup id = some msg) : False :=
    hn (AList.lookup_isSome.1 (by rw [hl]; rfl))
  cases moves_of_step h with
  | recvStale => exact ⟨rfl, rfl, rfl⟩
  | recvData _ _ hl | recvNoData _ _ hl | recvError _ _ hl =>
    cases (List.mem_cons.1 hm).resolve_right (by simp)
    cases ha
    exact (absent hl).elim
  | recvPanic _ _ hp =>
    cases (List.mem_cons.1 hm).resolve_right (by simp [HyperServerProc.leave])
    rw [answers?_of_panics hp] at ha
    cases ha
  | recvService | recvShutdown =>
    cases (List.mem_cons.1 hm).resolve_right (by simp)
    cases ha
  | conn _ hq => cases plain_socket hq hm
  | processed _ _ hq => cases plain_completed hq hm
  | callAnswered => cases plain_completed (countRes_counts _) hm
  | _ => simp [HyperServerProc.leave] at hm

end

/-! ## Runs -/

/-- Why the step `r`, after the history `ta` of the run `tr`, sends `a` from `site` to the call `c`
that built `msg₀`. -/
inductive Explained (tr ta : List (Rec (HyperServerProc M) (Ev M) (Out M)))
    (r : Rec (HyperServerProc M) (Ev M) (Out M)) (c : Nat) (msg₀ : RequestMsg M) :
    Site → InternalMsg M → Prop
  | response {id : Nat} {data : M} : .took (.response ⟨id, some data⟩) ∈ r.out →
      Dispatched (outs ta) id c → Explained tr ta r c msg₀ .response (msg₀.returnToSender data)
  | error {err : ErrorMsg M} : .took (.error err) ∈ r.out → Dispatched (outs ta) err.id c →
      Explained tr ta r c msg₀ .responseErr (msg₀.takeData.2.returnErrorToSender err.data err.err)
  | timeout {id : Nat} {data : Option M} : r.ev = .pull id → id ∈ r.pre.pendingReq.expired →
      OpenSince ta id c → Explained tr ta r c msg₀ .timeout
        (msg₀.takeData.2.returnErrorToSender data
          (.timeout msg₀.service r.pre.settings.serviceTimeout))
  | unable {data : Option M} : (∀ id, ¬ Dispatched (outs tr) id c) →
      Explained tr ta r c msg₀ .unable
        (msg₀.takeData.2.returnErrorToSender data (.unableToReachService msg₀.service))

/-- The replies of a run are those of their own calls. -/
structure Correlated (tr : List (Rec (HyperServerProc M) (Ev M) (Out M)))
    (s : HyperServerProc M) : Prop where
  /-- a call is sent at most one message -/
  once : ∀ c, tally (repliedOf c) (outs tr) ≤ 1
  /-- what the channel of a call carries was sent to it -/
  carried : ∀ c a, s.replies c = .sent a →
    ∃ site msg, .replied site msg a ∈ outs tr ∧ msg.responseQueue = c
  /-- what is sent to a call is explained by the request dispatched for it -/
  own : ∀ ta r tb, tr = ta ++ r :: tb → ∀ site msg a, .replied site msg a ∈ r.out →
    ∃ msg₀, .opened msg₀ ∈ outs ta ∧ msg₀.responseQueue = msg.responseQueue ∧
      Explained tr ta r msg.responseQueue msg₀ site a
  /-- an identifier is dispatched for one call -/
  unique : ∀ id c c', Dispatched (outs tr) id c → Dispatched (outs tr) id c' → c = c'
  /-- an answer whose identifier is not pending is ignored -/
  unknown : ∀ r ∈ tr, ∀ m id, .took m ∈ r.out → m.answers? = some id →
    id ∉ r.pre.pendingReq.msgs → Untouched r
  /-- an answer that is taken after the entry of its request was pulled is ignored -/
  late : ∀ ta p tb r tc, tr = ta ++ p :: (tb ++ r :: tc) → ∀ m id, id ∈ p.pre.pendingReq.msgs →
    id ∉ p.post.pendingReq.msgs → .took m ∈ r.out → m.answers? = some id → Untouched r

section
variable {urlIsSsl : Url → Bool} {adaptor : HyperServerAdaptor} {s : HyperServerProc M}
  {tr : List (Rec (HyperServerProc M) (Ev M) (Out M))}
  (hr : (serverMachine M urlIsSsl adaptor).Run tr s)
include hr

/-- What a channel carries was sent by a reply. -/
theorem carried_of_run {c : Nat} {a : InternalMsg M} (h : s.replies c = .sent a) :
    ∃ site msg, .replied site msg a ∈ outs tr ∧ msg.responseQueue = c := by
  induction hr with
  | start hi =>
    obtain ⟨settings, queues, nextId, rfl⟩ := hi
    cases h
  | next _ hst ih =>
    have hfate := fate_of_step c hst
    rw [h] at hfate
    simp only [outs_append, outs_single, List.mem_append]
    generalize hx : Oneshot.sent a = x at hfate
    cases hfate with
    | replied hm hc =>
      cases hx
      exact ⟨_, _, .inr hm, hc⟩
    | kept =>
      obtain ⟨site, msg, hm, hc⟩ := ih hx.symm
      exact ⟨site, msg, .inl hm, hc⟩
    | opened | dropped => cases hx

/-- A dispatched identifier is spent. -/
theorem spent_of_run {id c : Nat} (h : Dispatched (outs tr) id c) : Spent s id := by
  induction hr with
  | start => obtain ⟨_, _, _, hm, -⟩ := h; cases hm
  | next hr hst ih =>
    obtain ⟨msg, request, queue, hm, hid, hc⟩ := h
    rw [outs_append, outs_single, List.mem_append] at hm
    rcases hm with hm | hm
    · exact (step_spent (ih ⟨_, _, _, hm, hid, hc⟩) hst).1
    · obtain ⟨queue, request', httpMsg, hp, hid', -, hp', hn⟩ :=
        hand_of_dispatched hst ⟨_, _, _, hm, hid, hc⟩
      refine ⟨?_, fun q r m hp'' => by rw [hp'] at hp''; cases hp''⟩
      rw [hn, ← hid']
      exact ((fresh_of_run hr).request _ _ _ hp).1

/-- No identifier is dispatched for two calls. -/
theorem dispatched_unique {id c c' : Nat} (h : Dispatched (outs tr) id c)
    (h' : Dispatched (outs tr) id c') : c = c' := by
  induction hr with
  | start => obtain ⟨_, _, _, hm, -⟩ := h; cases hm
  | @next tr s s' e os hr hst ih =>
    have cases' {c : Nat} (h : Dispatched (outs (tr ++ [⟨s, e, os, s'⟩])) id c) :
        Dispatched (outs tr) id c ∨ Dispatched os id c := by
      obtain ⟨msg, request, queue, hm, hid, hc⟩ := h
      rw [outs_append, outs_single, List.mem_append] at hm
      exact hm.imp (fun hm => ⟨_, _, _, hm, hid, hc⟩) fun hm => ⟨_, _, _, hm, hid, hc⟩
    rcases cases' h with h | h <;> rcases cases' h' with h' | h'
    · exact ih h h'
    · exact absurd h' ((step_spent (spent_of_run hr h) hst).2.1 _)
    · exact absurd h ((step_spent (spent_of_run hr h') hst).2.1 _)
    · obtain ⟨_, _, _, hp, -, hc, -⟩ := hand_of_dispatched hst h
      obtain ⟨_, _, _, hp', -, hc', -⟩ := hand_of_dispatched hst h'
      rw [hp] at hp'
      cases hp'
      rw [← hc, hc']

/-- A refused call is never dispatched. -/
theorem not_dispatched_of_refused {c : Nat} (h : 0 < tally (refusedOf c) (outs tr)) (id : Nat) :
    ¬ Dispatched (outs tr) id c := by
  rintro ⟨msg, request, queue, hm, -, hc⟩
  have hb := dispatch_books hr c
  have hle := opened_le hr c
  have hpos : 0 < tally (dispatchedOf c) (outs tr) := tally_pos_iff.2 ⟨_, hm, toCall_pos.2 hc⟩
  omega

/-- **Every reply is explained.** -/
theorem explained_of_run {ta tb : List (Rec (HyperServerProc M) (Ev M) (Out M))}
    {r : Rec (HyperServerProc M) (Ev M) (Out M)} (htr : tr = ta ++ r :: tb) {site : Site}
    {msg : RequestMsg M} {a : InternalMsg M} (ho : .replied site msg a ∈ r.out) :
    ∃ msg₀, .opened msg₀ ∈ outs ta ∧ msg₀.responseQueue = msg.responseQueue ∧
      Explained tr ta r msg.responseQueue msg₀ site a := by
  subst htr
  obtain ⟨hr₀, hst, -⟩ := hr.split
  obtain ⟨s₀, e, os, s₁⟩ := r
  have hst : s₀.step urlIsSsl adaptor e = some (s₁, os) := hst
  have dispatched {id : Nat} {m : RequestMsg M} (hl : s₀.pendingReq.msgs.lookup id = some m) :
      Dispatched (outs ta) id m.responseQueue := by
    obtain ⟨t₁, d, t₂, rfl, ⟨m', request, queue, hm, hid, hc⟩, -⟩ := openSince_of_run hr₀ hl
    exact ⟨m', request, queue, mem_outs.2 ⟨d, by simp, hm⟩, hid, hc⟩
  cases reply_of_step hst ho with
  | @response m q _ data hq hl hd =>
    obtain ⟨msg₀, hopen, heq⟩ := origin_of_run hr₀ (.pending hl)
    obtain ⟨hid, -, hcall⟩ := RequestMsg.takeData_eq heq
    refine ⟨msg₀, hopen, hcall, ?_⟩
    rw [← RequestMsg.returnToSender_congr hid]
    obtain ⟨id, d⟩ := m
    cases hd
    exact .response (took_of_recv hst hq) (dispatched hl)
  | @error errMsg q _ hq hl =>
    obtain ⟨msg₀, hopen, heq⟩ := origin_of_run hr₀ (.pending hl)
    obtain ⟨hid, -, hcall⟩ := RequestMsg.takeData_eq heq
    have hid : msg.id = msg₀.takeData.2.id := hid.symm
    have hdata : msg.data = msg₀.takeData.2.data := (taken_of_run hr₀).2 _ _ hl
    refine ⟨msg₀, hopen, hcall, ?_⟩
    rw [RequestMsg.returnErrorToSender_congr hid hdata]
    exact .error (took_of_recv hst hq) (dispatched hl)
  | @timeout id m he hl =>
    obtain ⟨msg₀, hopen, heq⟩ := origin_of_run hr₀ (.pending hl)
    obtain ⟨hid, hname, hcall⟩ := RequestMsg.takeData_eq heq
    have hsince : OpenSince ta id m.responseQueue := openSince_of_run hr₀ hl
    refine ⟨msg₀, hopen, hcall, ?_⟩
    have hid : m.takeData.2.id = msg₀.takeData.2.id := hid.symm
    rw [RequestMsg.returnErrorToSender_congr hid rfl, ← hname]
    exact .timeout rfl he hsince
  | @unable sel m q hq hn =>
    have hm : m ∈ s₀.httpRx.buf := by
      rw [(Chan.recv_eq_some hq).1]
      exact List.mem_cons_self
    obtain ⟨msg₀, hopen, heq⟩ := origin_of_run hr₀ (.queued hm)
    obtain ⟨hid, hname, hcall⟩ := RequestMsg.takeData_eq heq
    refine ⟨msg₀, hopen, hcall, ?_⟩
    have hid : m.takeData.2.id = msg₀.takeData.2.id := hid.symm
    rw [RequestMsg.returnErrorToSender_congr hid rfl, ← hname]
    refine .unable (not_dispatched_of_refused hr ?_)
    refine tally_pos_iff.2 ⟨_, mem_outs.2 ⟨_, List.mem_append_right _ List.mem_cons_self, ho⟩, ?_⟩
    exact toCall_pos.2 rfl

/-- **Correlation**: in every run the replies are those of their own calls. -/
theorem replies_correlated : Correlated tr s where
  once := replied_le hr
  carried c a h := carried_of_run hr h
  own ta r tb htr site msg a ho := explained_of_run hr htr ho
  unique id c c' h h' := dispatched_unique hr h h'
  unknown r hm m id ho ha hn := stale_untouched (hr.step_of_mem hm).2 ho ha hn
  late ta p tb r tc htr m id hpre hpost ho ha := by
    subst htr
    obtain ⟨hr₀, hst, hafter⟩ := hr.split
    have hspent := step_spent ((fresh_of_run hr₀).spent hpre) hst
    obtain ⟨hbefore, hst', -⟩ := hafter.split
    exact stale_untouched hst' ho ha (pulled_of_run hspent.1 hpost hbefore).2

theorem dispatched_le (c : Nat) : tally (dispatchedOf c) (outs tr) ≤ 1 := by
  have hb := dispatch_books hr c
  have hle := opened_le hr c
  omega

/-- Every `UnableToReachService` is for a call that is never dispatched, or is the service's own
answer. -/
theorem undispatched_of_unable {r : Rec (HyperServerProc M) (Ev M) (Out M)} (hm : r ∈ tr)
    {site : Site} {msg : RequestMsg M} {id : Nat} {data : Option M} {name : String}
    (ho : .replied site msg (.error ⟨id, data, .unableToReachService name⟩) ∈ r.out) :
    (∀ id, ¬ Dispatched (outs tr) id msg.responseQueue) ∨
      ∃ err, .took (.error err) ∈ r.out ∧ err.err = .unableToReachService name := by
  obtain ⟨ta, tb, htr⟩ := List.append_of_mem hm
  obtain ⟨msg₀, -, -, hex⟩ := explained_of_run hr htr ho
  generalize ha : (.error ⟨id, data, .unableToReachService name⟩ : InternalMsg M) = a at hex
  cases hex with
  | response => cases ha
  | @error err htook =>
    simp only [RequestMsg.returnErrorToSender, InternalMsg.error.injEq, ErrorMsg.mk.injEq] at ha
    exact .inr ⟨err, htook, ha.2.2.symm⟩
  | timeout => cases ha
  | unable hn => exact .inl hn

end

/-- The answer of the service comes twice. -/
def answeredTwice : List (Ev Nat) :=
  called "svc" ++ [.recvHttp (some 5), .sent, .internal (.response ⟨1, some 9⟩),
    .internal (.response ⟨1, some 8⟩), .recv, .recv, .callAnswered 0]

/-- The call completes with the first one. -/
theorem answeredTwice_correlated : ∃ q,
    (serverMachine Nat plainHttp .default).exec plainServer answeredTwice = some q ∧
      q.2.replies 0 = .sent (.response ⟨0, some 9⟩) ∧ Correlated q.1 q.2 :=
  ⟨_, (Option.some_get rfl).symm, rfl,
    replies_correlated (Machine.run_get (init_server _ _) rfl)⟩

end Server
