import ProsaHyper.Server.Proof.Stranded

/-!
# Where a message comes from

The messages in the places of the server are those the calls built, and the identifier a message is
pending under is the one of the request made of it.

* `origin_of_run`: a message in a place was opened by its call, with the same service name.
* `opened_le`, `dispatch_books`: a call builds one message, which is dispatched at most once and
  never once it was refused.
* `openSince_of_run`: a pending message was dispatched under its identifier, and no answer with that
  identifier was taken since.
-/

set_option autoImplicit false

namespace Server

open Prosa Http

variable {M : Type}

/-- The places of a message. -/
inductive Place (s : HyperServerProc M) (msg : RequestMsg M) : Prop
  | sending {c : Nat} {call : Call M} : s.calls[c]? = some call → call.pc.msg? = some msg →
      Place s msg
  | queued : msg ∈ s.httpRx.buf → Place s msg
  | hand : s.pc.hand = some msg → Place s msg
  | pending {id : Nat} : s.pendingReq.msgs.lookup id = some msg → Place s msg

/-- `msg` was built by its call, and may have lost its data since. -/
def Opened (os : List (Out M)) (msg : RequestMsg M) : Prop :=
  ∃ msg₀, .opened msg₀ ∈ os ∧ msg₀.takeData.2 = msg.takeData.2

/-- A request with the identifier `id` was dispatched for the call `c`. -/
def Dispatched (os : List (Out M)) (id c : Nat) : Prop :=
  ∃ msg request queue, .dispatched msg request queue ∈ os ∧ request.id = id ∧ msg.responseQueue = c

/-- A request `id` was dispatched for the call `c`, and no answer to it was taken since. -/
def OpenSince (tr : List (Rec (HyperServerProc M) (Ev M) (Out M))) (id c : Nat) : Prop :=
  ∃ ta d tb, tr = ta ++ d :: tb ∧ Dispatched d.out id c ∧
    ∀ r ∈ tb, ∀ m, .took m ∈ r.out → m.answers? ≠ some id

section
variable {urlIsSsl : Url → Bool} {adaptor : HyperServerAdaptor} {s s' : HyperServerProc M}
  {e : Ev M} {os : List (Out M)}

/-! ## The messages of a step -/

theorem lookup_of_erase {p : PendingMsgs (RequestMsg M)} {id id' : Nat} {msg : RequestMsg M}
    (h : (p.erase id').msgs.lookup id = some msg) : id ≠ id' ∧ p.msgs.lookup id = some msg := by
  rw [PendingMsgs.msgs_erase] at h
  by_cases hid : id = id'
  · subst hid
    rw [AList.lookup_erase] at h
    cases h
  · rw [AList.lookup_erase_ne hid] at h
    exact ⟨hid, h⟩

/-- A pending message was pending before, or is the one just dispatched. -/
theorem pending_of_step {id : Nat} {msg : RequestMsg M}
    (h : s.step urlIsSsl adaptor e = some (s', os))
    (hl : s'.pendingReq.msgs.lookup id = some msg) :
    (s.pendingReq.msgs.lookup id = some msg ∧ ∀ m, .took m ∈ os → m.answers? ≠ some id) ∨
      s.pc.hand = some msg ∧ Dispatched os id msg.responseQueue := by
  have mem : id ∈ s'.pendingReq.msgs := AList.lookup_isSome.1 (by rw [hl]; rfl)
  cases moves_of_step h with
  | startFailed | bindFailed | recvPanic | sendFailed | acceptFailed | procRemoved
  | procRemoveFailed => exact absurd mem (AList.notMem_empty id)
  | elapse he =>
    obtain ⟨-, rfl⟩ := PendingMsgs.elapse_eq_some.1 he
    exact .inl ⟨hl, by simp⟩
  | recvStale _ _ ha hn =>
    refine .inl ⟨hl, fun m hm hid => ?_⟩
    cases List.mem_singleton.1 hm
    rw [ha] at hid
    cases hid
    exact hn mem
  | recvData | recvNoData | recvError =>
    obtain ⟨hne, hl⟩ := lookup_of_erase hl
    refine .inl ⟨hl, fun m hm hid => hne ?_⟩
    cases (List.mem_cons.1 hm).resolve_right (by simp)
    simpa [eq_comm] using hid
  | recvService | recvShutdown =>
    refine .inl ⟨hl, fun m hm => ?_⟩
    cases (List.mem_cons.1 hm).resolve_right (by simp)
    rintro ⟨⟩
  | pulled => exact .inl ⟨(lookup_of_erase hl).2, by simp⟩
  | @sent queue request httpMsg q hp hq =>
    by_cases hid : id = request.id
    · subst hid
      rw [PendingMsgs.msgs_pushWithId, AList.lookup_insert] at hl
      cases hl
      exact .inr ⟨by rw [hp]; rfl, _, _, _, List.mem_cons_self, rfl, rfl⟩
    · rw [PendingMsgs.msgs_pushWithId, AList.lookup_insert_ne hid] at hl
      exact .inl ⟨hl, by simp⟩
  | conn _ hc => exact .inl ⟨hl, fun m hm => by cases plain_socket hc hm⟩
  | processed _ _ hc => exact .inl ⟨hl, fun m hm => by cases plain_completed hc hm⟩
  | callAnswered => exact .inl ⟨hl, fun m hm => by cases plain_completed (countRes_counts _) hm⟩
  | _ => exact .inl ⟨hl, by simp⟩

/-- A queued message was queued before, or is the one a call just sent. -/
theorem queued_of_step {msg : RequestMsg M} (h : s.step urlIsSsl adaptor e = some (s', os))
    (hm : msg ∈ s'.httpRx.buf) :
    msg ∈ s.httpRx.buf ∨
      ∃ (c : Nat) (call : Call M), s.calls[c]? = some call ∧ call.pc.msg? = some msg := by
  cases moves_of_step h with
  | startFailed | bindFailed | recvPanic | sendFailed | acceptFailed | procRemoved
  | procRemoveFailed => cases hm
  | dispatch _ hq | refuse _ hq =>
    rw [(Chan.recv_eq_some hq).1]
    exact .inl (List.mem_cons_of_mem _ hm)
  | callSent hc hp hq =>
    rw [(Chan.send_eq_some hq).2.2.1] at hm
    rcases List.mem_append.1 hm with hm | hm
    · exact .inl hm
    · rw [List.mem_singleton.1 hm]
      exact .inr ⟨_, _, hc, by rw [hp]; rfl⟩
  | _ => exact .inl hm

/-- The message in hand was in hand before, or is the head of the queue without its data. -/
theorem hand_of_step {msg : RequestMsg M} (h : s.step urlIsSsl adaptor e = some (s', os))
    (hm : s'.pc.hand = some msg) :
    s.pc.hand = some msg ∨ ∃ msg₀ ∈ s.httpRx.buf, msg = msg₀.takeData.2 := by
  cases moves_of_step h with
  | startFailed | bindFailed | recvPanic | sendFailed | acceptFailed | procRemoved
  | procRemoveFailed | started | bound | recvShutdown | sent => cases hm
  | @dispatch httpMsg _ _ _ _ hq =>
    cases hm
    refine .inr ⟨httpMsg, ?_, rfl⟩
    rw [(Chan.recv_eq_some hq).1]
    exact List.mem_cons_self
  | _ => exact .inl hm

/-- **A step makes no message**, except the one a call builds. -/
theorem place_of_step {msg : RequestMsg M} (h : s.step urlIsSsl adaptor e = some (s', os))
    (hm : Place s' msg) : (∃ msg₀, Place s msg₀ ∧ msg₀.takeData.2 = msg.takeData.2) ∨
      .opened msg ∈ os := by
  cases hm with
  | @sending c call hc hmsg =>
    cases call_of_step c h with
    | same heq => exact .inl ⟨msg, .sending (heq ▸ hc) hmsg, rfl⟩
    | started _ hc' =>
      rw [hc] at hc'
      cases hc'
      cases hmsg
    | advanced _ _ hc' ha =>
      rw [hc] at hc'
      cases hc'
      exact .inr (ha.own hmsg).2
  | queued hq =>
    rcases queued_of_step h hq with hq | ⟨c, call, hc, hp⟩
    · exact .inl ⟨msg, .queued hq, rfl⟩
    · exact .inl ⟨msg, .sending hc hp, rfl⟩
  | hand hh =>
    rcases hand_of_step h hh with hh | ⟨msg₀, hq, rfl⟩
    · exact .inl ⟨msg, .hand hh, rfl⟩
    · exact .inl ⟨msg₀, .queued hq, rfl⟩
  | pending hl =>
    rcases pending_of_step h hl with ⟨hl, -⟩ | ⟨hh, -⟩
    · exact .inl ⟨msg, .pending hl, rfl⟩
    · exact .inl ⟨msg, .hand hh, rfl⟩

end

section
variable {urlIsSsl : Url → Bool} {adaptor : HyperServerAdaptor} {s : HyperServerProc M}
  {tr : List (Rec (HyperServerProc M) (Ev M) (Out M))}
  (hr : (serverMachine M urlIsSsl adaptor).Run tr s)
include hr

/-- **A message in a place was built by its call.** -/
theorem origin_of_run {msg : RequestMsg M} (hm : Place s msg) : Opened (outs tr) msg := by
  induction hr generalizing msg with
  | start hi =>
    obtain ⟨settings, queues, nextId, rfl⟩ := hi
    cases hm with
    | sending hc => simp [HyperServerProc.new] at hc
    | queued hq => cases hq
    | hand hh => cases hh
    | pending hl => simp [HyperServerProc.new, PendingMsgs.empty] at hl
  | next _ hst ih =>
    simp only [Opened, outs_append, outs_single, List.mem_append]
    rcases place_of_step hst hm with ⟨msg₀, hm₀, heq⟩ | ho
    · obtain ⟨m, ho, hm⟩ := ih hm₀
      exact ⟨m, .inl ho, hm.trans heq⟩
    · exact ⟨msg, .inr ho, rfl⟩

/-- The data of a message is taken with it off the queue. -/
theorem taken_of_run : (∀ msg, s.pc.hand = some msg → msg.data = none) ∧
    ∀ id msg, s.pendingReq.msgs.lookup id = some msg → msg.data = none := by
  induction hr with
  | start hi =>
    obtain ⟨settings, queues, nextId, rfl⟩ := hi
    refine ⟨(fun msg hh => by cases hh), fun id msg hl => ?_⟩
    simp [HyperServerProc.new, PendingMsgs.empty] at hl
  | next _ hst ih =>
    refine ⟨fun msg hh => ?_, fun id msg hl => ?_⟩
    · rcases hand_of_step hst hh with hh | ⟨msg₀, -, rfl⟩
      · exact ih.1 msg hh
      · rfl
    · rcases pending_of_step hst hl with ⟨hl, -⟩ | ⟨hh, -⟩
      · exact ih.2 id msg hl
      · exact ih.1 msg hh

/-- **A pending message is open**: it was dispatched under its identifier and no answer to it was
taken since. -/
theorem openSince_of_run {id : Nat} {msg : RequestMsg M}
    (hl : s.pendingReq.msgs.lookup id = some msg) : OpenSince tr id msg.responseQueue := by
  induction hr with
  | start hi =>
    obtain ⟨settings, queues, nextId, rfl⟩ := hi
    simp [HyperServerProc.new, PendingMsgs.empty] at hl
  | @next tr s s' e os _ hst ih =>
    rcases pending_of_step hst hl with ⟨hl, hn⟩ | ⟨-, hd⟩
    · obtain ⟨ta, d, tb, htr, hd, hb⟩ := ih hl
      refine ⟨ta, d, tb ++ [⟨s, e, os, s'⟩], by simp [htr], hd, fun r hm => ?_⟩
      rcases List.mem_append.1 hm with hm | hm
      · exact hb r hm
      · cases List.mem_singleton.1 hm
        exact hn
    · exact ⟨_, _, [], rfl, hd, by simp⟩

/-! ## The books of a run -/

/-- The channel of a call exists once its message was built. -/
theorem opened_eq (c : Nat) :
    tally (openedOf c) (outs tr) = match s.replies c with | .unborn => 0 | _ => 1 := by
  induction hr with
  | start hi =>
    obtain ⟨settings, queues, nextId, rfl⟩ := hi
    rfl
  | @next tr s s' e os hr hst ih =>
    have hs := linear_of_run hr
    have hb := hs.books (fresh_of_run hr) c hst
    have hfate := fate_of_step c hst
    simp only [outs_append, outs_single, tally_append, ih]
    generalize s'.replies c = o at hfate ⊢
    cases hfate with
    | opened h1 h2 h3 =>
      obtain ⟨call, _, _, hc, hp, -⟩ := call_of_opened (c := c) hst (by omega)
      have hu := hs.unborn c fun call' hc' => by
        rw [hc] at hc'
        cases hc'
        exact hp
      simp only [hu, h1]
    | replied _ _ h1 h2 h3 | dropped h1 h2 h3 =>
      have hpos : 0 < (s.replies c).senders := by omega
      generalize s.replies c = o' at hpos
      cases o' with
      | «open» => simp only [h1]
      | _ => exact absurd hpos (Nat.lt_irrefl 0)
    | kept h1 => omega

/-- A call builds one message. -/
theorem opened_le (c : Nat) : tally (openedOf c) (outs tr) ≤ 1 := by
  rw [opened_eq hr c]
  split <;> omega

/-- The sender of a call is in a place, was used or was dropped. -/
theorem sender_books (c : Nat) : held s c + tally (repliedOf c) (outs tr) +
    tally (droppedOf c) (outs tr) = tally (openedOf c) (outs tr) := by
  induction hr with
  | start hi =>
    obtain ⟨settings, queues, nextId, rfl⟩ := hi
    rfl
  | next hr hst ih =>
    have hb := (step_balanced c (fresh_of_run hr) hst).sender
    simp only [outs_append, outs_single, tally_append] at hb ⊢
    omega

theorem replied_le (c : Nat) : tally (repliedOf c) (outs tr) ≤ 1 := by
  have hb := sender_books hr c
  have ho := opened_le hr c
  omega

theorem replied_eq_one {c : Nat} (h : 0 < tally (repliedOf c) (outs tr)) :
    tally (repliedOf c) (outs tr) = 1 := by
  have hle := replied_le hr c
  omega

/-- A message that is dispatched or refused is neither again. -/
theorem dispatch_books (c : Nat) : undispatched s c + tally (dispatchedOf c) (outs tr) +
    tally (refusedOf c) (outs tr) ≤ tally (openedOf c) (outs tr) := by
  induction hr with
  | start hi =>
    obtain ⟨settings, queues, nextId, rfl⟩ := hi
    exact Nat.le_refl _
  | next hr hst ih =>
    have hb := (step_balanced c (fresh_of_run hr) hst).dispatch
    simp only [outs_append, outs_single, tally_append] at hb ⊢
    omega

end

end Server
