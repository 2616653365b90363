import ProsaHyper.Server.Proof.Origin

/-!
# Messages that cannot be delivered

An HTTP message cannot be delivered when no service has its name, when it carries no data, or when
the queue of the selected service is closed. `failures_contained_iff`: in a run such messages are
all answered with `UnableToReachService`, and nothing else is touched, iff the loop never sends on a
closed queue.
-/

set_option autoImplicit false

namespace Server

open Prosa Http

variable {M : Type}

/-- The step that resumes the loop with `e` cannot deliver `msg`. -/
inductive Undeliverable (s : HyperServerProc M) : Ev M → RequestMsg M → Prop
  | refused {sel : Option Nat} {msg : RequestMsg M} {q : Chan (RequestMsg M)} :
      s.httpRx.recv = some (msg, q) → sel = none ∨ msg.data = none →
      Undeliverable s (.recvHttp sel) msg
  | closed {queue : Nat} {request msg : RequestMsg M} : s.pc = .sending queue request msg →
      (s.queues queue).rx = false → Undeliverable s .sent msg

/-- The loop sends on a queue whose receiver is gone. -/
def SendsToClosed (s : HyperServerProc M) (e : Ev M) : Prop :=
  e = .sent ∧ ∃ queue request msg, s.pc = .sending queue request msg ∧ (s.queues queue).rx = false

/-- The step `r` of the run `tr`, after the history `ta`, answers `msg` with `UnableToReachService`
of the service its call asked for, which is all the call is sent in the run, and changes nothing
else. -/
structure Contained (tr ta : List (Rec (HyperServerProc M) (Ev M) (Out M)))
    (r : Rec (HyperServerProc M) (Ev M) (Out M)) (msg : RequestMsg M) : Prop where
  reply : ∃ msg₀ data, .opened msg₀ ∈ outs ta ∧ msg₀.responseQueue = msg.responseQueue ∧
    r.post.replies msg.responseQueue =
      .sent (msg₀.takeData.2.returnErrorToSender data (.unableToReachService msg₀.service))
  once : tally (repliedOf msg.responseQueue) (outs tr) = 1
  others : ∀ c, c ≠ msg.responseQueue → r.post.replies c = r.pre.replies c
  calls : r.post.calls = r.pre.calls
  pending : r.post.pendingReq = r.pre.pendingReq
  httpRx : r.pre.httpRx.buf = msg :: r.post.httpRx.buf ∨ r.post.httpRx = r.pre.httpRx
  internal : r.post.internalRxQueue = r.pre.internalRxQueue
  queues : r.post.queues = r.pre.queues
  running : r.post.pc = .select

section
variable {urlIsSsl : Url → Bool} {adaptor : HyperServerAdaptor} {s s' : HyperServerProc M}
  {e : Ev M} {os : List (Out M)} {tr : List (Rec (HyperServerProc M) (Ev M) (Out M))}

/-- A message that is refused is answered, and nothing else changes. -/
theorem refused_contained {sel : Option Nat} {msg : RequestMsg M} {q : Chan (RequestMsg M)}
    {ta tb : List (Rec (HyperServerProc M) (Ev M) (Out M))} {t : HyperServerProc M}
    (hr : (serverMachine M urlIsSsl adaptor).Run (ta ++ ⟨s, .recvHttp sel, os, s'⟩ :: tb) t)
    (hq : s.httpRx.recv = some (msg, q)) (hn : sel = none ∨ msg.data = none) :
    Contained (ta ++ ⟨s, .recvHttp sel, os, s'⟩ :: tb) ta ⟨s, .recvHttp sel, os, s'⟩ msg := by
  obtain ⟨hr₀, hst, -⟩ := hr.split
  have h : s.step urlIsSsl adaptor (.recvHttp sel) = some (s', os) := hst
  cases moves_of_step h with
  | dispatch _ hq' _ hd =>
    rw [hq] at hq'
    cases hq'
    rcases hn with hn | hn
    · cases hn
    · rw [hn] at hd
      cases hd
  | refuse hp hq' _ _ =>
    rw [hq] at hq'
    cases hq'
    have hbuf := (Chan.recv_eq_some hq).1
    have hplace : Place _ msg := .queued (by rw [hbuf]; exact List.mem_cons_self)
    obtain ⟨msg₀, ho, heq⟩ := origin_of_run hr₀ hplace
    obtain ⟨-, hname, hcall⟩ := RequestMsg.takeData_eq heq
    refine ⟨⟨msg₀, msg.data, ho, hcall, ?_⟩, ?_, fun c hc => ?_, rfl, rfl, .inl hbuf, rfl, rfl, hp⟩
    · simp only [Function.update_self]
      rw [heq, hname]
    · refine replied_eq_one hr (tally_pos_iff.2 ⟨_, mem_outs.2 ⟨_, List.mem_append_right _
        List.mem_cons_self, List.mem_cons_self⟩, ?_⟩)
      exact toCall_pos.2 rfl
    · exact Function.update_of_ne hc _ _
  | conn he => cases he

/-- A send on a closed queue ends the loop. -/
theorem closed_ends {queue : Nat} {request msg : RequestMsg M}
    (h : s.step urlIsSsl adaptor .sent = some (s', os)) (hp : s.pc = .sending queue request msg)
    (hq : (s.queues queue).rx = false) : s'.pc.isOver = true := by
  cases moves_of_step h with
  | sent hp' hs =>
    rw [hp] at hp'
    cases hp'
    rw [(Chan.send_eq_some hs).1] at hq
    cases hq
  | sendFailed => rfl
  | conn he => cases he

/-- **Dispatch failures are contained** in a run iff the loop never sends on a closed queue. -/
theorem failures_contained_iff (hr : (serverMachine M urlIsSsl adaptor).Run tr s) :
    (∀ ta r tb, tr = ta ++ r :: tb → ∀ msg, Undeliverable r.pre r.ev msg →
        Contained tr ta r msg) ↔
      Machine.Along (fun s e => ¬ SendsToClosed s e) tr := by
  constructor
  · rintro h r hm ⟨hev, queue, request, msg, hp, hq⟩
    obtain ⟨ta, tb, rfl⟩ := List.append_of_mem hm
    obtain ⟨-, hst, -⟩ := hr.split
    have hrun := (h ta r tb rfl msg (by rw [hev]; exact .closed hp hq)).running
    have hst : r.pre.step urlIsSsl adaptor .sent = some (r.post, r.out) := hev ▸ hst
    have hover := closed_ends hst hp hq
    rw [hrun] at hover
    cases hover
  · rintro h ta r tb rfl msg hu
    have hok := h r (List.mem_append_right _ List.mem_cons_self)
    obtain ⟨s, e, os, s'⟩ := r
    cases hu with
    | refused hq hn => exact refused_contained hr hq hn
    | closed hp hq => exact absurd ⟨rfl, _, _, _, hp, hq⟩ hok

end

/-- The service 5 goes away while the loop is about to send on its queue: the loop ends, and the
sender of the call is dropped. -/
theorem closedQueue_uncontained : ∃ q s' os msg,
    (serverMachine Nat plainHttp .default).exec plainServer
      (called "svc" ++ [.recvHttp (some 5), .queueClosed 5]) = some q ∧
      (serverMachine Nat plainHttp .default).Run (q.1 ++ [⟨q.2, .sent, os, s'⟩]) s' ∧
      Undeliverable q.2 .sent msg ∧
      ¬ Contained (q.1 ++ [⟨q.2, .sent, os, s'⟩]) q.1 ⟨q.2, .sent, os, s'⟩ msg ∧
      s'.pc.isOver = true ∧ s'.replies 0 = .closed :=
  ⟨_, _, _, _, (Option.some_get rfl).symm,
    .next (Machine.run_get (init_server _ _) rfl) rfl, .closed rfl rfl,
    fun h => absurd h.running (fun h => by cases h), rfl, rfl⟩

/-- A call that asks for a service nobody offers is answered, and the server goes on. -/
theorem unknownService_contained : ∃ q,
    (serverMachine Nat plainHttp .default).exec plainServer
      (called "other" ++ [.recvHttp none, .callAnswered 0]) = some q ∧
      ∀ ta r tb, q.1 = ta ++ r :: tb → ∀ msg, Undeliverable r.pre r.ev msg →
        Contained q.1 ta r msg := by
  refine ⟨_, (Option.some_get rfl).symm,
    (failures_contained_iff (Machine.run_get (init_server _ _) rfl)).2 fun r hm hc => ?_⟩
  have hall : (((serverMachine Nat plainHttp .default).exec plainServer
      (called "other" ++ [.recvHttp none, .callAnswered 0])).get rfl).1.all
      (fun r => !(r.ev matches .sent)) = true := rfl
  have hsent := List.all_eq_true.1 hall r hm
  rw [hc.1] at hsent
  cases hsent

end Server
