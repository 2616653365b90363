import ProsaHyper.Client.Proof.Pool

/-!
# The books of a processor

The books of the sockets, summed over every task the processor ever spawned.

* `accepted_total_le`: no request is accepted by two queues, or twice by one.
* `sent_total_le`: a request is given to a sender at most once over all sockets and respawns.
* `sent_of_refused`: one that was refused is never given to a sender.
-/

set_option autoImplicit false

namespace Client

open Prosa Http

variable {M Req : Type}

/-- A measure of the outputs of the sockets. -/
@[simp] def ProcOut.of (f : Out M Req → Nat) : ProcOut M Req → Nat
  | .sock _ o => f o
  | _ => 0

theorem through_sockets (urlIsSsl : Url → Bool) (f : Out M Req → Nat) :
    (sockets M Req urlIsSsl).through f = ProcOut.of f := by
  funext o
  cases o <;> rfl

variable (M Req) in
/-- The ids used by a queue are those it accepted. -/
def usedCustody : Custody (socketMachine M Req) Nat where
  held s id := s.used.count id
  taken := acceptedOf
  settled _ _ := 0
  lost _ _ := 0
  held_init := by rintro s ⟨self, name, rfl⟩ id; rfl
  held_step _ _ _ _ h id := by simpa using (step_used id h).1

/-- The uses of an id over all queues. -/
def uses (s : HyperClientProc M) (id : Nat) : Nat :=
  tally (fun t => t.sock.used.count id) s.clientSockets

/-- Only a send makes a queue accept a message. -/
theorem step_accepted {s s' : Sock M} {e : Ev M Req} {os : List (Out M Req)} (id : Nat)
    (h : s.step e = some (s', os)) (hpos : 0 < tally (acceptedOf id) os) :
    ∃ m, e = .send m ∧ m.request?.map (·.id) = some id := by
  cases moves_of_step h with
  | @send m =>
    refine ⟨m, rfl, ?_⟩
    cases m with
    | request r => simpa [hit_pos] using hpos
    | _ => simp [msgHit] at hpos
  | @response _ r => cases r <;> simp [recordOut] at hpos
  | @responded a _ b => cases hr : a.processHttpResponse b.resp <;> simp [answerReply, hr] at hpos
  | task _ hst => simp [(exchange_balanced id hst).2.2.2.1] at hpos
  | _ => simp at hpos

section
variable {urlIsSsl : Url → Bool} {s : HyperClientProc M}
  {tr : List (Rec (HyperClientProc M) (ProcEv M Req) (ProcOut M Req))}
  (hr : (clientMachine M Req urlIsSsl).Run tr s)
include hr

/-- The books of the sockets, summed. -/
theorem total_balance (C : Custody (socketMachine M Req) Nat) (id : Nat) :
    tally (fun t => C.held t.sock id) s.clientSockets +
        tally (ProcOut.of (C.settled id)) (outs tr) + tally (ProcOut.of (C.lost id)) (outs tr) =
      tally (ProcOut.of (C.taken id)) (outs tr) := by
  have := ((sockets M Req urlIsSsl).custody C).balance hr id
  have hc : tally (C.held · id) ((sockets M Req urlIsSsl).comps s) =
      tally (fun t => C.held t.sock id) s.clientSockets := tally_map _ _
  simp only [Hosts.custody, through_sockets] at this
  rw [← this, hc]

theorem accepted_total (id : Nat) : tally (ProcOut.of (acceptedOf id)) (outs tr) = uses s id := by
  have hz : tally (ProcOut.of (fun _ : Out M Req => 0)) (outs tr) = 0 :=
    tally_eq_zero.2 fun o _ => by cases o <;> rfl
  have := total_balance hr (usedCustody M Req) id
  simp only [usedCustody, hz] at this
  exact this.symm

end

/-- `process_http_response` of `adaptor` returned. -/
def Ev.responds (adaptor : HyperClientAdaptor M Req) : Ev M Req → Prop
  | .responded a | .task _ (.responded a) => a = adaptor
  | _ => False

/-- The error in a reply from `responseErr` is the adaptor's. -/
theorem step_responseErr {s s' : Sock M} {e : Ev M Req} {os : List (Out M Req)}
    {msg : RequestMsg M} {a : InternalMsg M} (h : s.step e = some (s', os))
    (ho : .replied .responseErr msg a ∈ os) : ∃ adaptor resp err, e.responds adaptor ∧
      adaptor.processHttpResponse resp = .error err ∧ a = msg.returnErrorToSender none err := by
  have answered {m : RequestMsg M} {adaptor : HyperClientAdaptor M Req}
      {resp : Except HyperError Response}
      (he : (.replied .responseErr msg a : Out M Req) =
        answerReply m (adaptor.processHttpResponse resp)) : ∃ err,
        adaptor.processHttpResponse resp = .error err ∧ a = msg.returnErrorToSender none err := by
    generalize hr : adaptor.processHttpResponse resp = r at he
    cases r with
    | ok d => cases he
    | error err => cases he; exact ⟨err, rfl, rfl⟩
  cases moves_of_step h with
  | @responded adaptor _ b hp =>
    obtain ⟨err, hr, ha⟩ := answered (List.mem_singleton.1 ho)
    exact ⟨adaptor, b.resp, err, rfl, hr, ha⟩
  | task _ hst =>
    cases mem_exchange hst ho with
    | @responded adaptor resp _ _ hr he =>
      subst hr
      obtain ⟨err, hr, ha⟩ := answered he
      exact ⟨adaptor, resp, err, rfl, hr, ha⟩
  | connOkPanic _ =>
    rcases List.mem_append.1 ho with ho | ho
    · exact absurd ho replied_notMem_repolls
    · exact absurd ho replied_notMem_drops
  | recvPanic => exact absurd ho replied_notMem_drops
  | @response _ r => cases r <;> cases List.mem_singleton.1 ho
  | _ =>
    first
    | exact absurd ho replied_notMem_drops
    | exact absurd ho replied_notMem_repolls
    | simp at ho

section
variable {urlIsSsl : Url → Bool} {s s' : HyperClientProc M} {e : ProcEv M Req}
  {os : List (ProcOut M Req)}

theorem tally_sock (f : Out M Req → Nat) (i : Nat) (os : List (Out M Req)) :
    tally (ProcOut.of f) (os.map (.sock i)) = tally f os := by
  rw [tally_map]
  rfl

/-- A step that makes a queue accept `id` finds it unused. -/
theorem uses_of_accepted (id : Nat) (h : s.step urlIsSsl e = some (s', os))
    (hpos : 0 < tally (ProcOut.of (acceptedOf id)) os) :
    uses s id = 0 ∧ tally (ProcOut.of (acceptedOf id)) os ≤ 1 := by
  cases procMoves_of_step h with
  | @sock i e t x os ht _ hf hst =>
    rw [tally_sock] at hpos ⊢
    obtain ⟨m, rfl, hm⟩ := step_accepted id hst hpos
    obtain ⟨r, hr, rfl⟩ := Option.map_eq_some_iff.1 hm
    simp only [HyperClientProc.fresh, hr, Option.all_some, List.all_eq_true, Bool.not_eq_true',
      List.contains_eq_mem, decide_eq_false_iff_not] at hf
    refine ⟨tally_eq_zero.2 fun t ht => List.count_eq_zero.2 (hf t ht), ?_⟩
    cases moves_of_step hst with
    | send => cases m <;> simp [msgHit, hit_le]
  | _ => simp at hpos

end

section
variable {urlIsSsl : Url → Bool} {s : HyperClientProc M}
  {tr : List (Rec (HyperClientProc M) (ProcEv M Req) (ProcOut M Req))}
  (hr : (clientMachine M Req urlIsSsl).Run tr s)
include hr

/-- **No request is accepted twice**, by one queue or by two. -/
theorem accepted_total_le (id : Nat) : tally (ProcOut.of (acceptedOf id)) (outs tr) ≤ 1 := by
  induction hr with
  | start => simp
  | @next tr s s' e os hr hst ih =>
    simp only [outs_append, outs_single, tally_append]
    rcases Nat.eq_zero_or_pos (tally (ProcOut.of (acceptedOf id)) os) with hz | hpos
    · omega
    · have hst : s.step urlIsSsl e = some (s', os) := hst
      obtain ⟨h0, h1⟩ := uses_of_accepted id hst hpos
      rw [accepted_total hr, h0]
      omega

theorem taken_total_le (id : Nat) :
    tally (ProcOut.of (takenOf id)) (outs tr) ≤ tally (ProcOut.of (acceptedOf id)) (outs tr) := by
  have := total_balance hr (queueCustody M Req) id
  simp only [queueCustody] at this
  omega

/-- **At most once**: a request is given to a sender at most once over all sockets. -/
theorem sent_total_le (id : Nat) : tally (ProcOut.of (sentOf id)) (outs tr) ≤ 1 := by
  have h1 := accepted_total_le hr id
  have h2 := taken_total_le hr id
  have h3 := total_balance hr (sendCustody M Req) id
  simp only [sendCustody] at h3
  omega

/-- A request that was refused without being sent is never sent. -/
theorem sent_of_refused {i : Nat} {site : Site} {msg : RequestMsg M} {a : InternalMsg M}
    (ho : .sock i (.replied site msg a) ∈ outs tr)
    (hs : site = .noData ∨ site = .drain ∨ site = .srvRequestErr) :
    tally (ProcOut.of (sentOf msg.id)) (outs tr) = 0 := by
  have h1 := accepted_total_le hr msg.id
  have h2 := taken_total_le hr msg.id
  have h3 := total_balance hr (sendCustody M Req) msg.id
  have h4 := le_tally (f := ProcOut.of (unsentReplyOf msg.id)) ho
  have h5 : ProcOut.of (unsentReplyOf msg.id)
      (.sock i (.replied site msg a) : ProcOut M Req) = 1 := by
    rcases hs with rfl | rfl | rfl <;> simp
  simp only [sendCustody] at h3
  omega

/-- Every `UnableToReachService` is for a request that is never sent, or is the adaptor's own answer
to an exchange. -/
theorem unsent_of_unable {r : Rec (HyperClientProc M) (ProcEv M Req) (ProcOut M Req)} (hm : r ∈ tr)
    {i : Nat} {site : Site} {msg : RequestMsg M} {id : Nat} {data : Option M} {name : String}
    (ho : .sock i (.replied site msg (.error ⟨id, data, .unableToReachService name⟩)) ∈ r.out) :
    tally (ProcOut.of (sentOf msg.id)) (outs tr) = 0 ∨ ∃ e adaptor resp, r.ev = .sock i e ∧
      e.responds adaptor ∧
        adaptor.processHttpResponse resp = .error (.unableToReachService name) := by
  have hmem := mem_outs.2 ⟨r, hm, ho⟩
  obtain ⟨-, hst⟩ := hr.step_of_mem hm
  obtain ⟨s₀, e, os, s₁⟩ := r
  have hst : s₀.step urlIsSsl e = some (s₁, os) := hst
  cases procMoves_of_step hst with
  | @sock j e t x os ht _ _ hx =>
    obtain ⟨o, hsock, heq⟩ := List.mem_map.1 ho
    cases heq
    have hsays := step_answers hx hsock
    cases site with
    | srvRequestErr => exact .inl (sent_of_refused hr hmem (.inr (.inr rfl)))
    | noData => exact .inl (sent_of_refused hr hmem (.inl rfl))
    | drain => exact .inl (sent_of_refused hr hmem (.inr (.inl rfl)))
    | response => obtain ⟨d, hd⟩ := hsays; cases hd
    | timeout => cases hsays
    | responseErr =>
      obtain ⟨adaptor, resp, err, he, hr, ha⟩ := step_responseErr hx hsock
      cases ha
      exact .inr ⟨e, adaptor, resp, rfl, he, hr⟩
  | _ => simp at ho

end

end Client
