import ProsaHyper.Client.Proof.Runs

/-!
# The message timeout of an exchange

`timeout(http_timeout, ..)` wraps `send_request` only: once it resolved, `process_http_response`
reads the body without a timer, and so does `close_socket!` keep the request of a connection that
failed.

* `owed_iff`: the requests that were given to the sender and got nothing yet, in a state.
* `step_timed`: what is in hand keeps its timer over a step that does not disarm it.
* `owed_armed_iff`: in a run every such request has its timer armed iff no step disarmed one.
-/

set_option autoImplicit false

namespace Client

open Prosa Http

variable {M Req : Type}

/-- The request `id` was given to the sender, and was neither answered nor dropped. -/
structure Owed (os : List (Out M Req)) (id : Nat) : Prop where
  sent : 0 < tally (sentOf id) os
  unanswered : tally (repliedOf id) os = 0
  kept : tally (droppedOf id) os = 0

/-- A timer of `http_timeout` runs out, of the loop or of a spawned task. -/
inductive Ev.runsOut : Ev M Req → Prop
  | loop : runsOut .elapsed
  | task {k : Nat} : runsOut (.task k .elapsed)

/-- A timer is armed for the request `id`, which is answered with `Timeout` when it runs out. There
is no clock: when it was started is not part of the state, `send_request` and its timer being one
`timeout(..)`. -/
def Armed (M Req : Type) (s : Sock M) (id : Nat) : Prop :=
  ∃ (e : Ev M Req) (s' : Sock M) (os : List (Out M Req)) (msg : RequestMsg M), e.runsOut ∧
    s.step e = some (s', os) ∧ msg.id = id ∧ .replied .timeout msg
      (msg.returnErrorToSender none (.timeout s.serviceName s.self.httpTimeout)) ∈ os

/-- The step keeps a request and stops its timer: the outcome of the exchange is handed to
`process_http_response`, also where this returns without suspending, or the connection fails with a
request in flight. -/
def disarms (s : Sock M) : Ev M Req → Bool
  | .response _ _ | .task _ (.response _ _) => true
  | .connection (some (.error _)) => s.pc.hand.isSome
  | _ => false

/-- What the loop and its tasks hold is before the end of `send_request`. -/
structure Timed (s : Sock M) : Prop where
  hand : ∀ msg, s.pc.hand = some msg → ∃ x, s.pc = .inFlight x
  tasks : ∀ x ∈ s.tasks, ∀ b, x.pc ≠ .processing b

section
variable {s s' : Sock M} {e : Ev M Req} {os : List (Out M Req)} {id : Nat}
  {tr : List (Rec (Sock M) (Ev M Req) (Out M Req))}

/-! ## The requests owed an answer -/

theorem held_le (hr : (socketMachine M Req).Run tr s) (id : Nat) : held s id ≤ 1 := by
  have hb := (handCustody M Req).balance hr id
  have hle := taken_le hr id
  simp only [handCustody] at hb
  omega

theorem owes_le_holds (x : Exchange M) (id : Nat) : x.owes id ≤ x.holds id := by
  unfold Exchange.owes Exchange.holds Exchange.unsent? Exchange.open?
  cases x.pc <;> simp

theorem unsent_le (s : Sock M) (id : Nat) : unsent s id ≤ tally (Exchange.holds id) s.tasks :=
  tally_le fun x _ => owes_le_holds x id

theorem unsentReply_le (id : Nat) (os : List (Out M Req)) :
    tally (unsentReplyOf id) os ≤ tally (repliedOf id) os := by
  refine tally_le fun o _ => ?_
  cases o with
  | replied site => cases site <;> simp
  | _ => simp

/-- A request is owed an answer iff it is held, and not by a task that has still to send it. -/
theorem owed_iff (hr : (socketMachine M Req).Run tr s) :
    Owed (outs tr) id ↔ 0 < held s id ∧ unsent s id = 0 := by
  have hh := (handCustody M Req).balance hr id
  have hs := (sendCustody M Req).balance hr id
  have hle := taken_le hr id
  have hu := unsentReply_le id (outs tr)
  have huh := unsent_le s id
  have hheld : held s id = inHand s.pc id + tally (Exchange.holds id) s.tasks := rfl
  simp only [handCustody, sendCustody] at hh hs
  constructor
  · intro h
    have := h.sent
    have := h.unanswered
    have := h.kept
    omega
  · rintro ⟨hpos, h0⟩
    exact ⟨by omega, by omega, by omega⟩

theorem inHand_pos {pc : Pc M} : 0 < inHand pc id ↔ ∃ msg, pc.hand = some msg ∧ msg.id = id := by
  unfold inHand
  cases pc.hand with
  | none => simp
  | some msg => simp [hit_pos]

/-! ## What an armed timer is -/

/-- The timer is that of the in-flight `select!`, or of a task that waits for `send_request`. -/
theorem armed_cases (h : Armed M Req s id) : (∃ x, s.pc = .inFlight x ∧ x.msg.id = id) ∨
    ∃ (k : Nat) (x : Exchange M) (b : Bool), s.tasks[k]? = some x ∧ x.pc = .sending b ∧
      x.msg.id = id := by
  obtain ⟨e, s', os, msg, he, hst, hid, hm⟩ := h
  cases he with
  | loop =>
    cases moves_of_step hst with
    | elapsed hp =>
      cases List.mem_singleton.1 hm
      exact .inl ⟨_, hp, hid⟩
  | @task k =>
    cases moves_of_step hst with
    | task hx ht =>
      cases taskMoves_of_step ht with
      | elapsed hp =>
        cases List.mem_singleton.1 hm
        exact .inr ⟨_, _, _, hx, hp, hid⟩

theorem armed_inFlight {x : InFlight M} (hp : s.pc = .inFlight x) : Armed M Req s x.msg.id := by
  have hst : (s.step .elapsed : Option (Sock M × List (Out M Req))) =
      some (s.closeSocket none, [.replied .timeout x.msg
        (x.msg.returnErrorToSender none (.timeout s.serviceName s.self.httpTimeout))]) := by
    simp only [Sock.step, Sock.onElapsed, hp]
  exact ⟨.elapsed, _, _, x.msg, .loop, hst, rfl, List.mem_singleton.2 rfl⟩

theorem armed_sending {k : Nat} {x : Exchange M} {b : Bool} (hx : s.tasks[k]? = some x)
    (hp : x.pc = .sending b) : Armed M Req s x.msg.id := by
  have hst : (s.step (.task k .elapsed) : Option (Sock M × List (Out M Req))) =
      some ({ s with tasks := s.tasks.set k { x with pc := .finished } }, [.replied .timeout x.msg
        (x.msg.returnErrorToSender none (.timeout s.serviceName s.self.httpTimeout))]) := by
    simp only [Sock.step, Sock.onTask, hx, Exchange.step, hp, Option.map_some]
  exact ⟨.task k .elapsed, _, _, x.msg, .task, hst, rfl, List.mem_singleton.2 rfl⟩

/-- Where nothing is held past `send_request`, every request owed an answer has its timer. -/
theorem Timed.armed (ht : Timed s) (hpos : 0 < held s id) (h0 : unsent s id = 0) :
    Armed M Req s id := by
  rcases Nat.eq_zero_or_pos (inHand s.pc id) with hz | hhand
  · have htask : 0 < tally (Exchange.holds id) s.tasks := by
      unfold held at hpos
      omega
    obtain ⟨x, hm, hx⟩ := tally_pos_iff.1 htask
    obtain ⟨hopen, hid⟩ := holds_pos.1 hx
    obtain ⟨k, hk⟩ := List.getElem?_of_mem hm
    cases hpc : x.pc with
    | start d =>
      have howes : 0 < x.owes id := by simp [Exchange.owes, Exchange.unsent?, hpc, hit_pos, hid]
      exact absurd (tally_eq_zero.1 h0 x hm) (Nat.ne_of_gt howes)
    | sending b => exact hid ▸ armed_sending hk hpc
    | processing b => exact absurd hpc (ht.tasks x hm b)
    | finished => rw [Exchange.open?, hpc] at hopen; cases hopen
  · obtain ⟨msg, hhand, hid⟩ := inHand_pos.1 hhand
    obtain ⟨x, hp⟩ := ht.hand msg hhand
    rw [hp] at hhand
    cases hhand
    exact hid ▸ armed_inFlight hp

/-! ## Steps that keep the timer -/

theorem Timed.idle (ht : Timed s) (hh : s'.pc.hand = none) (htasks : s'.tasks = s.tasks) :
    Timed s' :=
  ⟨fun msg hm => by (rw [hh] at hm; cases hm), by rw [htasks]; exact ht.tasks⟩

theorem step_timed (ht : Timed s) (hd : disarms s e = false) (h : s.step e = some (s', os)) :
    Timed s' := by
  cases moves_of_step h with
  | send | dropSenders | ioDropped | connPending | exchangeEnded | answeredEarly =>
    exact ⟨ht.hand, ht.tasks⟩
  | frame hp | bodyPoll hp =>
    obtain ⟨x, hx⟩ := ht.hand _ (by rw [hp]; rfl)
    rw [hp] at hx
    cases hx
  | connErr =>
    have hh : s.pc.hand = none := by simpa [disarms] using hd
    exact ht.idle hh rfl
  | connOkInFlight | recvSend => exact ⟨fun _ _ => ⟨_, rfl⟩, ht.tasks⟩
  | recvSpawn =>
    refine ⟨(fun _ hm => by cases hm), fun x hx b => ?_⟩
    rcases List.mem_append.1 hx with hx | hx
    · exact ht.tasks x hx b
    · cases List.mem_singleton.1 hx
      simp
  | response => cases hd
  | removed hp | drainEmpty hp =>
    refine ⟨fun msg hm => ?_, ht.tasks⟩
    obtain ⟨x, hx⟩ := ht.hand msg (by rw [hp]; exact hm)
    rw [hp] at hx
    cases hx
  | drainRequest | drainOther => exact ⟨ht.hand, ht.tasks⟩
  | @task k _ x x' _ hx hst =>
    refine ⟨ht.hand, fun y hy b => ?_⟩
    have old : ∀ b', x.pc ≠ .processing b' := ht.tasks x (List.mem_of_getElem? hx)
    rcases List.mem_or_eq_of_mem_set hy with hy | rfl
    · exact ht.tasks y hy b
    · cases taskMoves_of_step hst with
      | sent | refused | elapsed | responded => simp
      | response => cases hd
      | frame hp | bodyPoll hp => exact absurd hp (old _)
  | _ => exact ht.idle rfl rfl

theorem timed_of_run (hr : (socketMachine M Req).Run tr s)
    (hd : Machine.Along (fun s e => disarms s e = false) tr) : Timed s := by
  refine hr.along_invariant (I := fun _ s => Timed s) ?_
    (fun _ _ _ _ _ _ ht hd hst => step_timed ht hd hst) hd
  intro s hi
  obtain ⟨self, name, rfl⟩ := hi
  exact ⟨(fun _ h => by cases h), (fun _ h => by cases h)⟩

/-! ## Steps that disarm -/

/-- A task past `send_request` holds a request owed an answer, without a timer. -/
theorem disarmed_of_task (hr : (socketMachine M Req).Run tr s) {k : Nat} {x : Exchange M}
    {b : Reading} (hx : s.tasks[k]? = some x) (hp : x.pc = .processing b) :
    ∃ id, Owed (outs tr) id ∧ ¬ Armed M Req s id := by
  have hxpos : 0 < x.holds x.msg.id := holds_pos.2 ⟨by rw [Exchange.open?, hp], rfl⟩
  have hle : inHand s.pc x.msg.id + tally (Exchange.holds x.msg.id) s.tasks ≤ 1 :=
    held_le hr x.msg.id
  have hpos : 0 < tally (Exchange.holds x.msg.id) s.tasks :=
    tally_pos_iff.2 ⟨x, List.mem_of_getElem? hx, hxpos⟩
  -- no other task holds the request
  have only : ∀ {k' : Nat} {y : Exchange M}, s.tasks[k']? = some y → 0 < y.holds x.msg.id →
      y = x := by
    intro k' y hy hypos
    have hk : k' = k := eq_of_tally_le_one (by omega) hy hx hypos hxpos
    rw [hk, hx] at hy
    exact (Option.some.inj hy).symm
  refine ⟨x.msg.id, (owed_iff hr).2 ⟨Nat.lt_of_lt_of_le hpos (Nat.le_add_left _ _), ?_⟩,
    fun ha => ?_⟩
  · refine tally_eq_zero.2 fun y hy => ?_
    obtain ⟨k', hk'⟩ := List.getElem?_of_mem hy
    rcases Nat.eq_zero_or_pos (y.owes x.msg.id) with hz | hypos
    · exact hz
    · have hyx := only hk' (Nat.lt_of_lt_of_le hypos (owes_le_holds y _))
      rw [hyx, Exchange.owes, Exchange.unsent?, hp]
      rfl
  · rcases armed_cases ha with ⟨y, hy, hid⟩ | ⟨k', y, b', hy, hpc, hid⟩
    · have hhand : 0 < inHand s.pc x.msg.id := inHand_pos.2 ⟨y.msg, by rw [hy]; rfl, hid⟩
      omega
    · rw [only hy (holds_pos.2 ⟨by rw [Exchange.open?, hpc], hid⟩), hp] at hpc
      cases hpc

/-- So does a loop past `send_request`. -/
theorem disarmed_of_hand (hr : (socketMachine M Req).Run tr s) {msg : RequestMsg M}
    (hm : s.pc.hand = some msg) (hp : ∀ x, s.pc ≠ .inFlight x) :
    ∃ id, Owed (outs tr) id ∧ ¬ Armed M Req s id := by
  have hhand : 0 < inHand s.pc msg.id := inHand_pos.2 ⟨msg, hm, rfl⟩
  have hle : inHand s.pc msg.id + tally (Exchange.holds msg.id) s.tasks ≤ 1 := held_le hr msg.id
  have hunsent := unsent_le s msg.id
  have hpos : 0 < held s msg.id := Nat.lt_of_lt_of_le hhand (Nat.le_add_right _ _)
  refine ⟨msg.id, (owed_iff hr).2 ⟨hpos, by omega⟩, fun ha => ?_⟩
  rcases armed_cases ha with ⟨x, hx, -⟩ | ⟨k, x, b, hx, hpc, hid⟩
  · exact hp x hx
  · have hx' : x.holds msg.id ≤ tally (Exchange.holds msg.id) s.tasks :=
      le_tally (List.mem_of_getElem? hx)
    have hxpos : 0 < x.holds msg.id := holds_pos.2 ⟨by rw [Exchange.open?, hpc], hid⟩
    omega

/-- A step that disarms leaves a request owed an answer without a timer. -/
theorem disarmed_of_step (hr : (socketMachine M Req).Run (tr ++ [⟨s, e, os, s'⟩]) s')
    (hd : disarms s e = true) (h : s.step e = some (s', os)) :
    ∃ id, Owed (outs (tr ++ [⟨s, e, os, s'⟩])) id ∧ ¬ Armed M Req s' id := by
  cases moves_of_step h with
  | response => exact disarmed_of_hand hr rfl (by simp)
  | connErr =>
    obtain ⟨msg, hm⟩ := Option.isSome_iff_exists.1 hd
    exact disarmed_of_hand hr hm (by simp)
  | @task k ev x x' _ hx hst =>
    cases taskMoves_of_step hst with
    | @response r n accepted hp =>
      exact disarmed_of_task hr (k := k)
        (getElem?_set_self_some hx _) rfl
    | _ => cases hd
  | _ => cases hd

/-- **Every started exchange is under the message timeout**, in every state of a run, iff no step
of the run disarmed a timer. -/
theorem owed_armed_iff (hr : (socketMachine M Req).Run tr s) :
    (∀ ta r tb, tr = ta ++ r :: tb → ∀ id, Owed (outs (ta ++ [r])) id → Armed M Req r.post id) ↔
      Machine.Along (fun s e => disarms s e = false) tr := by
  constructor
  · intro h r hm
    obtain ⟨ta, tb, rfl⟩ := List.append_of_mem hm
    obtain ⟨hr₀, hst, -⟩ := hr.split
    by_contra hd
    obtain ⟨id, ho, hn⟩ := disarmed_of_step (hr₀.next hst) (by simpa using hd) hst
    exact hn (h ta r tb rfl id ho)
  · rintro h ta r tb rfl id ho
    obtain ⟨hr₀, hst, -⟩ := hr.split
    have hr₁ := hr₀.next hst
    have hal : Machine.Along (fun s e => disarms s e = false) (ta ++ [r]) :=
      (Machine.along_append.1 (by simpa using h : Machine.Along _ ((ta ++ [r]) ++ tb))).1
    obtain ⟨hpos, h0⟩ := (owed_iff hr₁).1 ho
    exact (timed_of_run hr₁ hal).armed hpos h0

end

/-- The backend sends the head of a response to request 7 and none of its body. -/
def neverEnds : List (Ev Nat Nat) :=
  registered ++ [.send (.request ⟨7, "svc", some 1, 0⟩), .recv echo,
    .response (.ok ⟨200, .http11, [], ["chunk"]⟩) 0, .bodyPoll]

/-- The adaptor waits for the body, and no timer is armed. -/
theorem neverEnds_unarmed : ∃ q,
    (socketMachine Nat Nat).exec (Sock.new plainSocket "svc") neverEnds = some q ∧
      (socketMachine Nat Nat).Run q.1 q.2 ∧ Owed (outs q.1) 7 ∧ q.2.pc.polls = [.adaptor] ∧
      ¬ Armed Nat Nat q.2 7 := by
  refine ⟨_, (Option.some_get rfl).symm, Machine.run_get (init_new _ _) rfl,
    ⟨by decide, rfl, rfl⟩, rfl, fun h => ?_⟩
  rcases armed_cases h with ⟨x, hx, -⟩ | ⟨k, x, b, hx, -⟩
  · cases hx
  · cases hx

/-- The backend never answers request 7. -/
def neverAnswers : List (Ev Nat Nat) :=
  registered ++ [.send (.request ⟨7, "svc", some 1, 0⟩), .recv echo, .connection none]

theorem neverAnswers_armed : ∃ q,
    (socketMachine Nat Nat).exec (Sock.new plainSocket "svc") neverAnswers = some q ∧
      Owed (outs q.1) 7 ∧ ∀ ta r tb, q.1 = ta ++ r :: tb → ∀ id, Owed (outs (ta ++ [r])) id →
        Armed Nat Nat r.post id := by
  refine ⟨_, (Option.some_get rfl).symm, ⟨by decide, rfl, rfl⟩,
    (owed_armed_iff (Machine.run_get (init_new _ _) rfl)).2 ?_⟩
  exact Machine.along_of_none rfl

end Client
