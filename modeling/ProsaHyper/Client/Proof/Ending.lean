import ProsaHyper.Client.Proof.Books

/-!
# The end of the client processor

When `internal_run` returns, the `JoinSet` is dropped and the tasks left in it are aborted with what
they hold. `ends_clean`: where no step is one of `losesAtEnd`, every request that a socket queue
accepted has exactly one reply once all is over, and no queue is left registered.
-/

set_option autoImplicit false

namespace Client

open Prosa Http

variable {M Req : Type}

/-- A request is in the hand of the loop or in the queue. -/
def Sock.carries (s : Sock M) : Bool :=
  s.pc.hand.isSome || s.rxQueue.buf.any (·.request?.isSome)

/-- The socket task is stopped, fails, panics or returns while it carries a request. -/
def losesOnEnd (s : Sock M) : Ev M Req → Bool
  | .aborted | .returned | .procQueueRemoved false | .procQueueAdded false | .serviceAdded false
  | .connected (.error _) | .handshaken none | .handshaken (some (.error _)) | .recvClosed =>
    s.carries
  | .connection (some (.ok _)) => (s.pc matches .idle _ false) && s.carries
  | .recv _ => s.rxQueue.buf.head?.any isAnswer && s.carries
  | _ => false

/-- The join of the task is a `JoinError`. -/
def Pc.isCut : Pc M → Bool
  | .panicked | .aborted => true
  | _ => false

/-- `internal_run` returns or has returned. -/
def RunPc.gone : RunPc M → Bool
  | .returning _ | .ended _ => true
  | _ => false

/-- The steps by which the end of the processor loses a request or leaves a queue registered: a
socket task ends while it carries a request, or registers once `internal_run` returns; the join of a
socket task that panicked, or the failure of `remove_proc`, makes it return with a queue
registered. -/
def losesAtEnd (s : HyperClientProc M) : ProcEv M Req → Bool
  | .sock i e => (s.clientSockets[i]?.any fun t => losesOnEnd t.sock e) ||
      ((e matches .procQueueAdded true) && s.pc.gone)
  | .joinError i _ => (s.clientSockets[i]?.any fun t => t.sock.pc.isCut) && !s.bus.queues.isEmpty
  | .procRemoved ok => !ok && !s.bus.queues.isEmpty
  | _ => false

/-! ## No request is dropped -/

section
variable {s s' : Sock M} {e : Ev M Req} {os : List (Out M Req)}

theorem drops_of_not_carries (h : s.carries = false) : (s.drops : List (Out M Req)) = [] := by
  simp only [Sock.carries, Bool.or_eq_false_iff, Option.isSome_eq_false_iff,
    Option.isNone_iff_eq_none, List.any_eq_false, Bool.not_eq_true] at h
  have hq : s.rxQueue.buf.filterMap InternalMsg.request? = [] := List.filterMap_eq_nil_iff.2 h.2
  simp [Sock.drops, h.1, hq]

/-- What a step drops or discards. -/
def lostOf : Out M Req → Nat
  | .dropped _ | .discarded _ => 1
  | _ => 0

theorem lostOf_drops (h : s.carries = false) : tally lostOf (s.drops : List (Out M Req)) = 0 := by
  rw [drops_of_not_carries h]
  rfl

theorem step_keeps (hl : losesOnEnd s e = false) (h : s.step e = some (s', os)) :
    tally lostOf os = 0 := by
  cases moves_of_step h with
  | connectFailed | procQueueFailed | serviceFailed | recvClosedPanic | removeFailed | returned
  | aborted => exact lostOf_drops hl
  | @handshakeFailed r _ hp hr =>
    match r, hr, hl with
    | none, _, hl => exact lostOf_drops hl
    | some (.error _), _, hl => exact lostOf_drops hl
    | some (.ok u), hr, _ => exact absurd rfl (hr u)
  | connOkPanic hp =>
    have hc : s.carries = false := by simpa [losesOnEnd, hp] using hl
    have hz : tally lostOf (s.drops : List (Out M Req)) = 0 := lostOf_drops hc
    simp [hz, lostOf]
  | @recvPanic _ _ m q hp hq ha =>
    refine lostOf_drops ?_
    obtain ⟨hb, -⟩ := Chan.recv_eq_some hq
    simp only [losesOnEnd, Sock.carries, hb, List.head?_cons, Option.any_some, ha, Bool.true_and,
      List.any_cons, Bool.or_eq_false_iff] at hl
    simp only [Sock.carries, hl, Bool.or_self]
  | @response _ r => cases r <;> rfl
  | @responded a _ b => cases a.processHttpResponse b.resp <;> simp [answerReply, lostOf]
  | task _ hst =>
    refine tally_eq_zero.2 fun o ho => ?_
    cases mem_exchange hst ho with
    | @responded _ _ r _ _ he => subst he; cases r <;> rfl
    | _ => rfl
  | connPending | connErr | connOkIdle | connOkInFlight => simp [lostOf]
  | _ => rfl

/-! ## No queue is left -/

/-- Only `setup_socket_queue` adds a queue. -/
theorem step_adds {id : Nat} (h : s.step e = some (s', os)) (ha : .bus (.addProcQueue id) ∈ os) :
    e = .procQueueAdded true := by
  have silent : ∀ {o : Out M Req}, o = .bus (.addProcQueue id) → o.bus? ≠ none := by
    rintro o rfl
    simp
  cases moves_of_step h with
  | procQueueAdded => rfl
  | connectFailed | handshakeFailed | procQueueFailed | serviceFailed | recvPanic | recvClosedPanic
  | removeFailed | returned | aborted => exact absurd (bus?_drops ha) (silent rfl)
  | connPending | connErr | connOkIdle | connOkInFlight =>
    exact absurd (bus?_repolls ha) (silent rfl)
  | connOkPanic =>
    rcases List.mem_append.1 ha with ha | ha
    · exact absurd (bus?_repolls ha) (silent rfl)
    · exact absurd (bus?_drops ha) (silent rfl)
  | task _ hst => exact absurd (bus?_exchange hst ha) (silent rfl)
  | @response _ r => cases r <;> cases List.mem_singleton.1 ha
  | @responded a _ b =>
    exact absurd (bus?_answerReply _ _) (silent (List.mem_singleton.1 ha).symm)
  | _ => simp at ha

theorem regs_queues_nil {owner : Nat} {b : Bus} (hb : b.queues = [])
    (h : ∀ id, .bus (.addProcQueue id) ∉ os) : (regs owner b os).queues = [] := by
  induction os generalizing b with
  | nil => exact hb
  | cons o os ih =>
    have htail : ∀ id, .bus (.addProcQueue id) ∉ os := fun id hm => h id (List.mem_cons_of_mem _ hm)
    rw [← List.singleton_append, regs_append]
    refine ih ?_ htail
    cases o with
    | bus op =>
      cases op with
      | addProcQueue id => exact absurd List.mem_cons_self (h id)
      | removeProcQueue id => simp [regs, Bus.apply, hb]
      | removeProc => rfl
      | _ => simpa [regs, Bus.apply] using hb
    | _ => exact hb

end

section
variable {urlIsSsl : Url → Bool} {s s' : HyperClientProc M} {e : ProcEv M Req}
  {os : List (ProcOut M Req)}

/-- No queue is registered before the sockets are created and once the processor is gone. -/
structure BusClean (s : HyperClientProc M) : Prop where
  start : s.pc = .start → s.bus.queues = []
  gone : s.pc.gone = true → s.bus.queues = []

theorem step_busClean (hp : PoolInv s) (hs : BusClean s) (hl : losesAtEnd s e = false)
    (h : s.step urlIsSsl e = some (s', os)) : BusClean s' := by
  obtain ⟨hst, hgo⟩ := hs
  cases procMoves_of_step h with
  | internal | dropSenders | recvService | recvClosed => exact ⟨hst, hgo⟩
  | startFailed hpc | noBackend hpc _ => exact ⟨(fun h => by cases h), fun _ => hst hpc⟩
  | created | recvPanic | recvShutdown | recvClosedPanic =>
    exact ⟨(fun h => by cases h), (fun h => by cases h)⟩
  | respawned hpc | joinedErr hpc => exact ⟨hst, hgo⟩
  | joinError hpc ht hj hover =>
    refine ⟨(fun h => by cases h), fun _ => ?_⟩
    rcases hover with hover | hover <;> simpa [losesAtEnd, ht, hover, Pc.isCut] using hl
  | procRemoved => exact ⟨(fun h => by cases h), fun _ => rfl⟩
  | procRemoveFailed => exact ⟨(fun h => by cases h), fun _ => by simpa [losesAtEnd] using hl⟩
  | @returned r hpc => exact ⟨(fun h => by cases h), fun _ => hgo (by simp [hpc, RunPc.gone])⟩
  | @sock i e t x os ht _ _ hx =>
    refine ⟨fun hpc => ?_, fun hgone => regs_queues_nil (hgo hgone) fun id ha => ?_⟩
    · simp [hp.start hpc] at ht
    · cases step_adds hx ha
      have hgone : s.pc.gone = true := hgone
      simp [losesAtEnd, hgone] at hl

/-- Without a step of `losesAtEnd` nothing is dropped or discarded. -/
theorem step_lostOf (hl : losesAtEnd s e = false) (h : s.step urlIsSsl e = some (s', os)) :
    tally (ProcOut.of lostOf) os = 0 := by
  cases procMoves_of_step h with
  | sock ht _ _ hx =>
    rw [tally_sock]
    simp only [losesAtEnd, ht, Option.any_some, Bool.or_eq_false_iff] at hl
    exact step_keeps hl.1 hx
  | _ => rfl

end

/-- The processor has ended, its socket tasks are over and the exchanges they spawned have
finished. -/
structure Settled (s : HyperClientProc M) : Prop where
  ended : ∃ r, s.pc = .ended r
  sockets : ∀ t ∈ s.clientSockets, t.sock.pc.isOver = true
  finished : ∀ t ∈ s.clientSockets, ∀ x ∈ t.sock.tasks, x.open? = false

section
variable {urlIsSsl : Url → Bool} {s : HyperClientProc M}
  {tr : List (Rec (HyperClientProc M) (ProcEv M Req) (ProcOut M Req))}
  (hr : (clientMachine M Req urlIsSsl).Run tr s)
include hr

theorem clean_of_run (hk : Machine.Along (fun s e => losesAtEnd s e = false) tr) :
    BusClean s ∧ tally (ProcOut.of lostOf) (outs tr) = 0 := by
  refine hr.along_invariant
    (I := fun tr s => BusClean s ∧ tally (ProcOut.of lostOf) (outs tr) = 0) ?_ ?_ hk
  · intro s hi
    obtain ⟨settings, rfl⟩ := hi
    exact ⟨⟨fun _ => rfl, fun _ => rfl⟩, rfl⟩
  · intro tr s e s' os hr hI hke hst
    have hst : s.step urlIsSsl e = some (s', os) := hst
    obtain ⟨hb, hz⟩ := hI
    refine ⟨step_busClean (poolInv_of_run hr) hb hke hst, ?_⟩
    simp [hz, step_lostOf hke hst]

/-- Each socket of a reachable processor has the shape of a socket. -/
theorem shape_of_task {t : SockTask M} (ht : t ∈ s.clientSockets) : Shape t.sock := by
  obtain ⟨i, hi⟩ := List.mem_iff_getElem?.1 ht
  obtain ⟨tr', hr', -, -⟩ := (sockets M Req urlIsSsl).project hr (i := i) (x := t.sock)
    (by simp [sockets, hi])
  exact shape_of_run hr'

/-- Nothing is queued or held once all is over. -/
theorem Settled.empty (hs : Settled s) (id : Nat) :
    tally (fun t => queued t.sock id) s.clientSockets = 0 ∧
      tally (fun t => held t.sock id) s.clientSockets = 0 := by
  refine ⟨tally_eq_zero.2 fun t ht => ?_, tally_eq_zero.2 fun t ht => ?_⟩
  · rw [queued, (shape_of_task hr ht).buf_nil (hs.sockets t ht)]
    rfl
  · have hhand : t.sock.pc.hand = none := by
      have := hs.sockets t ht
      cases hpc : t.sock.pc <;> simp_all [Pc.isOver]
    have htasks : tally (Exchange.holds id) t.sock.tasks = 0 :=
      tally_eq_zero.2 fun x hx => by simp [Exchange.holds, hs.finished t ht x hx]
    simp [held, inHand, hhand, htasks]

/-- **The end of the processor.** In a run none of whose steps is one of `losesAtEnd`, once all is
over every request that a socket queue accepted has exactly one reply, and no queue is left. -/
theorem ends_clean (hk : Machine.Along (fun s e => losesAtEnd s e = false) tr) (hs : Settled s) :
    (∀ id, 0 < tally (ProcOut.of (acceptedOf id)) (outs tr) →
      tally (ProcOut.of (repliedOf id)) (outs tr) = 1) ∧ s.bus.queues = [] := by
  obtain ⟨hb, hz⟩ := clean_of_run hr hk
  have none_lost : ∀ (f : Out M Req → Nat), (∀ o, f o ≤ lostOf o) →
      tally (ProcOut.of f) (outs tr) = 0 := fun f hf => by
    have hle : tally (ProcOut.of f) (outs tr) ≤ tally (ProcOut.of lostOf) (outs tr) :=
      tally_le fun o _ => by cases o <;> simp [hf]
    omega
  refine ⟨fun id ha => ?_, hb.gone ?_⟩
  · have h1 := total_balance hr (queueCustody M Req) id
    have h2 := total_balance hr (handCustody M Req) id
    obtain ⟨h3, h4⟩ := hs.empty hr id
    have h5 := none_lost (discardedOf id) fun o => by cases o <;> simp [lostOf, hit_le]
    have h6 := none_lost (droppedOf id) fun o => by cases o <;> simp [lostOf, hit_le]
    have h7 := accepted_total_le hr id
    simp only [queueCustody, handCustody] at h1 h2
    omega
  · obtain ⟨r, hr⟩ := hs.ended
    rw [hr]
    rfl

end

/-- Request 7 is in flight when the processor is shut down. -/
def shutInFlight : List (ProcEv Nat Nat) :=
  .started (.ok ()) :: registered.map (.sock 0) ++
    [.sock 0 (.send (.request ⟨7, "svc", some 1, 0⟩)), .sock 0 (.recv echo), .internal .shutdown,
      .recv, .procRemoved true, .returned, .sock 0 .aborted]

/-- All is over, and request 7 has no reply. -/
theorem shutInFlight_unanswered : ∃ q,
    (clientMachine Nat Nat noSsl).exec (HyperClientProc.new oneBackend) shutInFlight = some q ∧
      (clientMachine Nat Nat noSsl).Run q.1 q.2 ∧ Settled q.2 ∧
      tally (ProcOut.of (acceptedOf 7)) (outs q.1) = 1 ∧
      tally (ProcOut.of (repliedOf 7)) (outs q.1) = 0 := by
  refine ⟨_, (Option.some_get rfl).symm, Machine.run_get (init_proc _ _) rfl,
    ⟨⟨_, rfl⟩, ?_, ?_⟩, rfl, rfl⟩
  · exact fun t ht => by cases List.mem_singleton.1 ht; rfl
  · intro t ht x hx
    cases List.mem_singleton.1 ht
    cases hx

/-- The socket answers request 7 and is idle when the processor is shut down. -/
def shutIdle : List (ProcEv Nat Nat) :=
  .started (.ok ()) :: registered.map (.sock 0) ++
    [.sock 0 (.send (.request ⟨7, "svc", some 1, 0⟩)), .sock 0 (.recv echo),
      .sock 0 (.response (.ok ⟨200, .http11, [], []⟩) 1), .sock 0 (.responded echo),
      .internal .shutdown, .recv, .procRemoved true, .returned, .sock 0 .aborted]

theorem shutIdle_clean : ∃ q,
    (clientMachine Nat Nat noSsl).exec (HyperClientProc.new oneBackend) shutIdle = some q ∧
      (∀ id, 0 < tally (ProcOut.of (acceptedOf id)) (outs q.1) →
        tally (ProcOut.of (repliedOf id)) (outs q.1) = 1) ∧ q.2.bus.queues = [] := by
  refine ⟨_, (Option.some_get rfl).symm, ends_clean (Machine.run_get (init_proc _ _) rfl) ?_
    ⟨⟨_, rfl⟩, ?_, ?_⟩⟩
  · exact Machine.along_of_none rfl
  · exact fun t ht => by cases List.mem_singleton.1 ht; rfl
  · intro t ht x hx
    cases List.mem_singleton.1 ht
    cases hx

end Client
