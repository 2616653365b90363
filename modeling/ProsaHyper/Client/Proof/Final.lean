import ProsaHyper.Client.Proof.Clean
import ProsaHyper.Client.Proof.Ids

/-!
# A socket that was shut down

A socket task that took a `Shutdown`, one that lost its connection and one that timed out all return
`Ok(self)`, which `internal_run` takes for a socket to start again.

* `join_spawns`: what `join_next` does with a task depends on its result only.
* `staysDown_iff`: from a state on, nothing is spawned for a task that has ended iff `internal_run`
  has left its `select!`, or the task did not return its socket.
* `shutdown_final_iff`: the same for the sockets of a run that were sent a `Shutdown`.
-/

set_option autoImplicit false

namespace Client

open Prosa Http

variable {M Req : Type}

/-- A `Shutdown` was put into the queue of socket `i`. -/
def Told (tr : List (Rec (HyperClientProc M) (ProcEv M Req) (ProcOut M Req))) (i : Nat) : Prop :=
  ∃ r ∈ tr, r.ev = .sock i (.send .shutdown)

/-- The task `i` has ended, and `join_next` has not returned it. -/
def Joinable (s : HyperClientProc M) (i : Nat) : Prop :=
  ∃ t, s.clientSockets[i]? = some t ∧ t.sock.pc.isOver = true ∧ t.joined = false

/-- The task `i` has returned its socket. -/
def Returned (s : HyperClientProc M) (i : Nat) : Prop :=
  ∃ x socket, s.socks[i]? = some x ∧ x.pc = .ended (.ok socket)

/-- `internal_run` is in its `select!`, and the task `i` has returned its socket. -/
def reopens (s : HyperClientProc M) (i : Nat) : Bool :=
  match s.pc, s.socks[i]?.map Sock.pc with
  | .select, some (.ended (.ok _)) => true
  | _, _ => false

/-- The step spawns a task for the socket of the task `i`. -/
def SpawnsFor (r : Rec (HyperClientProc M) (ProcEv M Req) (ProcOut M Req)) (i : Nat) : Prop :=
  r.ev = .join i ∧ r.pre.clientSockets.length < r.post.clientSockets.length

/-- Whatever happens from `s` on, no task is spawned for the socket of the task `i`, which registers
no service. -/
def StaysDown (M Req : Type) (urlIsSsl : Url → Bool) (s : HyperClientProc M) (i : Nat) : Prop :=
  ∀ tr s', ((clientMachine M Req urlIsSsl).startAt s).Run tr s' → ∀ r ∈ tr,
    ¬ SpawnsFor r i ∧ ∀ name id, .sock i (.bus (.addService name id)) ∉ r.out

/-- The task `i` has ended, and none is spawned for it: `internal_run` has left its `select!`, or
the task has not returned its socket. -/
structure Down (s : HyperClientProc M) (i : Nat) : Prop where
  ended : ∃ x, s.socks[i]? = some x ∧ x.pc.isOver = true
  left : (s.pc ≠ .start ∧ s.pc ≠ .select) ∨ ¬ Returned s i

section
variable {urlIsSsl : Url → Bool} {s s' : HyperClientProc M} {e : ProcEv M Req} {i : Nat}
  {os : List (ProcOut M Req)} {tr : List (Rec (HyperClientProc M) (ProcEv M Req) (ProcOut M Req))}

theorem socks_of_task {t : SockTask M} (ht : s.clientSockets[i]? = some t) :
    s.socks[i]? = some t.sock := by
  simp [HyperClientProc.socks, ht]

theorem reopens_iff : reopens s i = true ↔ s.pc = .select ∧ Returned s i := by
  unfold reopens
  constructor
  · intro h
    split at h
    · rename_i socket hp hx
      obtain ⟨x, hx, hpc⟩ := Option.map_eq_some_iff.1 hx
      exact ⟨hp, x, socket, hx, hpc⟩
    · cases h
  · intro h
    obtain ⟨hp, x, socket, hx, hpc⟩ := h
    simp [hp, hx, hpc]

/-- `join_next` spawns a task iff the one it joins has returned its socket. -/
theorem join_spawns (h : s.step urlIsSsl (.join i : ProcEv M Req) = some (s', os)) :
    s.clientSockets.length < s'.clientSockets.length ↔ Returned s i := by
  have not_ok {t : SockTask M} (ht : s.clientSockets[i]? = some t)
      (hp : ∀ socket, t.sock.pc ≠ .ended (.ok socket)) : ¬ Returned s i := by
    intro hret
    obtain ⟨x, socket, hx, hpc⟩ := hret
    rw [socks_of_task ht] at hx
    cases hx
    exact hp socket hpc
  cases procMoves_of_step h with
  | respawned _ ht _ hp => exact iff_of_true (by simp) ⟨_, _, socks_of_task ht, hp⟩
  | joinedErr _ ht _ hp => exact iff_of_false (by simp) (not_ok ht (by simp [hp]))

/-- A task that has ended stays as it is, and registers nothing. -/
theorem over_of_step {x : Sock M} (hx : s.socks[i]? = some x) (ho : x.pc.isOver = true)
    (h : s.step urlIsSsl e = some (s', os)) : (∃ x', s'.socks[i]? = some x' ∧ x'.pc = x.pc) ∧
      ∀ name id, .sock i (.bus (.addService name id)) ∉ os := by
  obtain ⟨k, e', y, y', os', -, hy, hst, hs, -, rfl⟩ | ⟨new, hs, -, -, -, hno⟩ := step_socks h
  · by_cases hk : k = i
    · subst hk
      rw [hx] at hy
      cases hy
      refine ⟨⟨y', ?_, step_over ho hst⟩, fun name id hm => ?_⟩
      · rw [hs, getElem?_set_self_some hx]
      · obtain ⟨o, hm, he⟩ := List.mem_map.1 hm
        cases he
        have hnone := (over_silent ho hst).1 _ hm
        cases hnone
    · refine ⟨⟨x, by rw [hs, List.getElem?_set_ne hk]; exact hx, rfl⟩, fun name id hm => ?_⟩
      obtain ⟨o, -, he⟩ := List.mem_map.1 hm
      cases he
      exact hk rfl
  · refine ⟨⟨x, ?_, rfl⟩, fun name id => hno _ _⟩
    rw [hs, List.getElem?_append_left (List.getElem?_eq_some_iff.1 hx).1]
    exact hx

/-- `internal_run` does not come back to its `select!`. -/
theorem left_of_step (hl : s.pc ≠ .start ∧ s.pc ≠ .select)
    (h : s.step urlIsSsl e = some (s', os)) : s'.pc ≠ .start ∧ s'.pc ≠ .select := by
  cases procMoves_of_step h with
  | internal | dropSenders | sock => exact hl
  | created hp => exact absurd hp hl.1
  | recvService hp | recvClosed hp | respawned hp | joinedErr hp => exact absurd hp hl.2
  | _ => simp [HyperClientProc.dropSet]

theorem step_down (hd : Down s i) (h : s.step urlIsSsl e = some (s', os)) :
    Down s' i ∧ ¬ SpawnsFor ⟨s, e, os, s'⟩ i ∧
      ∀ name id, .sock i (.bus (.addService name id)) ∉ os := by
  obtain ⟨⟨x, hx, ho⟩, hleft⟩ := hd
  obtain ⟨⟨x', hx', hpc⟩, hno⟩ := over_of_step hx ho h
  refine ⟨⟨⟨x', hx', by rw [hpc, ho]⟩, ?_⟩, fun hs => ?_, hno⟩
  · refine hleft.imp (fun hl => left_of_step hl h) fun hn hret => hn ?_
    obtain ⟨y, socket, hy, hp⟩ := hret
    rw [hx'] at hy
    cases hy
    exact ⟨x, socket, hx, hpc.symm.trans hp⟩
  · obtain ⟨he, hlt⟩ := hs
    have he : e = .join i := he
    subst he
    rcases hleft with hl | hn
    · cases procMoves_of_step h with
      | respawned hp | joinedErr hp => exact hl.2 hp
    · exact hn ((join_spawns h).1 hlt)

theorem Down.staysDown (hd : Down s i) : StaysDown M Req urlIsSsl s i := by
  intro tr s' hr r hm
  have hstart : ∀ t, ((clientMachine M Req urlIsSsl).startAt s).init t → Down t i := by
    intro t ht
    cases ht
    exact hd
  obtain ⟨hdown, hst⟩ := hr.step_invariant hstart
    (fun t e t' os ht (hst : t.step urlIsSsl e = some (t', os)) => (step_down ht hst).1) hm
  exact (step_down hdown hst).2

/-- **A task that has ended stays down** iff `internal_run` has left its `select!` or the task has
not returned its socket. -/
theorem staysDown_iff (hr : (clientMachine M Req urlIsSsl).Run tr s) (hj : Joinable s i) :
    StaysDown M Req urlIsSsl s i ↔ reopens s i = false := by
  rw [← Bool.not_eq_true, reopens_iff]
  obtain ⟨t, ht, ho, hjoined⟩ := hj
  constructor
  · intro h hc
    obtain ⟨hp, hret⟩ := hc
    have hsome : (s.step urlIsSsl (.join i : ProcEv M Req)).isSome = true := by
      obtain ⟨x, socket, hx, hpc⟩ := hret
      rw [socks_of_task ht] at hx
      cases hx
      simp [HyperClientProc.step, HyperClientProc.onJoin, hp, ht, hjoined, hpc]
    obtain ⟨⟨s', os⟩, hst⟩ := Option.isSome_iff_exists.1 hsome
    have hrun : ((clientMachine M Req urlIsSsl).startAt s).Run [⟨s, .join i, os, s'⟩] s' :=
      .single (S := clientMachine M Req urlIsSsl) hst
    exact (h _ _ hrun _ (List.mem_singleton.2 rfl)).1 ⟨rfl, (join_spawns hst).2 hret⟩
  · intro h
    have hstart : s.pc ≠ .start := fun hs => by
      rw [(poolInv_of_run hr).start hs] at ht
      cases ht
    refine Down.staysDown ⟨⟨t.sock, socks_of_task ht, ho⟩, ?_⟩
    by_cases hp : s.pc = .select
    · exact .inr fun hret => h ⟨hp, hret⟩
    · exact .inl ⟨hstart, hp⟩

/-- **Shutdown is final** for the sockets of a run iff none is to be joined that was sent a
`Shutdown` and has returned its socket, while `internal_run` is in its `select!`. -/
theorem shutdown_final_iff (hr : (clientMachine M Req urlIsSsl).Run tr s) :
    (∀ ta r tb i, tr = ta ++ r :: tb → Told (ta ++ [r]) i → Joinable r.post i →
        StaysDown M Req urlIsSsl r.post i) ↔
      ∀ ta r tb i, tr = ta ++ r :: tb → Told (ta ++ [r]) i → Joinable r.post i →
        reopens r.post i = false := by
  have at_state : ∀ ta r tb i, tr = ta ++ r :: tb → Joinable r.post i →
      (StaysDown M Req urlIsSsl r.post i ↔ reopens r.post i = false) := by
    rintro ta r tb i rfl hj
    obtain ⟨hr₀, hst, -⟩ := hr.split
    exact staysDown_iff (hr₀.next hst) hj
  constructor
  · intro h ta r tb i htr ht hj
    exact (at_state ta r tb i htr hj).1 (h ta r tb i htr ht hj)
  · intro h ta r tb i htr ht hj
    exact (at_state ta r tb i htr hj).2 (h ta r tb i htr ht hj)

end

/-- The socket takes its `Shutdown` and closes. -/
def tookShutdown : List (ProcEv Nat Nat) :=
  [.sock 0 (.recv echo), .sock 0 (.procQueueRemoved true), .sock 0 .tryRecv, .sock 0 .returned]

/-- The bus shuts down the socket first. -/
def socketFirst : List (ProcEv Nat Nat) :=
  .started (.ok ()) :: registered.map (.sock 0) ++ .sock 0 (.send .shutdown) :: tookShutdown

/-- The processor joins the task before its own `Shutdown` arrives, and the service is registered
again. -/
theorem socketFirst_comesBack : ∃ q q',
    (clientMachine Nat Nat noSsl).exec (HyperClientProc.new oneBackend) socketFirst = some q ∧
      (clientMachine Nat Nat noSsl).Run q.1 q.2 ∧ Told q.1 0 ∧ Joinable q.2 0 ∧
      ¬ StaysDown Nat Nat noSsl q.2 0 ∧
      (clientMachine Nat Nat noSsl).exec q.2
        (.join 0 :: registered.map (.sock 1) ++ [.internal .shutdown, .recv]) = some q' ∧
      q.2.bus.services = [] ∧ q'.2.bus.services = [("svc", 3)] := by
  refine ⟨_, _, (Option.some_get rfl).symm, Machine.run_get (init_proc _ _) rfl,
    ⟨_, List.mem_of_getElem? (i := 5) rfl, rfl⟩, ⟨_, rfl, rfl, rfl⟩, fun h => ?_,
    (Option.some_get rfl).symm, rfl, rfl⟩
  have hno := (staysDown_iff (Machine.run_get (init_proc _ _) rfl) ⟨_, rfl, rfl, rfl⟩).1 h
  cases hno

/-- The same, and the processor is the first to know. -/
def processorFirst : List (ProcEv Nat Nat) :=
  .started (.ok ()) :: registered.map (.sock 0) ++
    .sock 0 (.send .shutdown) :: .internal .shutdown :: .recv :: tookShutdown

theorem processorFirst_staysDown : ∃ q,
    (clientMachine Nat Nat noSsl).exec (HyperClientProc.new oneBackend) processorFirst = some q ∧
      Told q.1 0 ∧ Joinable q.2 0 ∧
      ∀ ta r tb i, q.1 = ta ++ r :: tb → Told (ta ++ [r]) i → Joinable r.post i →
        StaysDown Nat Nat noSsl r.post i := by
  refine ⟨_, (Option.some_get rfl).symm, ⟨_, List.mem_of_getElem? (i := 5) rfl, rfl⟩,
    ⟨_, rfl, rfl, rfl⟩, (shutdown_final_iff (Machine.run_get (init_proc _ _) rfl)).2 ?_⟩
  have hall : (((clientMachine Nat Nat noSsl).exec (HyperClientProc.new oneBackend)
      processorFirst).get rfl).1.all (fun r =>
        (List.range r.post.socks.length).all fun i => !reopens r.post i) = true := rfl
  intro ta r tb i htr _ hj
  have hr := List.all_eq_true.1 hall r (htr ▸ List.mem_append_right _ List.mem_cons_self)
  obtain ⟨t, ht, -⟩ := hj
  have hi : i < r.post.socks.length := (List.getElem?_eq_some_iff.1 (socks_of_task ht)).1
  simpa using List.all_eq_true.1 hr i (List.mem_range.2 hi)

end Client
