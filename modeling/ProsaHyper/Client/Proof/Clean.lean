import ProsaHyper.Client.Proof.Runs

/-!
# What a socket leaves on the bus

A task registers its queue and then its service, and `close_socket!` takes both away. The `?`
between the two registrations returns without, and so does the one behind `remove_proc_queue`,
before the queue is drained.

* `exit_of_run`: the step of a run that ended the task.
* `clean_iff`: a task that returned has left the bus clean iff none of its steps is one of `spoils`.
-/

set_option autoImplicit false

namespace Client

open Prosa Http

variable {M Req : Type}

/-- The bus refuses an operation that other effects depend on: the service of a queue just added, or
the removal of a queue that holds a request. -/
def spoils (s : Sock M) : Ev M Req → Bool
  | .serviceAdded false => true
  | .procQueueRemoved false => s.rxQueue.buf.any (·.request?.isSome)
  | _ => false

/-- The bus refuses to add the service, or to remove the queue. -/
def refuses : Ev M Req → Bool
  | .serviceAdded false | .procQueueRemoved false => true
  | _ => false

/-- The task of the history left nothing registered, unless it could not remove its queue: then the
requests in there are answered. -/
structure LeavesClean (owner : Nat) (tr : List (Rec (Sock M) (Ev M Req) (Out M Req))) : Prop where
  registrations : (∀ r ∈ tr, r.ev ≠ .procQueueRemoved false) →
    regs owner Bus.empty (outs tr) = Bus.empty
  queued : ∀ r ∈ tr, r.ev = .procQueueRemoved false → ∀ msg, .request msg ∈ r.pre.rxQueue.buf →
    0 < tally (repliedOf msg.id) (outs tr)

section
variable {s s' : Sock M} {e : Ev M Req} {os : List (Out M Req)}
  {tr : List (Rec (Sock M) (Ev M Req) (Out M Req))}

/-- A task that is over does nothing on the bus, which refuses it nothing. -/
theorem over_silent (ho : s.pc.isOver = true) (h : s.step e = some (s', os)) :
    (∀ o ∈ os, o.bus? = none) ∧ refuses e = false := by
  cases moves_of_step h with
  | send | dropSenders | ioDropped => exact ⟨by simp, rfl⟩
  | connPending hp | exchangeEnded hp | connErr hp => rw [Pc.polls_of_isOver ho] at hp; cases hp
  | aborted ha => rw [Pc.isAwait_of_isOver ho] at ha; cases ha
  | task _ hst => exact ⟨fun _ => bus?_exchange hst, rfl⟩
  | _ => rename_i hp; simp_all [Pc.isOver]

/-- The end of a task is one of its steps: it was not over before, and is over ever since. -/
theorem exit_of_run (hr : (socketMachine M Req).Run tr s) (ho : s.pc.isOver = true) :
    ∃ ta r tb, tr = ta ++ r :: tb ∧ r.pre.pc.isOver = false ∧ r.post.pc = s.pc ∧
      ∀ r' ∈ tb, r'.pre.pc.isOver = true := by
  induction hr with
  | start hi =>
    obtain ⟨self, name, rfl⟩ := hi
    cases ho
  | @next tr s s' e os hr hst ih =>
    cases hover : s.pc.isOver with
    | false => exact ⟨tr, ⟨s, e, os, s'⟩, [], rfl, hover, rfl, fun _ h => by cases h⟩
    | true =>
      obtain ⟨ta, r, tb, rfl, hpre, hpost, htb⟩ := ih hover
      refine ⟨ta, r, tb ++ [⟨s, e, os, s'⟩], by simp, hpre, ?_, fun r' hm => ?_⟩
      · rw [hpost, step_over hover hst]
      · rcases List.mem_append.1 hm with hm | hm
        · exact htb r' hm
        · cases List.mem_singleton.1 hm
          exact hover

/-- No step before the end was refused an operation. -/
theorem not_refuses_of_run (hr : (socketMachine M Req).Run tr s) (ho : s.pc.isOver = false) :
    ∀ r ∈ tr, refuses r.ev = false := by
  induction hr with
  | start => intro r h; cases h
  | @next tr s s' e os hr hst ih =>
    have hover : s.pc.isOver = false := by
      cases hover : s.pc.isOver with
      | false => rfl
      | true => rw [step_over hover hst, hover] at ho; cases ho
    intro r hm
    rcases List.mem_append.1 hm with hm | hm
    · exact ih hover r hm
    · cases List.mem_singleton.1 hm
      cases moves_of_step (s := s) hst with
      | serviceFailed | removeFailed => cases ho
      | _ => rfl

theorem refuses_of_spoils (h : spoils s e = true) : refuses e = true := by
  unfold spoils at h
  split at h <;> first | rfl | cases h

section
variable {ta tb : List (Rec (Sock M) (Ev M Req) (Out M Req))}
  {r r' : Rec (Sock M) (Ev M Req) (Out M Req)} (hr : (socketMachine M Req).Run (ta ++ r :: tb) s)
include hr

/-- The step that ended the task is the only one the bus can have refused. -/
theorem exit_of_refuses (hpre : r.pre.pc.isOver = false) (htb : ∀ r' ∈ tb, r'.pre.pc.isOver = true)
    (hm : r' ∈ ta ++ r :: tb) (href : refuses r'.ev = true) : r' = r := by
  rcases List.mem_append.1 hm with h | h
  · rw [not_refuses_of_run hr.split.1 hpre r' h] at href
    cases href
  · rcases List.mem_cons.1 h with h | h
    · exact h
    · obtain ⟨-, hst⟩ := hr.step_of_mem hm
      rw [(over_silent (htb r' h) hst).2] at href
      cases href

theorem along_spoils_iff (hpre : r.pre.pc.isOver = false)
    (htb : ∀ r' ∈ tb, r'.pre.pc.isOver = true) :
    Machine.Along (fun s e => spoils s e = false) (ta ++ r :: tb) ↔ spoils r.pre r.ev = false := by
  refine ⟨fun h => h r (List.mem_append_right _ List.mem_cons_self),
    fun h r' hm => Bool.eq_false_iff.2 fun hs => ?_⟩
  rw [exit_of_refuses hr hpre htb hm (refuses_of_spoils hs), h] at hs
  cases hs

/-- What a history does on the bus after its step `r`, where the task is over. -/
theorem regs_of_exit (owner : Nat) (htb : ∀ r' ∈ tb, r'.pre.pc.isOver = true) :
    regs owner Bus.empty (outs (ta ++ r :: tb)) =
      regs owner (regs owner Bus.empty (outs ta)) r.out := by
  have silent : ∀ o ∈ outs tb, o.bus? = none := by
    intro o ho
    obtain ⟨r', hm, ho⟩ := mem_outs.1 ho
    have hm' : r' ∈ ta ++ r :: tb := List.mem_append_right _ (List.mem_cons_of_mem _ hm)
    obtain ⟨-, hst⟩ := hr.step_of_mem hm'
    exact (over_silent (htb r' hm) hst).1 o ho
  rw [List.append_cons, outs_append, outs_append, outs_single, regs_append, regs_append,
    regs_of_silent silent]

end

theorem discards_of_removeFailed {msg : RequestMsg M}
    (h : s.step (.procQueueRemoved false) = some (s', os)) (hq : .request msg ∈ s.rxQueue.buf) :
    .discarded msg ∈ os := by
  cases moves_of_step h with
  | removeFailed =>
    refine List.mem_append_right _ (List.mem_map_of_mem ?_)
    exact List.mem_filterMap.2 ⟨_, hq, rfl⟩

/-- A request that was queued when the removal of the queue failed is never answered. -/
theorem unanswered_of_removeFailed (hr : (socketMachine M Req).Run tr s)
    {r : Rec (Sock M) (Ev M Req) (Out M Req)} (hm : r ∈ tr) (he : r.ev = .procQueueRemoved false)
    {msg : RequestMsg M} (hq : .request msg ∈ r.pre.rxQueue.buf) :
    tally (repliedOf msg.id) (outs tr) = 0 := by
  obtain ⟨-, hst⟩ := hr.step_of_mem hm
  have hout : .discarded msg ∈ r.out := discards_of_removeFailed (he ▸ hst) hq
  have hlost : 0 < tally (discardedOf msg.id) (outs tr) :=
    tally_pos_iff.2 ⟨_, mem_outs.2 ⟨r, hm, hout⟩, by simp⟩
  have htaken := (queueCustody M Req).balance hr msg.id
  have hanswered := (handCustody M Req).settled_le hr msg.id
  have hle := accepted_le hr msg.id
  simp only [queueCustody, handCustody] at htaken hanswered
  omega

/-- How a task returns: with nothing registered, or with what the bus refused. -/
theorem exit_cases (owner : Nat) {res : Except HyperProcError HyperClientSocket}
    (h : s.step e = some (s', os)) (ho : s.pc.isOver = false) (he : s'.pc = .ended res) :
    (refuses e = false ∧ s.pc.registration owner s.serviceName s.socketId = some Bus.empty ∧
        regs owner Bus.empty os = Bus.empty) ∨
      (e = .serviceAdded false ∧ s.pc = .addService ∧ ∀ b, regs owner b os = b) ∨
      e = .procQueueRemoved false := by
  have silent : ∀ b, regs owner b (s.drops : List (Out M Req)) = b := fun b =>
    regs_of_silent (fun _ => bus?_drops) owner b
  cases moves_of_step h with
  | connectFailed hp | handshakeFailed hp _ | procQueueFailed hp | returned hp =>
    exact .inl ⟨rfl, by rw [hp]; rfl, silent _⟩
  | serviceFailed hp => exact .inr (.inl ⟨rfl, hp, silent⟩)
  | removeFailed => exact .inr (.inr rfl)
  | send | dropSenders | ioDropped | connPending | exchangeEnded | answeredEarly | task =>
    rw [he] at ho; cases ho
  | drainRequest hp _ | drainOther hp _ _ => rw [hp] at he; cases he
  | _ => cases he

/-- **A task that returned left the bus clean** iff the bus refused neither the service of its queue
nor the removal of a queue that held a request. -/
theorem clean_iff (owner : Nat) (hr : (socketMachine M Req).Run tr s)
    {res : Except HyperProcError HyperClientSocket} (he : s.pc = .ended res) :
    LeavesClean owner tr ↔ Machine.Along (fun s e => spoils s e = false) tr := by
  obtain ⟨ta, r, tb, rfl, hpre, hpost, htb⟩ := exit_of_run hr (by rw [he]; rfl)
  obtain ⟨hr₀, hst, -⟩ := hr.split
  have hregs := regs_of_exit hr owner htb
  have hm : r ∈ ta ++ r :: tb := List.mem_append_right _ List.mem_cons_self
  have only : ∀ r' ∈ ta ++ r :: tb, refuses r'.ev = true → r' = r :=
    fun _ => exit_of_refuses hr hpre htb
  rw [along_spoils_iff hr hpre htb]
  rcases exit_cases owner hst hpre (hpost.trans he) with
    ⟨href, hb, hout⟩ | ⟨hev, hp, hout⟩ | hev
  · have hsp : spoils r.pre r.ev = false := Bool.eq_false_iff.2 fun hs => by
      rw [refuses_of_spoils hs] at href
      cases href
    refine iff_of_true ⟨fun _ => ?_, fun r' hm' hev => ?_⟩ hsp
    · rw [hregs, regs_of_run hr₀ hb, hout]
    · rw [only r' hm' (by rw [hev]; rfl)] at hev
      rw [hev] at href
      cases href
  · refine iff_of_false (fun h => ?_) (by simp [hev, spoils])
    have hempty := h.registrations fun r' hm' hev' => by
      rw [only r' hm' (by rw [hev']; rfl), hev] at hev'
      cases hev'
    rw [hregs, regs_of_run hr₀ (by rw [hp]; rfl), hout] at hempty
    cases hempty
  · constructor
    · intro h
      refine Bool.eq_false_iff.2 fun hs => ?_
      rw [hev] at hs
      obtain ⟨m, hq, hm'⟩ := List.any_eq_true.1 hs
      cases m with
      | request msg =>
        have hpos := h.queued r hm hev msg hq
        rw [unanswered_of_removeFailed hr hm hev hq] at hpos
        cases hpos
      | _ => cases hm'
    · intro hs
      rw [hev] at hs
      refine ⟨fun h => absurd hev (h r hm), fun r' hm' hev' msg hq => ?_⟩
      rw [only r' hm' (by rw [hev']; rfl)] at hq
      exact absurd (List.any_eq_true.2 ⟨_, hq, rfl⟩) (Bool.eq_false_iff.1 hs)

end

/-- The bus adds the queue of the socket and refuses its service. -/
def halfRegistered : List (Ev Nat Nat) :=
  [.connected (.ok (none, 3)), .handshaken (some (.ok ())), .procQueueAdded true,
    .serviceAdded false]

/-- The task returned an error, and its queue stays on the bus. -/
theorem halfRegistered_unclean : ∃ q,
    (socketMachine Nat Nat).exec (Sock.new plainSocket "svc") halfRegistered = some q ∧
      (socketMachine Nat Nat).Run q.1 q.2 ∧
      q.2.pc = .ended (.error (.internalBus ⟨.addService "svc" 3⟩)) ∧
      regs 0 Bus.empty (outs q.1) = ⟨[(3, 0)], []⟩ ∧ ¬ LeavesClean 0 q.1 := by
  refine ⟨_, (Option.some_get rfl).symm, Machine.run_get (init_new _ _) rfl, rfl, rfl, fun h => ?_⟩
  have hempty := h.registrations fun r hm hev => by
    have hall : (((socketMachine Nat Nat).exec (Sock.new plainSocket "svc") halfRegistered).get
        rfl).1.all (fun r => !(r.ev matches .procQueueRemoved false)) = true := rfl
    have hr := List.all_eq_true.1 hall r hm
    rw [hev] at hr
    cases hr
  cases hempty

/-- The exchange in flight times out with another request behind it. -/
def closesOnTimeout : List (Ev Nat Nat) :=
  registered ++ [.send (.request ⟨7, "svc", some 1, 0⟩), .recv echo,
    .send (.request ⟨8, "svc", some 2, 0⟩), .elapsed, .procQueueRemoved true, .tryRecv, .tryRecv,
    .returned]

theorem closesOnTimeout_clean : ∃ q,
    (socketMachine Nat Nat).exec (Sock.new plainSocket "svc") closesOnTimeout = some q ∧
      q.2.pc = .ended (.ok plainSocket) ∧ LeavesClean 0 q.1 := by
  have hend : (((socketMachine Nat Nat).exec (Sock.new plainSocket "svc") closesOnTimeout).get
      rfl).2.pc = .ended (.ok plainSocket) := rfl
  refine ⟨_, (Option.some_get rfl).symm, rfl,
    (clean_iff 0 (Machine.run_get (init_new _ _) rfl) hend).2 ?_⟩
  exact Machine.along_of_none rfl

end Client
