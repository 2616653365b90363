import ProsaHyper.Server.Proof.Stranded

/-!
# Who holds the listener

`internal_run` keeps the listener in an `Arc`, and each connection task captures a clone of it for
the handshake, which lives until the task ends.

* `heldBy_of_run`: the clones alive are the one of `internal_run` and one for each connection task,
  whatever the task is at.
* `released_iff`: the address is free once `internal_run` has returned iff every connection task had
  ended by then.
-/

set_option autoImplicit false

namespace Server

open Prosa Http

variable {M : Type}

/-- An owner of a clone of the listener: `internal_run`, or the task of a connection. -/
inductive Holder
  | run
  | task (conn : Nat)
  deriving DecidableEq, Repr

/-- `bind` fails while a listener is alive on the address. -/
def canBind (hs : List Holder) : Bool := hs.isEmpty

/-- `internal_run` is past `bind`. -/
def RunPc.listens : RunPc M → Bool
  | .select | .sending _ _ _ | .removeProc => true
  | _ => false

def RunPc.hasReturned : RunPc M → Bool
  | .ended _ => true
  | _ => false

/-- `internal_run` returns: a `?` sees an error, or it has taken its `Shutdown`. -/
def returns (s : HyperServerProc M) : Ev M → Bool
  | .started (.error _) | .bound (.error _) | .accept (.error _) | .procRemoved _ => true
  | .sent =>
    match s.pc with
    | .sending queue _ _ => !(s.queues queue).rx
    | _ => false
  | _ => false

/-- `internal_run` returns while a connection task has not ended. -/
def leavesTask (s : HyperServerProc M) (e : Ev M) : Bool :=
  returns s e && s.conns.any (·.pc != .ended)

/-- The task of the connection ends: its handshake failed, or `serve_connection` returned. -/
def Ev.endsTask : Ev M → Bool
  | .handshaken _ (.error _) | .served _ => true
  | _ => false

/-- The holders after a step: `bind` makes the listener, each accepted connection clones it, a task
that ends drops its clone, and so does `internal_run` when it ends. -/
def Holder.next (hs : List Holder) (r : Rec (HyperServerProc M) (Ev M) (Out M)) : List Holder :=
  match r.ev with
  | .bound (.ok _) => .run :: hs
  | .accept (.ok _) => .task r.pre.conns.length :: hs
  | .handshaken i (.error _) | .served i => hs.filter (· != .task i)
  | _ => if r.post.pc.isOver then hs.filter (· != .run) else hs

def holders (tr : List (Rec (HyperServerProc M) (Ev M) (Out M))) : List Holder :=
  tr.foldl Holder.next []

@[simp] theorem holders_concat (tr : List (Rec (HyperServerProc M) (Ev M) (Out M)))
    (r : Rec (HyperServerProc M) (Ev M) (Out M)) :
    holders (tr ++ [r]) = Holder.next (holders tr) r := by
  simp [holders]

/-- The task of the connection `i` has not ended. -/
def AliveTask (s : HyperServerProc M) (i : Nat) : Prop := ∃ c, s.conns[i]? = some c ∧ c.pc ≠ .ended

/-- Every connection task has ended. -/
def AllEnded (s : HyperServerProc M) : Prop := ∀ c ∈ s.conns, c.pc = .ended

/-- The holders in a state. -/
structure HeldBy (hs : List Holder) (s : HyperServerProc M) : Prop where
  run : .run ∈ hs ↔ s.pc.listens = true
  task : ∀ i, .task i ∈ hs ↔ AliveTask s i

section
variable {urlIsSsl : Url → Bool} {adaptor : HyperServerAdaptor} {s s' : HyperServerProc M}
  {e : Ev M} {os : List (Out M)} {hs : List Holder}
  {tr : List (Rec (HyperServerProc M) (Ev M) (Out M))}

theorem listens_of_isOver {pc : RunPc M} (h : pc.isOver = true) : pc.listens = false := by
  cases pc with
  | ended | panicked => rfl
  | _ => cases h

theorem isOver_of_hasReturned {pc : RunPc M} (h : pc.hasReturned = true) : pc.isOver = true := by
  cases pc with
  | ended => rfl
  | _ => cases h

theorem allEnded_congr (h : s'.conns = s.conns) : AllEnded s' ↔ AllEnded s := by
  simp only [AllEnded, h]

/-- A step of neither `bind`, `accept` nor a connection task. -/
theorem frame_of_step (h : s.step urlIsSsl adaptor e = some (s', os))
    (hb : ∀ u, e ≠ .bound (.ok u)) (ha : ∀ u, e ≠ .accept (.ok u)) (hc : e.conn? = none) :
    s'.conns = s.conns ∧ (s'.pc.isOver = true ∨ s'.pc.listens = s.pc.listens) := by
  cases moves_of_step h with
  | bound => exact absurd rfl (hb _)
  | accepted => exact absurd rfl (ha _)
  | conn hconn => simp [hconn] at hc
  | startFailed | bindFailed | sendFailed | acceptFailed | procRemoveFailed | procRemoved
  | recvPanic => exact ⟨rfl, .inl rfl⟩
  | started hp | dispatch hp | sent hp | recvShutdown hp => exact ⟨rfl, .inr (by rw [hp]; rfl)⟩
  | _ => exact ⟨rfl, .inr rfl⟩

/-- A step of a connection task. -/
theorem task_of_step {i : Nat} (h : s.step urlIsSsl adaptor e = some (s', os))
    (hc : e.conn? = some i) : AliveTask s i ∧ ∃ c : Conn,
      s' = { s with conns := s.conns.set i c } ∧ (c.pc = .ended ↔ e.endsTask = true) := by
  cases e with
  | handshaken i r =>
    cases hc
    have h : s.onHandshaken i r = some (s', os) := h
    unfold HyperServerProc.onHandshaken at h
    split at h
    · rename_i hi
      refine ⟨⟨_, hi, fun hp => by cases hp⟩, ?_⟩
      cases r <;> cases h <;> exact ⟨_, rfl, by simp [Ev.endsTask]⟩
    · cases h
  | served i =>
    cases hc
    have h : s.onServed i = some (s', os) := h
    unfold HyperServerProc.onServed at h
    split at h
    · rename_i hi
      refine ⟨⟨_, hi, fun hp => by cases hp⟩, ?_⟩
      split at h
      · cases h
        exact ⟨_, rfl, by simp [Ev.endsTask]⟩
      · cases h
    · cases h
  | _ => cases hc

theorem aliveTask_set {i : Nat} {c : Conn} (hi : AliveTask s i) (j : Nat) :
    AliveTask { s with conns := s.conns.set i c } j ↔ AliveTask s j ∧ (j = i → c.pc ≠ .ended) := by
  unfold AliveTask at hi ⊢
  obtain ⟨c₀, hc₀, hne⟩ := hi
  simp only [getElem?_set_some hc₀]
  by_cases hij : i = j
  · subst hij
    rw [if_pos rfl]
    constructor
    · intro h
      obtain ⟨c', hc', hne'⟩ := h
      cases hc'
      exact ⟨⟨c₀, hc₀, hne⟩, fun _ => hne'⟩
    · intro h
      exact ⟨c, rfl, h.2 rfl⟩
  · rw [if_neg hij]
    exact ⟨fun h => ⟨h, fun hji => absurd hji.symm hij⟩, And.left⟩

theorem aliveTask_append {c : Conn} (hc : c.pc ≠ .ended) (j : Nat) :
    AliveTask { s with conns := s.conns ++ [c] } j ↔ j = s.conns.length ∨ AliveTask s j := by
  unfold AliveTask
  dsimp only
  rcases Nat.lt_trichotomy j s.conns.length with hj | rfl | hj
  · rw [List.getElem?_append_left hj]
    exact (or_iff_right (Nat.ne_of_lt hj)).symm
  · simp [hc]
  · have hnone : (s.conns ++ [c])[j]? = none :=
      List.getElem?_eq_none (by rw [List.length_append, List.length_singleton]; omega)
    rw [hnone, List.getElem?_eq_none (Nat.le_of_lt hj)]
    simp [Nat.ne_of_gt hj]

/-! ## The holders along a run -/

/-- No task begins or ends. -/
theorem HeldBy.frame (hh : HeldBy hs s) (ht : ∀ i, AliveTask s' i ↔ AliveTask s i)
    (hp : s'.pc.isOver = true ∨ s'.pc.listens = s.pc.listens) :
    HeldBy (if s'.pc.isOver then hs.filter (· != .run) else hs) s' := by
  by_cases ho : s'.pc.isOver = true
  · rw [if_pos ho]
    refine ⟨by simp [listens_of_isOver ho], fun i => ?_⟩
    rw [ht, ← hh.task]
    simp
  · rw [if_neg ho]
    refine ⟨?_, fun i => by rw [ht, hh.task]⟩
    rw [hh.run, hp.resolve_left ho]

theorem HeldBy.bound (hh : HeldBy hs s) (hp : s'.pc.listens = true)
    (ht : ∀ i, AliveTask s' i ↔ AliveTask s i) : HeldBy (.run :: hs) s' := by
  refine ⟨by simp [hp], fun i => ?_⟩
  rw [ht, ← hh.task]
  simp

theorem HeldBy.accepted {c : Conn} (hh : HeldBy hs s) (hc : c.pc ≠ .ended) :
    HeldBy (.task s.conns.length :: hs) { s with conns := s.conns ++ [c] } := by
  refine ⟨?_, fun i => ?_⟩
  · simpa using hh.run
  · rw [aliveTask_append hc, ← hh.task]
    simp

/-- The task of the connection `i` ends. -/
theorem HeldBy.taskEnded {i : Nat} {c : Conn} (hh : HeldBy hs s) (hi : AliveTask s i)
    (hc : c.pc = .ended) :
    HeldBy (hs.filter (· != .task i)) { s with conns := s.conns.set i c } := by
  refine ⟨?_, fun j => ?_⟩
  · simpa using hh.run
  · rw [aliveTask_set hi, ← hh.task]
    simp [hc]

theorem step_heldBy (hh : HeldBy hs s) (h : s.step urlIsSsl adaptor e = some (s', os)) :
    HeldBy (Holder.next hs ⟨s, e, os, s'⟩) s' := by
  have same (hconns : s'.conns = s.conns) (i : Nat) : AliveTask s' i ↔ AliveTask s i := by
    simp [AliveTask, hconns]
  cases e with
  | handshaken i r =>
    obtain ⟨hi, c, rfl, hend⟩ := task_of_step h rfl
    cases r with
    | error => exact hh.taskEnded hi (hend.2 rfl)
    | ok =>
      refine hh.frame (fun j => ?_) (.inr rfl)
      rw [aliveTask_set hi]
      simp [hend, Ev.endsTask]
  | served i =>
    obtain ⟨hi, c, rfl, hend⟩ := task_of_step h rfl
    exact hh.taskEnded hi (hend.2 rfl)
  | bound r =>
    cases moves_of_step h with
    | bound => exact hh.bound rfl (same rfl)
    | bindFailed => exact hh.frame (same rfl) (.inl rfl)
    | conn hc => cases hc
  | accept r =>
    cases moves_of_step h with
    | accepted => exact hh.accepted (by simp)
    | acceptFailed => exact hh.frame (same rfl) (.inl rfl)
    | conn hc => cases hc
  | _ =>
    have hf := frame_of_step h (by simp) (by simp) rfl
    exact hh.frame (same hf.1) hf.2

theorem heldBy_of_run (hr : (serverMachine M urlIsSsl adaptor).Run tr s) :
    HeldBy (holders tr) s := by
  induction hr with
  | start hi =>
    obtain ⟨settings, queues, nextId, rfl⟩ := hi
    exact ⟨by simp [holders, HyperServerProc.new, RunPc.listens],
      by simp [holders, HyperServerProc.new, AliveTask]⟩
  | next _ hst ih =>
    rw [holders_concat]
    exact step_heldBy ih hst

/-- Once `internal_run` has ended, the address is free iff no connection task is alive. -/
theorem HeldBy.canBind_iff (hh : HeldBy hs s) (hp : s.pc.listens = false) :
    canBind hs = true ↔ AllEnded s := by
  unfold canBind
  rw [List.isEmpty_iff, List.eq_nil_iff_forall_not_mem]
  constructor
  · intro h c hm
    by_contra hne
    obtain ⟨i, hi⟩ := List.mem_iff_getElem?.1 hm
    exact h (.task i) ((hh.task i).2 ⟨c, hi, hne⟩)
  · intro h holder hm
    cases holder with
    | run =>
      rw [hh.run, hp] at hm
      cases hm
    | task i =>
      obtain ⟨c, hc, hne⟩ := (hh.task i).1 hm
      exact hne (h c (List.mem_of_getElem? hc))

/-! ## When the address is free -/

theorem hasReturned_of_step (h : s.step urlIsSsl adaptor e = some (s', os)) :
    s'.pc.hasReturned = true ↔ s.pc.hasReturned = true ∨ returns s e = true := by
  cases moves_of_step h with
  | startFailed | bindFailed | acceptFailed | procRemoved | procRemoveFailed =>
    exact iff_of_true rfl (.inr rfl)
  | sendFailed hp hrx => exact iff_of_true rfl (.inr (by simp [returns, hp, hrx]))
  | sent hp hq =>
    obtain ⟨hrx, -, -⟩ := Chan.send_eq_some hq
    simp [returns, hp, RunPc.hasReturned, hrx]
  | started hp | bound hp | dispatch hp | recvShutdown hp | recvPanic hp =>
    simp [returns, hp, RunPc.hasReturned, HyperServerProc.leave]
  | conn hc =>
    cases e with
    | handshaken | served => simp [returns]
    | _ => cases hc
  | _ => simp [returns, HyperServerProc.drop]

/-- The step in which `internal_run` returns is none of the connections. -/
theorem conns_of_returns (h : s.step urlIsSsl adaptor e = some (s', os))
    (hret : returns s e = true) : s'.conns = s.conns := by
  refine (frame_of_step h ?_ ?_ ?_).1
  · intro u he
    rw [he] at hret
    cases hret
  · intro u he
    rw [he] at hret
    cases hret
  · cases e with
    | handshaken | served => cases hret
    | _ => rfl

/-- Once `internal_run` has returned, no connection comes any more. -/
theorem step_allEnded (hp : s.pc.hasReturned = true) (he : AllEnded s)
    (h : s.step urlIsSsl adaptor e = some (s', os)) : AllEnded s' := by
  have hnot : ∀ i, ¬ AliveTask s i := by
    intro i hi
    obtain ⟨c, hc, hne⟩ := hi
    exact hne (he c (List.mem_of_getElem? hc))
  have hpc : s.pc ≠ .bind ∧ s.pc ≠ .select := by
    constructor <;> intro hc <;> simp [hc, RunPc.hasReturned] at hp
  cases hconn : e.conn? with
  | some i => exact absurd (task_of_step h hconn).1 (hnot i)
  | none =>
    have hconns : s'.conns = s.conns := by
      refine (frame_of_step h ?_ ?_ hconn).1
      · intro u he
        subst he
        cases moves_of_step h with
        | bound hb => exact hpc.1 hb
        | conn hc => cases hc
      · intro u he
        subst he
        cases moves_of_step h with
        | accepted hs => exact hpc.2 hs
        | conn hc => cases hc
    exact (allEnded_congr hconns).2 he

theorem leavesTask_eq_false : leavesTask s e = false ↔ (returns s e = true → AllEnded s) := by
  simp [leavesTask, AllEnded]

theorem allEnded_of_run (hr : (serverMachine M urlIsSsl adaptor).Run tr s)
    (hq : Machine.Along (fun s e => leavesTask s e = false) tr) :
    s.pc.hasReturned = true → AllEnded s := by
  refine hr.along_invariant (I := fun _ s => s.pc.hasReturned = true → AllEnded s) ?_ ?_ hq
  · intro s hi hp
    obtain ⟨settings, queues, nextId, rfl⟩ := hi
    cases hp
  · intro tr s e s' os _ hended hq hst hp
    rcases (hasReturned_of_step hst).1 hp with hp | hret
    · exact step_allEnded hp (hended hp) hst
    · exact (allEnded_congr (conns_of_returns hst hret)).2 (leavesTask_eq_false.1 hq hret)

/-- **The listener is released** when `internal_run` has returned, in every state of a run, iff all
connection tasks had ended by then, whatever made it return. -/
theorem released_iff (hr : (serverMachine M urlIsSsl adaptor).Run tr s) :
    (∀ ta r tb, tr = ta ++ r :: tb → r.post.pc.hasReturned = true →
        canBind (holders (ta ++ [r])) = true) ↔
      Machine.Along (fun s e => leavesTask s e = false) tr := by
  have at_state : ∀ ta r tb, tr = ta ++ r :: tb → r.post.pc.hasReturned = true →
      (serverMachine M urlIsSsl adaptor).Run (ta ++ [r]) r.post ∧
        (canBind (holders (ta ++ [r])) = true ↔ AllEnded r.post) := by
    intro ta r tb htr hp
    subst htr
    obtain ⟨hr₀, hst, -⟩ := hr.split
    have hrun := hr₀.next hst
    exact ⟨hrun, (heldBy_of_run hrun).canBind_iff (listens_of_isOver (isOver_of_hasReturned hp))⟩
  constructor
  · intro h r hm
    refine leavesTask_eq_false.2 fun hret => ?_
    obtain ⟨ta, tb, htr⟩ := List.append_of_mem hm
    obtain ⟨-, hst⟩ := hr.step_of_mem hm
    have hp : r.post.pc.hasReturned = true := (hasReturned_of_step hst).2 (.inr hret)
    obtain ⟨-, hfree⟩ := at_state ta r tb htr hp
    exact (allEnded_congr (conns_of_returns hst hret)).1 (hfree.1 (h ta r tb htr hp))
  · intro hq ta r tb htr hp
    obtain ⟨hrun, hfree⟩ := at_state ta r tb htr hp
    refine hfree.2 (allEnded_of_run hrun ?_ hp)
    rw [htr, List.append_cons] at hq
    exact (Machine.along_append.1 hq).1

end

/-! ## A restart with a client connected -/

/-- A client keeps its connection open, and the processor is shut down. -/
def keepAlive : List (Ev Nat) :=
  [.started (.ok ()), .bound (.ok ()), .accept (.ok ()), .handshaken 0 (.ok none),
    .internal .shutdown, .recv, .procRemoved true]

/-- A client is in its handshake, and the next one is gone before it is accepted. -/
def acceptAborted : List (Ev Nat) :=
  [.started (.ok ()), .bound (.ok ()), .accept (.ok ()), .accept (.error "connection aborted")]

/-- After a `Shutdown` as after an error the connection task keeps the address bound. -/
theorem keepAlive_holds : ∃ q q',
    (serverMachine Nat plainHttp .default).exec plainServer keepAlive = some q ∧
      (serverMachine Nat plainHttp .default).Run q.1 q.2 ∧ q.2.pc.hasReturned = true ∧
      canBind (holders q.1) = false ∧
      (serverMachine Nat plainHttp .default).exec plainServer acceptAborted = some q' ∧
      (serverMachine Nat plainHttp .default).Run q'.1 q'.2 ∧ q'.2.pc.hasReturned = true ∧
      holders q'.1 = [.task 0] ∧
      ¬ (∀ ta r tb, q'.1 = ta ++ r :: tb → r.post.pc.hasReturned = true →
        canBind (holders (ta ++ [r])) = true) := by
  refine ⟨_, _, (Option.some_get rfl).symm, Machine.run_get (init_server _ _) rfl, rfl, rfl,
    (Option.some_get rfl).symm, Machine.run_get (init_server _ _) rfl, rfl, rfl, fun h => ?_⟩
  have hfree := h _ _ [] (List.dropLast_append_getLast (by decide)).symm rfl
  cases hfree

/-- The client has closed its connection before the processor is shut down. -/
theorem closedBefore_released : ∃ q, (serverMachine Nat plainHttp .default).exec plainServer
      [.started (.ok ()), .bound (.ok ()), .accept (.ok ()), .handshaken 0 (.ok none), .served 0,
        .internal .shutdown, .recv, .procRemoved true] = some q ∧
      q.2.pc.hasReturned = true ∧ q.2.conns.length = 1 ∧
      ∀ ta r tb, q.1 = ta ++ r :: tb → r.post.pc.hasReturned = true →
        canBind (holders (ta ++ [r])) = true := by
  refine ⟨_, (Option.some_get rfl).symm, rfl, rfl,
    (released_iff (Machine.run_get (init_server _ _) rfl)).2 ?_⟩
  exact Machine.along_of_none rfl

end Server
