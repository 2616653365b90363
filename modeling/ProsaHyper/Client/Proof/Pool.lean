import ProsaHyper.Lib.Pool
import ProsaHyper.Client.Proc
import ProsaHyper.Client.Proof.Runs
import Mathlib.Tactic.SplitIfs

/-!
# The socket tasks of the client processor

* `procMoves_of_step`: the steps of the processor one by one.
* `sockets`: the processor hosts its sockets, so that each socket has a run of its own
  (`Hosts.project`) and the books of the sockets are books of the processor (`Hosts.custody`).
* `pool_kept_iff`: the number of tasks held for each backend stays in its bounds iff no task that
  ended with an error was joined.
-/

set_option autoImplicit false

namespace Client

open Prosa Http

variable {M Req : Type}

/-- The steps of the processor. -/
inductive ProcMoves (urlIsSsl : Url → Bool) (s : HyperClientProc M) :
    ProcEv M Req → HyperClientProc M → List (ProcOut M Req) → Prop
  | internal {m : InternalMsg M} {q : Chan (InternalMsg M)} : s.internalRxQueue.send m = some q →
      ProcMoves urlIsSsl s (.internal m) { s with internalRxQueue := q } []
  | dropSenders : ProcMoves urlIsSsl s .dropSenders
      { s with internalRxQueue := s.internalRxQueue.setTx false } []
  | startFailed {err : ProcError M} : s.pc = .start →
      ProcMoves urlIsSsl s (.started (.error err)) { s with pc := .returning (.error err) } []
  | noBackend {u : Unit} {err : ProcError M} : s.pc = .start → s.settings.backends = [] →
      ProcMoves urlIsSsl s (.started (.ok u))
        { s with pc := .returning (.error err), bus := s.bus.apply 0 .addProc } [.bus .addProc]
  | created {u : Unit} : s.pc = .start → s.settings.backends ≠ [] →
      ProcMoves urlIsSsl s (.started (.ok u))
        { s with
          pc := .select
          clientSockets := s.clientSockets ++ s.create urlIsSsl
          bus := s.bus.apply 0 .addProc }
        [.bus .addProc, .sockets (HyperClientProc.len (s.clientSockets ++ s.create urlIsSsl))]
  | recvPanic {m : InternalMsg M} {q : Chan (InternalMsg M)} : s.pc = .select →
      s.internalRxQueue.recv = some (m, q) → ProcMoves urlIsSsl s .recv
        ({ s with internalRxQueue := q, pc := .panicked } : HyperClientProc M).dropSet []
  | recvService {table : ServiceTable} {q : Chan (InternalMsg M)} : s.pc = .select →
      s.internalRxQueue.recv = some (.service table, q) → ProcMoves urlIsSsl s .recv
        { s with internalRxQueue := q, service := table } []
  | recvShutdown {q : Chan (InternalMsg M)} : s.pc = .select →
      s.internalRxQueue.recv = some (.shutdown, q) → ProcMoves urlIsSsl s .recv
        { s with internalRxQueue := q, pc := .removeProc } [.terminate]
  | recvClosedPanic : s.pc = .select → ProcMoves urlIsSsl s .recvClosed
      ({ s with pc := .panicked } : HyperClientProc M).dropSet []
  | recvClosed : s.pc = .select → ProcMoves urlIsSsl s .recvClosed s []
  | respawned {i : Nat} {t : SockTask M} {socket : HyperClientSocket} : s.pc = .select →
      s.clientSockets[i]? = some t → t.joined = false → t.sock.pc = .ended (.ok socket) →
      ProcMoves urlIsSsl s (.join i)
        { s with
          clientSockets := s.clientSockets.set i { t with joined := true } ++
            [s.spawn t.backend socket] }
        [.sockets (HyperClientProc.len (s.clientSockets.set i { t with joined := true } ++
          [s.spawn t.backend socket]))]
  | joinedErr {i : Nat} {t : SockTask M} {err : HyperProcError} : s.pc = .select →
      s.clientSockets[i]? = some t → t.joined = false → t.sock.pc = .ended (.error err) →
      ProcMoves urlIsSsl s (.join i)
        { s with clientSockets := s.clientSockets.set i { t with joined := true } }
        [.sockets (HyperClientProc.len (s.clientSockets.set i { t with joined := true }))]
  | joinError {i : Nat} {e : String} {t : SockTask M} {err : ProcError M} : s.pc = .select →
      s.clientSockets[i]? = some t → t.joined = false →
      t.sock.pc = .panicked ∨ t.sock.pc = .aborted →
      ProcMoves urlIsSsl s (.joinError i e)
        { s with
          pc := .returning (.error err)
          clientSockets := s.clientSockets.set i { t with joined := true } } []
  | procRemoved : s.pc = .removeProc → ProcMoves urlIsSsl s (.procRemoved true)
      { s with pc := .returning (.ok ()), bus := s.bus.apply 0 .removeProc } [.bus .removeProc]
  | procRemoveFailed {err : ProcError M} : s.pc = .removeProc →
      ProcMoves urlIsSsl s (.procRemoved false) { s with pc := .returning (.error err) } []
  | returned {r : Except (ProcError M) Unit} : s.pc = .returning r →
      ProcMoves urlIsSsl s .returned ({ s with pc := .ended r } : HyperClientProc M).dropSet []
  | sock {i : Nat} {e : Ev M Req} {t : SockTask M} {x : Sock M} {os : List (Out M Req)} :
      s.clientSockets[i]? = some t → HyperClientProc.admits t e = true → s.fresh e = true →
      t.sock.step e = some (x, os) → ProcMoves urlIsSsl s (.sock i e)
        { s with
          clientSockets := s.clientSockets.set i { t with sock := x }, bus := regs i s.bus os }
        (os.map (.sock i))

section
variable {urlIsSsl : Url → Bool} {s s' : HyperClientProc M} {os : List (ProcOut M Req)}

theorem procMoves_recv (h : s.onRecv = some (s', os)) :
    ProcMoves urlIsSsl s (.recv : ProcEv M Req) s' os := by
  unfold HyperClientProc.onRecv at h
  split at h
  · rename_i hp
    split at h
    · cases h
    · rename_i m q hq
      dsimp only at h
      split at h
      · cases h; exact .recvPanic hp hq
      · cases h; exact .recvPanic hp hq
      · cases h; exact .recvPanic hp hq
      · cases h; exact .recvPanic hp hq
      · cases h; exact .recvPanic hp hq
      · cases h; exact .recvService hp hq
      · cases h; exact .recvShutdown hp hq
  · cases h

theorem procMoves_join {i : Nat} (h : s.onJoin i = some (s', os)) :
    ProcMoves urlIsSsl s (.join i : ProcEv M Req) s' os := by
  unfold HyperClientProc.onJoin at h
  split at h
  · rename_i t hp ht
    split at h
    · cases h
    · rename_i hj
      have hj : t.joined = false := by simpa using hj
      dsimp only at h
      split at h
      · rename_i socket hpc; cases h; exact .respawned hp ht hj hpc
      · rename_i err hpc; cases h; exact .joinedErr hp ht hj hpc
      · cases h
  · cases h

theorem procMoves_joinError {i : Nat} {e : String} (h : s.onJoinError i e = some (s', os)) :
    ProcMoves urlIsSsl s (.joinError i e : ProcEv M Req) s' os := by
  unfold HyperClientProc.onJoinError at h
  split at h
  · rename_i t hp ht
    split at h
    · cases h
    · rename_i hj
      have hj : t.joined = false := by simpa using hj
      split at h
      · rename_i hpc; cases h; exact .joinError hp ht hj (.inl hpc)
      · rename_i hpc; cases h; exact .joinError hp ht hj (.inr hpc)
      · cases h
  · cases h

/-- **Every step is one of `ProcMoves`.** -/
theorem procMoves_of_step {e : ProcEv M Req} (h : s.step urlIsSsl e = some (s', os)) :
    ProcMoves urlIsSsl s e s' os := by
  cases e with
  | internal m =>
    simp only [HyperClientProc.step] at h
    split at h
    · obtain ⟨q, hq, he⟩ := Option.map_eq_some_iff.1 h
      cases he
      exact .internal hq
    · cases h
  | dropSenders => cases h; exact .dropSenders
  | started r =>
    simp only [HyperClientProc.step, HyperClientProc.onStarted] at h
    split at h
    · rename_i hp
      split at h
      · cases h; exact .startFailed hp
      · split at h
        · rename_i hb; cases h; exact .noBackend hp (by simpa using hb)
        · rename_i hb; cases h; exact .created hp (by simpa using hb)
    · cases h
  | recv => exact procMoves_recv h
  | recvClosed =>
    simp only [HyperClientProc.step, HyperClientProc.onRecvClosed] at h
    split at h
    · rename_i hp
      split at h
      · cases h
      · split at h <;> cases h
        · exact .recvClosedPanic hp
        · exact .recvClosed hp
    · cases h
  | join i => exact procMoves_join h
  | joinError i e => exact procMoves_joinError h
  | procRemoved ok =>
    simp only [HyperClientProc.step, HyperClientProc.onProcRemoved] at h
    split at h
    · rename_i hp
      cases ok <;> cases h
      · exact .procRemoveFailed hp
      · exact .procRemoved hp
    · cases h
  | returned =>
    simp only [HyperClientProc.step, HyperClientProc.onReturned] at h
    split at h
    · rename_i r hp; cases h; exact .returned hp
    · cases h
  | sock i e =>
    simp only [HyperClientProc.step, HyperClientProc.onSock] at h
    split at h
    · cases h
    · rename_i t ht
      split at h
      · rename_i ha
        simp only [Bool.and_eq_true] at ha
        obtain ⟨q, hq, he⟩ := Option.map_eq_some_iff.1 h
        cases he
        exact .sock ht ha.1 ha.2 hq
      · cases h

end

/-! ## The processor hosts its sockets -/

/-- The event of a socket. -/
def ProcEv.sock? : ProcEv M Req → Option (Nat × Ev M Req)
  | .sock i e => some (i, e)
  | _ => none

/-- The output of a socket. -/
def ProcOut.sock? : ProcOut M Req → Option (Nat × Out M Req)
  | .sock i o => some (i, o)
  | _ => none

theorem init_spawn (s : HyperClientProc M) (b : Nat) (socket : HyperClientSocket) :
    (socketMachine M Req).init (s.spawn b socket).sock := ⟨_, _, rfl⟩

/-- A task created at the start is spawned with a new socket for its backend. -/
theorem create_cases {s : HyperClientProc M} {urlIsSsl : Url → Bool} {t : SockTask M}
    (h : t ∈ s.create urlIsSsl) : ∃ (b : TargetSetting) (i : Nat),
      s.settings.backends[i]? = some b ∧
        t = s.spawn i (HyperClientSocket.new urlIsSsl b s.settings.httpTimeout) := by
  simp only [HyperClientProc.create, List.mem_flatMap, List.mem_replicate] at h
  obtain ⟨⟨b, i⟩, hb, -, rfl⟩ := h
  exact ⟨b, i, List.mem_zipIdx_iff_getElem?.1 hb, rfl⟩

theorem init_create (s : HyperClientProc M) (urlIsSsl : Url → Bool) {t : SockTask M}
    (h : t ∈ s.create urlIsSsl) : (socketMachine M Req).init t.sock := by
  obtain ⟨b, i, -, rfl⟩ := create_cases h
  exact init_spawn s _ _

variable (M Req) in
/-- The processor hosts its sockets. -/
def sockets (urlIsSsl : Url → Bool) :
    Hosts (clientMachine M Req urlIsSsl) (socketMachine M Req) where
  comps s := s.clientSockets.map (·.sock)
  lift := ProcEv.sock?
  view := ProcOut.sock?
  start := by
    rintro s ⟨settings, rfl⟩ x hx
    cases hx
  moves := by
    intro s e s' os i e' h hl
    cases procMoves_of_step h with
    | @sock j e t x os ht _ _ hst =>
      cases hl
      refine ⟨t.sock, x, os, by simp [ht], hst, by simp [List.map_set], ?_⟩
      simp [List.filterMap_map, Function.comp_def, ProcOut.sock?]
    | _ => cases hl
  grows := by
    intro s e s' os h hl
    have same {i : Nat} {t : SockTask M} (ht : s.clientSockets[i]? = some t) :
        (s.clientSockets.set i { t with joined := true }).map (·.sock) =
          s.clientSockets.map (·.sock) := map_set_of_eq ht rfl
    cases procMoves_of_step h with
    | created =>
      refine ⟨(s.create urlIsSsl).map (·.sock), by simp, fun x hx => ?_, rfl⟩
      obtain ⟨t, ht, rfl⟩ := List.mem_map.1 hx
      exact init_create s urlIsSsl ht
    | @respawned i t socket _ ht _ _ =>
      refine ⟨[(s.spawn t.backend socket).sock], by simp [same ht], fun x hx => ?_, rfl⟩
      rw [List.mem_singleton.1 hx]
      exact init_spawn s _ _
    | joinedErr _ ht _ _ => exact ⟨[], by simp [same ht], by simp, rfl⟩
    | joinError _ ht _ _ => exact ⟨[], by simp [same ht], by simp, rfl⟩
    | sock => cases hl
    | recvPanic | recvClosedPanic | returned =>
      exact ⟨[], by simp [HyperClientProc.dropSet, Function.comp_def], by simp, rfl⟩
    | _ => exact ⟨[], by simp, by simp, rfl⟩

/-! ## The number of tasks held -/

/-- The task ended with an error. -/
def Pc.isErr : Pc M → Bool
  | .ended (.error _) => true
  | _ => false

/-- The task is in the set, for backend `b`. -/
def SockTask.heldFor (b : Nat) (t : SockTask M) : Nat :=
  if t.backend = b ∧ t.joined = false then 1 else 0

/-- The task was joined after an error, for backend `b`. -/
def SockTask.failedFor (b : Nat) (t : SockTask M) : Nat :=
  if t.backend = b ∧ t.joined = true ∧ t.sock.pc.isErr = true then 1 else 0

def SockTask.failedAny (t : SockTask M) : Nat :=
  if t.joined = true ∧ t.sock.pc.isErr = true then 1 else 0

/-- The number of tasks held for backend `b`. -/
def heldTasks (s : HyperClientProc M) (b : Nat) : Nat := tally (SockTask.heldFor b) s.clientSockets

def failedTasks (s : HyperClientProc M) (b : Nat) : Nat :=
  tally (SockTask.failedFor b) s.clientSockets

/-- A socket task that ended with an error is joined. -/
def JoinsErr (s : HyperClientProc M) (e : ProcEv M Req) : Prop :=
  ∃ i t err, e = .join i ∧ s.clientSockets[i]? = some t ∧ t.sock.pc = .ended (.error err)

/-- Each backend has tasks within its bounds, so that some task is left. -/
structure PoolKept (s : HyperClientProc M) : Prop where
  bounds : ∀ b < s.settings.backends.length,
    s.settings.minSocket ≤ heldTasks s b ∧ heldTasks s b ≤ s.settings.maxSocket
  served : 0 < s.settings.minSocket → ∃ t ∈ s.clientSockets, t.joined = false

theorem heldFor_create (s : HyperClientProc M) (urlIsSsl : Url → Bool) {b : Nat}
    (hb : b < s.settings.backends.length) :
    tally (SockTask.heldFor b) (s.create urlIsSsl) = s.settings.minSocket := by
  rw [HyperClientProc.create, tally_flatMap, tally_congr (g := fun p =>
    if p.2 = b then s.settings.minSocket else 0) fun p _ => ?_, tally_zipIdx, if_pos (by omega)]
  rw [tally_replicate]
  by_cases hp : p.2 = b <;> simp [SockTask.heldFor, HyperClientProc.spawn, hp]

theorem mem_create {s : HyperClientProc M} {urlIsSsl : Url → Bool} {t : SockTask M}
    (h : t ∈ s.create urlIsSsl) : t.joined = false ∧ t.backend < s.settings.backends.length := by
  obtain ⟨b, i, hb, rfl⟩ := create_cases h
  exact ⟨rfl, (List.getElem?_eq_some_iff.1 hb).1⟩

/-- What is kept by the tasks of a processor. -/
structure PoolInv (s : HyperClientProc M) : Prop where
  ended : ∀ t ∈ s.clientSockets, t.joined = true → t.sock.pc.isOver = true
  known : ∀ t ∈ s.clientSockets, t.backend < s.settings.backends.length
  start : s.pc = .start → s.clientSockets = []
  configured : s.pc = .select → s.settings.backends ≠ []
  count : s.pc = .select → ∀ b < s.settings.backends.length,
    heldTasks s b + failedTasks s b = s.settings.minSocket

section
variable {urlIsSsl : Url → Bool} {s s' : HyperClientProc M} {e : ProcEv M Req}
  {os : List (ProcOut M Req)}

/-- One task is replaced by one of the same backend. -/
theorem forall_mem_set {P : SockTask M → Prop} {l : List (SockTask M)} {i : Nat} {t : SockTask M}
    (hl : ∀ t ∈ l, P t) (ht : P t) : ∀ t' ∈ l.set i t, P t' := by
  intro t' h
  rcases List.mem_or_eq_of_mem_set h with h | rfl
  · exact hl t' h
  · exact ht

/-- A task that is over is joined. -/
theorem PoolInv.joined {i : Nat} {t : SockTask M} (hs : PoolInv s)
    (ht : s.clientSockets[i]? = some t) (ho : t.sock.pc.isOver = true) :
    ∀ t' ∈ s.clientSockets.set i { t with joined := true },
      (t'.joined = true → t'.sock.pc.isOver = true) ∧
        t'.backend < s.settings.backends.length := by
  have hmem := List.mem_of_getElem? ht
  exact forall_mem_set (fun t' ht' => ⟨hs.ended t' ht', hs.known t' ht'⟩)
    ⟨fun _ => ho, hs.known t hmem⟩

/-- The books of a backend as a task is joined: it is held no more, and has failed if it ended with
an error. -/
theorem books_joined {i : Nat} {t : SockTask M} (ht : s.clientSockets[i]? = some t)
    (hj : t.joined = false) (b : Nat) :
    tally (SockTask.heldFor b) (s.clientSockets.set i { t with joined := true }) +
        tally (SockTask.failedFor b) (s.clientSockets.set i { t with joined := true }) +
        (if t.backend = b ∧ t.sock.pc.isErr = false then 1 else 0) =
      heldTasks s b + failedTasks s b := by
  have hheld := tally_set (f := SockTask.heldFor b) ht { t with joined := true }
  have hfailed := tally_set (f := SockTask.failedFor b) ht { t with joined := true }
  simp only [heldTasks, failedTasks, SockTask.heldFor, SockTask.failedFor, hj] at hheld hfailed ⊢
  by_cases hb : t.backend = b
  · cases he : t.sock.pc.isErr <;> simp [hb, he] at hheld hfailed ⊢ <;> omega
  · simp [hb] at hheld hfailed ⊢
    omega

/-- A step of a socket, which moves no task that was joined. -/
theorem books_stepped {i : Nat} {t : SockTask M} {x : Sock M}
    (ht : s.clientSockets[i]? = some t) (hx : t.joined = true → x.pc = t.sock.pc) (b : Nat) :
    tally (SockTask.heldFor b) (s.clientSockets.set i { t with sock := x }) +
        tally (SockTask.failedFor b) (s.clientSockets.set i { t with sock := x }) =
      heldTasks s b + failedTasks s b := by
  have hheld := tally_set (f := SockTask.heldFor b) ht { t with sock := x }
  have hfailed := tally_set (f := SockTask.failedFor b) ht { t with sock := x }
  have hsame : SockTask.failedFor b { t with sock := x } = t.failedFor b := by
    unfold SockTask.failedFor
    cases hj : t.joined
    · simp
    · simp [hx hj]
  simp only [heldTasks, failedTasks, SockTask.heldFor] at hheld ⊢
  omega

theorem step_poolInv (hs : PoolInv s) (h : s.step urlIsSsl e = some (s', os)) : PoolInv s' := by
  have hjoined {i : Nat} {t : SockTask M} := hs.joined (i := i) (t := t)
  obtain ⟨ho, hk, hst, hc, hn⟩ := hs
  cases procMoves_of_step h with
  | internal | dropSenders | recvService | recvClosed => exact ⟨ho, hk, hst, hc, hn⟩
  | startFailed | noBackend | recvShutdown | procRemoved | procRemoveFailed =>
    exact ⟨ho, hk, (fun h => by cases h), (fun h => by cases h), (fun h => by cases h)⟩
  | recvPanic | recvClosedPanic | returned =>
    refine ⟨?_, ?_, (fun h => by cases h), (fun h => by cases h), (fun h => by cases h)⟩ <;>
    · intro t' ht'
      obtain ⟨t, ht, rfl⟩ := List.mem_map.1 ht'
      first | exact ho t ht | exact hk t ht
  | created hp hb =>
    rw [hst hp, List.nil_append]
    refine ⟨fun t ht hj => ?_, fun t ht => (mem_create ht).2, (fun h => by cases h), fun _ => hb,
      fun _ b hb => ?_⟩
    · simp [(mem_create ht).1] at hj
    · have hf : tally (SockTask.failedFor b) (s.create urlIsSsl) = 0 :=
        tally_eq_zero.2 fun t ht => by simp [SockTask.failedFor, (mem_create ht).1]
      simpa [heldTasks, failedTasks, hf] using heldFor_create s urlIsSsl hb
  | @respawned i t socket hp ht hj hpc =>
    have hns : s.pc ≠ .start := by simp [hp]
    have hset := hjoined ht (by rw [hpc]; rfl)
    refine ⟨?_, ?_, fun h => absurd h hns, fun _ => hc hp, fun _ b hb => ?_⟩
    · intro t' ht'
      rcases List.mem_append.1 ht' with ht' | ht'
      · exact (hset t' ht').1
      · cases List.mem_singleton.1 ht'
        rintro ⟨⟩
    · intro t' ht'
      rcases List.mem_append.1 ht' with ht' | ht'
      · exact (hset t' ht').2
      · cases List.mem_singleton.1 ht'
        exact hk t (List.mem_of_getElem? ht)
    · have hbooks := books_joined ht hj b
      have hcount := hn hp b hb
      simp only [hpc, Pc.isErr, and_true] at hbooks
      simp only [heldTasks, failedTasks, tally_append, tally_cons, tally_nil, SockTask.heldFor,
        SockTask.failedFor, HyperClientProc.spawn] at hbooks hcount ⊢
      simp
      omega
  | @joinedErr i t err hp ht hj hpc =>
    have hns : s.pc ≠ .start := by simp [hp]
    have hset := hjoined ht (by rw [hpc]; rfl)
    refine ⟨fun t' ht' => (hset t' ht').1, fun t' ht' => (hset t' ht').2, fun h => absurd h hns,
      fun _ => hc hp, fun _ b hb => ?_⟩
    have hbooks := books_joined ht hj b
    simp only [hpc, Pc.isErr] at hbooks
    rw [← hn hp b hb, ← hbooks]
    simp [heldTasks, failedTasks]
  | @joinError i _ t err hp ht hj hpc =>
    have hset := hjoined ht (by rcases hpc with hpc | hpc <;> rw [hpc] <;> rfl)
    exact ⟨fun t' ht' => (hset t' ht').1, fun t' ht' => (hset t' ht').2, (fun h => by cases h),
      (fun h => by cases h), (fun h => by cases h)⟩
  | @sock i e t x os ht ha hf hx =>
    have hmem := List.mem_of_getElem? ht
    have hpc : t.joined = true → x.pc = t.sock.pc := fun hj => step_over (ho t hmem hj) hx
    refine ⟨forall_mem_set ho ?_, forall_mem_set hk (by exact hk t hmem), fun hp => ?_, hc,
      fun hp b hb => (books_stepped ht hpc b).trans (hn hp b hb)⟩
    · intro hj
      rw [hpc hj]
      exact ho t hmem hj
    · simp [hst hp] at ht

theorem poolInv_of_run {tr : List (Rec (HyperClientProc M) (ProcEv M Req) (ProcOut M Req))}
    (hr : (clientMachine M Req urlIsSsl).Run tr s) : PoolInv s := by
  refine hr.state_invariant (I := PoolInv) ?_
    fun s e s' os hs (hst : s.step urlIsSsl e = some (s', os)) => step_poolInv hs hst
  rintro s ⟨settings, rfl⟩
  refine ⟨?_, ?_, fun _ => rfl, ?_, ?_⟩ <;> simp [HyperClientProc.new]

theorem failedAny_dropSet (s : HyperClientProc M) :
    tally SockTask.failedAny s.dropSet.clientSockets =
      tally SockTask.failedAny s.clientSockets := by
  simp only [HyperClientProc.dropSet, tally_map]
  rfl

theorem step_failed (hs : PoolInv s) (h : s.step urlIsSsl e = some (s', os)) :
    0 < tally SockTask.failedAny s'.clientSockets ↔
      0 < tally SockTask.failedAny s.clientSockets ∨ JoinsErr s e := by
  cases procMoves_of_step h with
  | recvPanic | recvClosedPanic | returned =>
    simp [failedAny_dropSet, JoinsErr]
  | created hp hb =>
    have hz : tally SockTask.failedAny (s.create urlIsSsl) = 0 :=
      tally_eq_zero.2 fun t ht => by simp [SockTask.failedAny, (mem_create ht).1]
    simp [hz, JoinsErr]
  | @respawned i t socket hp ht hj hpc =>
    have h1 := tally_set (f := SockTask.failedAny) ht { t with joined := true }
    have hn : ¬ JoinsErr s (.join i : ProcEv M Req) := by
      rintro ⟨_, t', err, he, ht', hpc'⟩
      cases he
      cases ht.symm.trans ht'
      cases hpc.symm.trans hpc'
    simp only [SockTask.failedAny, tally_append, tally_cons, tally_nil, HyperClientProc.spawn, hj,
      hpc, Pc.isErr] at h1 ⊢
    simp at h1
    simp [h1, hn]
  | @joinedErr i t err hp ht hj hpc =>
    have h1 := tally_set (f := SockTask.failedAny) ht { t with joined := true }
    have hy : JoinsErr s (.join i : ProcEv M Req) := ⟨i, t, err, rfl, ht, hpc⟩
    simp only [SockTask.failedAny, hj, hpc, Pc.isErr] at h1 ⊢
    simp at h1
    simp only [hy, or_true, iff_true]
    omega
  | @joinError i _ t err hp ht hj hpc =>
    have h1 := tally_set (f := SockTask.failedAny) ht { t with joined := true }
    have hn {e : String} : ¬ JoinsErr s (.joinError i e : ProcEv M Req) := by
      rintro ⟨_, _, _, he, _⟩
      cases he
    have herr : t.sock.pc.isErr = false := by rcases hpc with hpc | hpc <;> simp [hpc, Pc.isErr]
    simp only [SockTask.failedAny, hj, herr] at h1 ⊢
    simp at h1
    simp [h1, hn]
  | @sock i e t x os ht ha hf hx =>
    have h1 := tally_set (f := SockTask.failedAny) ht { t with sock := x }
    have h2 : SockTask.failedAny { t with sock := x } = t.failedAny := by
      unfold SockTask.failedAny
      cases hj : t.joined
      · simp
      · simp [step_over (hs.ended t (List.mem_of_getElem? ht) hj) hx]
    simp only [JoinsErr, reduceCtorEq, false_and, exists_false, or_false]
    omega
  | _ => simp [JoinsErr]

/-- A task that failed has been joined iff such a join happened. -/
theorem failed_iff {tr : List (Rec (HyperClientProc M) (ProcEv M Req) (ProcOut M Req))}
    (hr : (clientMachine M Req urlIsSsl).Run tr s) :
    0 < tally SockTask.failedAny s.clientSockets ↔ ∃ r ∈ tr, JoinsErr r.pre r.ev := by
  have := hr.caused_iff (A := fun _ => True) (f := fun _ => 0)
    (B := fun s => 0 < tally SockTask.failedAny s.clientSockets) (C := JoinsErr) ?_ ?_ trivial
  · simpa using this
  · rintro s ⟨settings, rfl⟩
    simp [HyperClientProc.new]
  · intro tr s e s' os hr hst _
    simpa using step_failed (poolInv_of_run hr) hst

/-- **The pool.** While the processor is in its loop the tasks of every backend stay within
`min_socket` and `max_socket` iff no task that ended with an error was joined. -/
theorem pool_kept_iff {tr : List (Rec (HyperClientProc M) (ProcEv M Req) (ProcOut M Req))}
    (hr : (clientMachine M Req urlIsSsl).Run tr s) (hp : s.pc = .select)
    (hle : s.settings.minSocket ≤ s.settings.maxSocket) :
    PoolKept s ↔ Machine.Along (fun s e => ¬ JoinsErr s e) tr := by
  have hinv := poolInv_of_run hr
  rw [Machine.along_not_iff, ← failed_iff hr]
  constructor
  · intro h hf
    obtain ⟨t, ht, hft⟩ := tally_pos_iff.1 hf
    have hb := hinv.known t ht
    have h1 := hinv.count hp _ hb
    have h2 := (h.bounds _ hb).1
    have h3 := le_tally (f := SockTask.failedFor t.backend) ht
    have h4 : 0 < t.failedFor t.backend := by
      simpa [SockTask.failedFor, SockTask.failedAny] using hft
    simp only [failedTasks] at h1
    omega
  · intro hf
    have hz : ∀ b, failedTasks s b = 0 := fun b => by
      refine Nat.eq_zero_of_not_pos fun h => hf (Nat.lt_of_lt_of_le h (tally_le fun t _ => ?_))
      unfold SockTask.failedFor SockTask.failedAny
      split_ifs <;> simp_all
    have hheld : ∀ b < s.settings.backends.length, heldTasks s b = s.settings.minSocket :=
      fun b hb => by have := hinv.count hp b hb; have := hz b; omega
    refine ⟨fun b hb => by rw [hheld b hb]; exact ⟨Nat.le_refl _, hle⟩, fun hmin => ?_⟩
    have hb := List.length_pos_iff.2 (hinv.configured hp)
    obtain ⟨t, ht, hpos⟩ := tally_pos_iff.1 (by rw [← hheld 0 hb] at hmin; exact hmin)
    refine ⟨t, ht, ?_⟩
    by_contra hj
    simp [SockTask.heldFor, hj] at hpos

end

/-- One backend, with the default bounds. -/
def oneBackend : HyperClientSettings :=
  (HyperClientSettings.new "svc").addBackend ⟨"http://localhost:8080", none, 3000⟩

def noSsl : Url → Bool := fun _ => false

theorem init_proc (settings : HyperClientSettings) (urlIsSsl : Url → Bool) :
    (clientMachine M Req urlIsSsl).init (HyperClientProc.new settings) := ⟨settings, rfl⟩

/-- The only socket cannot connect. -/
def refused : List (ProcEv Nat Nat) :=
  [.started (.ok ()), .sock 0 (.connected (.error "connection refused")), .join 0]

/-- After one failed connect the processor runs on without a task. -/
theorem refused_empty : ∃ q,
    (clientMachine Nat Nat noSsl).exec (HyperClientProc.new oneBackend) refused = some q ∧
      (clientMachine Nat Nat noSsl).Run q.1 q.2 ∧ q.2.pc = .select ∧
      q.2.settings.backends.length = 1 ∧ q.2.settings.minSocket = 1 ∧
      q.2.settings.minSocket ≤ q.2.settings.maxSocket ∧ heldTasks q.2 0 = 0 ∧
      HyperClientProc.len q.2.clientSockets = 0 ∧ ¬ PoolKept q.2 := by
  refine ⟨_, (Option.some_get rfl).symm, Machine.run_get (init_proc _ _) rfl, rfl, rfl, rfl,
    by decide, rfl, rfl, fun h => ?_⟩
  exact absurd (h.bounds 0 (by decide)).1 (by decide)

/-- The connection of the only socket is lost, and its task returns the socket, which is spawned
again. -/
def lostOnce : List (ProcEv Nat Nat) :=
  .started (.ok ()) :: registered.map (.sock 0) ++
    [.sock 0 (.connection (some (.error (.other "connection reset")))),
      .sock 0 (.procQueueRemoved true), .sock 0 .tryRecv, .sock 0 .returned, .join 0]

theorem oneBackend_kept : ∃ q,
    (clientMachine Nat Nat noSsl).exec (HyperClientProc.new oneBackend) lostOnce = some q ∧
      q.2.clientSockets.length = 2 ∧ heldTasks q.2 0 = 1 ∧
      (PoolKept q.2 ↔ Machine.Along (fun s e => ¬ JoinsErr s e) q.1) :=
  ⟨_, (Option.some_get rfl).symm, rfl, rfl,
    pool_kept_iff (Machine.run_get (init_proc _ _) rfl) rfl (by decide)⟩

end Client
