import Mathlib.Algebra.Ring.Int.Defs
import ProsaHyper.Lib.Depot
import ProsaHyper.Server.Proof.Stranded

/-!
# The socket counter of the server

`prosa_hyper_srv_socket` goes up when a connection starts to be served and down when it ends, in the
connection task, which `internal_run` does not wait for. A panic of the adaptor in such a task,
which would skip the step down, is outside the model.

* `sockets_counted`: it is the number of connections being served with each version, at any time.
-/

set_option autoImplicit false

namespace Server

open Prosa Http

variable {M : Type}

/-- What an output adds to the counter of `version`. -/
def Out.adds (version : String) : Out M → Int
  | .socket delta version' => if version' = version then delta else 0
  | _ => 0

/-- The counter of `version` after the outputs `os`. -/
def socketCounter (version : String) (os : List (Out M)) : Int := (os.map (Out.adds version)).sum

/-- The connection is served with `version`. -/
def Conn.serves (version : String) (c : Conn) : Nat :=
  if c.pc = .serving ∧ c.version = version then 1 else 0

/-- The connections served with `version`. -/
def served (version : String) (s : HyperServerProc M) : Nat := tally (Conn.serves version) s.conns

section
variable {urlIsSsl : Url → Bool} {adaptor : HyperServerAdaptor} {s s' : HyperServerProc M}
  {e : Ev M} {os : List (Out M)} {version : String}

@[simp] theorem socketCounter_append (os os' : List (Out M)) :
    socketCounter version (os ++ os') = socketCounter version os + socketCounter version os' := by
  simp [socketCounter]

/-- Outputs that are no connection's do not count. -/
theorem socketCounter_eq_zero (h : ∀ o ∈ os, ∀ delta v, o ≠ .socket delta v) :
    socketCounter version os = 0 := by
  refine List.sum_eq_zero fun n hn => ?_
  obtain ⟨o, ho, rfl⟩ := List.mem_map.1 hn
  cases o with
  | socket delta v => exact absurd rfl (h _ ho delta v)
  | _ => rfl

theorem socketCounter_leave (pc : RunPc M) : socketCounter version (s.leave pc).2 = 0 :=
  socketCounter_eq_zero (by simp [HyperServerProc.leave])

theorem socketCounter_completed (hq : ∀ o ∈ os, ∃ code version, o = .count code version) (c : Nat)
    (res : Except HttpError Response) : socketCounter version (os ++ [.completed c res]) = 0 := by
  refine socketCounter_eq_zero fun o ho delta v => ?_
  rcases List.mem_append.1 ho with ho | ho
  · obtain ⟨_, _, rfl⟩ := hq o ho
    simp
  · cases List.mem_singleton.1 ho
    simp

/-- A connection task goes from `c` to `c'`. -/
theorem tally_serves_set {conns : List Conn} {i : Nat} {c : Conn} (hi : conns[i]? = some c)
    (c' : Conn) : (tally (Conn.serves version) (conns.set i c') : Int) =
      tally (Conn.serves version) conns + (c'.serves version - c.serves version) := by
  have := tally_set (f := Conn.serves version) hi c'
  omega

/-- **A connection task counts** itself in and out. -/
theorem served_of_conn {i : Nat} (he : e.conn? = some i)
    (h : s.step urlIsSsl adaptor e = some (s', os)) :
    (served version s : Int) + socketCounter version os = served version s' := by
  cases e with
  | handshaken j r =>
    cases he
    simp only [HyperServerProc.step, HyperServerProc.onHandshaken] at h
    split at h
    · rename_i isHttp2 hi
      split at h <;> cases h
      · rw [served, served, tally_serves_set hi]
        simp only [socketCounter, Out.adds, Conn.serves, List.map_cons, List.map_nil,
          List.sum_cons, List.sum_nil]
        split <;> simp_all
      · rw [served, served, tally_serves_set hi]
        simp [socketCounter, Conn.serves]
    · cases h
  | served j =>
    cases he
    simp only [HyperServerProc.step, HyperServerProc.onServed] at h
    split at h
    · rename_i isHttp2 hi
      split at h <;> cases h
      rw [served, served, tally_serves_set hi]
      have hv : Conn.version ⟨.ended, isHttp2⟩ = Conn.version ⟨.serving, isHttp2⟩ := rfl
      by_cases hver : Conn.version ⟨.serving, isHttp2⟩ = version
      · simp [socketCounter, Out.adds, Conn.serves, hv, hver]
      · simp [socketCounter, Out.adds, Conn.serves, hv, hver]
    · cases h
  | _ => cases he

/-- **Every step keeps the counter.** -/
theorem served_of_step (h : s.step urlIsSsl adaptor e = some (s', os)) :
    (served version s : Int) + socketCounter version os = served version s' := by
  have still (hz : socketCounter version os = 0) (hc : s'.conns = s.conns) :
      (served version s : Int) + socketCounter version os = served version s' := by
    rw [hz, Int.add_zero, served, served, hc]
  cases moves_of_step h with
  | conn he => exact served_of_conn he h
  | accepted => simp [served, socketCounter, Conn.serves]
  | startFailed | bindFailed | acceptFailed | sendFailed | procRemoveFailed =>
    exact still (socketCounter_leave _) rfl
  | procRemoved | recvPanic =>
    refine still ?_ rfl
    rw [← List.singleton_append, socketCounter_append, socketCounter_leave]
    rfl
  | processed _ _ hq => exact still (socketCounter_completed hq _ _) rfl
  | callAnswered => exact still (socketCounter_completed (countRes_counts _) _ _) rfl
  | _ => exact still rfl rfl

end

/-- **The socket counter**: in every run whose adaptor calls do not panic, also after `internal_run`
ended, it is the number of connections being served. -/
theorem sockets_counted {urlIsSsl : Url → Bool} {adaptor : HyperServerAdaptor}
    {s : HyperServerProc M} {tr : List (Rec (HyperServerProc M) (Ev M) (Out M))}
    (hr : (serverMachine M urlIsSsl adaptor).Run tr s) (version : String) :
    socketCounter version (outs tr) = served version s := by
  have hb := Depot.balance (S := serverMachine M urlIsSsl adaptor)
    ⟨fun s => (served version s : Int), fun r => socketCounter version r.out, fun _ => 0,
      by rintro s ⟨settings, queues, nextId, rfl⟩; rfl,
      fun _ _ _ _ _ _ hst => (served_of_step hst).trans (Int.zero_add _).symm⟩ hr
  have hsum : Depot.total (fun r => socketCounter version r.out) tr =
      socketCounter version (outs tr) := Depot.total_out (Out.adds version) tr
  have hzero : Depot.total (fun _ => (0 : Int)) tr = 0 := by simp [Depot.total]
  rw [hsum, hzero, Int.zero_add] at hb
  exact hb

/-- A connection is served when the server is shut down, and ends later. -/
def servedOn : List (Ev Nat) :=
  called "svc" ++ [.internal .shutdown, .recv, .procRemoved true, .callAnswered 0, .served 0]

theorem servedOn_counted : ∃ q,
    (serverMachine Nat plainHttp .default).exec plainServer servedOn = some q ∧
      (socketCounter "HTTP/1.1" (outs q.1) = served "HTTP/1.1" q.2 ∧
        socketCounter "HTTP/1.1" (outs q.1) = 0) :=
  ⟨_, (Option.some_get rfl).symm,
    sockets_counted (Machine.run_get (init_server _ .default) rfl) "HTTP/1.1", rfl⟩

end Server
