import ProsaHyper.Client.Proof.Pool
import Mathlib.Logic.Function.Basic

/-!
# The sessions of a socket

`join_next` gives the socket back at the end of a session, and `internal_run` spawns it again.
`spawn_h2` sets `is_http2`, and nothing clears it.

* `step_session`: a session leaves the socket as it is, but for the flag that `spawn_h2` sets.
* `sessions_of_run`: every session starts with the socket of `HyperClientSocket::new`, with the flag
  set iff a session before it was over HTTP/2.
* `respawned_right_iff`: the socket that a session returns is right iff the session was over HTTP/2
  or none before it was.
-/

set_option autoImplicit false

namespace Client

open Prosa Http

variable {M Req : Type}

/-! ## One session -/

/-- The session `x` was started with `socket`. -/
structure Session (socket : HyperClientSocket) (x : Sock M) : Prop where
  self : x.self = { socket with isHttp2 := socket.isHttp2 || x.proto == .h2 }
  start : x.pc = .connect → x.proto = .http1
  returned : ∀ res, x.pc = .ended (.ok res) → res = x.self

section
variable {socket : HyperClientSocket} {x x' : Sock M} {e : Ev M Req} {os : List (Out M Req)}

theorem session_new (socket : HyperClientSocket) (name : String) :
    Session socket (Sock.new socket name : Sock M) :=
  ⟨by simp [Sock.new, show (Proto.http1 == Proto.h2) = false from rfl], fun _ => rfl,
    fun _ h => by cases h⟩

/-- A step that keeps the socket and the protocol. -/
theorem Session.frame (hs : Session socket x) (hself : x'.self = x.self)
    (hproto : x'.proto = x.proto) (hc : x'.pc = .connect → x.pc = .connect)
    (hr : ∀ res, x'.pc = .ended (.ok res) → x.pc = .ended (.ok res) ∨ res = x.self) :
    Session socket x' := by
  refine ⟨by rw [hself, hproto, hs.self], fun hp => ?_, fun res hp => ?_⟩
  · rw [hproto]
    exact hs.start (hc hp)
  · rw [hself]
    exact (hr res hp).elim (hs.returned res) id

theorem step_session (hs : Session socket x) (h : x.step e = some (x', os)) :
    Session socket x' := by
  cases moves_of_step h with
  | connectedH2 => exact ⟨by simp [hs.self], by simp, by simp⟩
  | connectedHttp1 hp =>
    have hself := hs.self
    rw [hs.start hp] at hself
    exact ⟨hself, by simp, by simp⟩
  | send | dropSenders | ioDropped | connPending | exchangeEnded | answeredEarly | task
  | drainRequest | drainOther =>
    exact hs.frame rfl rfl id fun _ => .inl
  | returned =>
    refine hs.frame rfl rfl (by simp [Sock.leave]) fun res hp => .inr ?_
    cases hp
    rfl
  | _ => exact hs.frame rfl rfl (by simp [Sock.leave]) (by simp [Sock.leave])

end

/-! ## The sessions in turn -/

/-- The socket that `HyperClientSocket::new` made for the backend of `t`. -/
def SockTask.created? (urlIsSsl : Url → Bool) (settings : HyperClientSettings) (t : SockTask M) :
    Option HyperClientSocket :=
  settings.backends[t.backend]?.map fun b => HyperClientSocket.new urlIsSsl b settings.httpTimeout

/-- The protocols of the sessions before each task: `join_next` returns the socket of the task `i`,
which is spawned into a new task at the end of the list. -/
def respawn (h : Nat → List Proto)
    (r : Rec (HyperClientProc M) (ProcEv M Req) (ProcOut M Req)) : Nat → List Proto :=
  match r.ev with
  | .join i =>
    match r.pre.clientSockets[i]? with
    | some t =>
      match t.sock.pc with
      | .ended (.ok _) => Function.update h r.pre.clientSockets.length (h i ++ [t.sock.proto])
      | _ => h
    | none => h
  | _ => h

/-- The protocols of the sessions that the socket of each task had before, in the history `tr`. -/
def earlier (tr : List (Rec (HyperClientProc M) (ProcEv M Req) (ProcOut M Req))) :
    Nat → List Proto :=
  tr.foldl respawn fun _ => []

@[simp] theorem earlier_concat (tr : List (Rec (HyperClientProc M) (ProcEv M Req) (ProcOut M Req)))
    (r : Rec (HyperClientProc M) (ProcEv M Req) (ProcOut M Req)) :
    earlier (tr ++ [r]) = respawn (earlier tr) r := by
  simp [earlier]

/-- The task `t` is a session of a socket that had the sessions `before`. -/
def Spawned (urlIsSsl : Url → Bool) (settings : HyperClientSettings) (before : List Proto)
    (t : SockTask M) : Prop :=
  ∃ socket, t.created? urlIsSsl settings = some socket ∧
    Session { socket with isHttp2 := before.contains .h2 } t.sock

/-- Every task is a session of a socket with the sessions `h` before. -/
structure Sessions (urlIsSsl : Url → Bool) (h : Nat → List Proto) (s : HyperClientProc M) :
    Prop where
  spawned : ∀ j t, s.clientSockets[j]? = some t → Spawned urlIsSsl s.settings (h j) t
  start : s.pc = .start → s.clientSockets = [] ∧ ∀ j, h j = []

section
variable {urlIsSsl : Url → Bool} {s s' : HyperClientProc M} {e : ProcEv M Req}
  {os : List (ProcOut M Req)} {h : Nat → List Proto}

theorem spawned_create {t : SockTask M} (ht : t ∈ s.create urlIsSsl) :
    Spawned urlIsSsl s.settings [] t := by
  obtain ⟨b, i, hb, rfl⟩ := create_cases ht
  refine ⟨HyperClientSocket.new urlIsSsl b s.settings.httpTimeout, ?_, session_new _ _⟩
  simp [SockTask.created?, HyperClientProc.spawn, hb]

/-- The socket of a session that returned is spawned again. -/
theorem Spawned.respawn {before : List Proto} {t : SockTask M} {res : HyperClientSocket}
    (ht : Spawned urlIsSsl s.settings before t) (hp : t.sock.pc = .ended (.ok res)) :
    Spawned urlIsSsl s.settings (before ++ [t.sock.proto]) (s.spawn t.backend res) := by
  obtain ⟨socket, hb, hs⟩ := ht
  refine ⟨socket, hb, ?_⟩
  have hres : res = { socket with isHttp2 := (before ++ [t.sock.proto]).contains .h2 } := by
    rw [hs.returned res hp, hs.self]
    cases t.sock.proto <;> simp
  rw [← hres]
  exact session_new _ _

/-- The task `t'` is `t`, or `t` after a step of its session. -/
structure Continues (t t' : SockTask M) : Prop where
  backend : t'.backend = t.backend
  session : ∀ socket, Session socket t.sock → Session socket t'.sock

theorem Continues.refl (t : SockTask M) : Continues t t := ⟨rfl, fun _ => id⟩

theorem Continues.spawned {before : List Proto} {settings : HyperClientSettings} {t t' : SockTask M}
    (hc : Continues t t') (ht : Spawned urlIsSsl settings before t) :
    Spawned urlIsSsl settings before t' := by
  obtain ⟨socket, hb, hs⟩ := ht
  refine ⟨socket, ?_, hc.session _ hs⟩
  unfold SockTask.created? at hb ⊢
  rw [hc.backend, hb]

/-- Each task of `l'` is one of `l`, or continues it. -/
def Keeps (l l' : List (SockTask M)) : Prop :=
  ∀ (j : Nat) (y : SockTask M), l'[j]? = some y → ∃ x, l[j]? = some x ∧ Continues x y

theorem Keeps.refl (l : List (SockTask M)) : Keeps l l := fun _ y hy => ⟨y, hy, .refl y⟩

theorem keeps_set {l : List (SockTask M)} {i : Nat} {t t' : SockTask M} (ht : l[i]? = some t)
    (hc : Continues t t') : Keeps l (l.set i t') := by
  intro j y hy
  rw [getElem?_set_some ht] at hy
  by_cases hij : i = j
  · rw [if_pos hij] at hy
    cases hy
    exact ⟨t, hij ▸ ht, hc⟩
  · rw [if_neg hij] at hy
    exact ⟨y, hy, .refl y⟩

theorem keeps_dropSet (s : HyperClientProc M) : Keeps s.clientSockets s.dropSet.clientSockets := by
  intro j y hy
  obtain ⟨x, hx, rfl⟩ := Option.map_eq_some_iff.1 ((List.getElem?_map ..).symm.trans hy)
  exact ⟨x, hx, rfl, fun _ => id⟩

/-- A step that spawns no task. -/
theorem Sessions.frame (hs : Sessions urlIsSsl h s) (hset : s'.settings = s.settings)
    (hp : s'.pc = .start → s.pc = .start) (hk : Keeps s.clientSockets s'.clientSockets) :
    Sessions urlIsSsl h s' := by
  refine ⟨fun j y hy => ?_, fun hstart => ?_⟩
  · obtain ⟨x, hx, hc⟩ := hk j y hy
    rw [hset]
    exact hc.spawned (hs.spawned j x hx)
  · obtain ⟨hnil, hbefore⟩ := hs.start (hp hstart)
    refine ⟨List.eq_nil_iff_forall_not_mem.2 fun y hy => ?_, hbefore⟩
    obtain ⟨j, hj⟩ := List.mem_iff_getElem?.1 hy
    obtain ⟨x, hx, -⟩ := hk j y hj
    simp [hnil] at hx

theorem respawn_ok {i : Nat} {t : SockTask M} {res : HyperClientSocket}
    (ht : s.clientSockets[i]? = some t) (hp : t.sock.pc = .ended (.ok res)) :
    respawn h ⟨s, .join i, os, s'⟩ =
      Function.update h s.clientSockets.length (h i ++ [t.sock.proto]) := by
  simp [respawn, ht, hp]

theorem respawn_failed {i : Nat} {t : SockTask M} (ht : s.clientSockets[i]? = some t)
    (hp : ∀ res, t.sock.pc ≠ .ended (.ok res)) : respawn h ⟨s, .join i, os, s'⟩ = h := by
  simp [respawn, ht]

/-- `join_next` returned the socket of the task `i`. -/
theorem sessions_respawned {i : Nat} {t : SockTask M} {res : HyperClientSocket}
    (hs : Sessions urlIsSsl h s) (hp : s.pc = .select) (ht : s.clientSockets[i]? = some t)
    (hpc : t.sock.pc = .ended (.ok res)) :
    Sessions urlIsSsl (Function.update h s.clientSockets.length (h i ++ [t.sock.proto]))
      { s with
        clientSockets := s.clientSockets.set i { t with joined := true } ++
          [s.spawn t.backend res] } := by
  refine ⟨fun j y hy => ?_, by simp [hp]⟩
  rw [List.getElem?_append, List.length_set] at hy
  split at hy
  · rename_i hlt
    have hkeeps : Keeps s.clientSockets (s.clientSockets.set i { t with joined := true }) :=
      keeps_set ht ⟨rfl, fun _ => id⟩
    obtain ⟨x, hx, hc⟩ := hkeeps j y hy
    rw [Function.update_of_ne (by omega)]
    exact hc.spawned (hs.spawned j x hx)
  · rename_i hle
    rw [List.getElem?_singleton] at hy
    split at hy
    · cases hy
      rw [show j = s.clientSockets.length by omega, Function.update_self]
      exact (hs.spawned i t ht).respawn hpc
    · cases hy

theorem step_sessions (hs : Sessions urlIsSsl h s) (hst : s.step urlIsSsl e = some (s', os)) :
    Sessions urlIsSsl (respawn h ⟨s, e, os, s'⟩) s' := by
  cases procMoves_of_step hst with
  | internal | dropSenders | recvService | recvClosed => exact hs.frame rfl id (.refl _)
  | startFailed | noBackend | recvShutdown | procRemoved | procRemoveFailed =>
    exact hs.frame rfl (by simp) (.refl _)
  | recvPanic | recvClosedPanic | returned =>
    exact hs.frame rfl (by simp [HyperClientProc.dropSet]) (keeps_dropSet _)
  | created hp =>
    obtain ⟨hnil, hbefore⟩ := hs.start hp
    refine ⟨fun j t ht => ?_, by simp⟩
    rw [hnil, List.nil_append] at ht
    have hspawned := spawned_create (List.mem_of_getElem? ht)
    rw [← hbefore j] at hspawned
    exact hspawned
  | respawned hp ht _ hpc =>
    rw [respawn_ok ht hpc]
    exact sessions_respawned hs hp ht hpc
  | joinedErr hp ht _ hpc =>
    rw [respawn_failed ht (by simp [hpc])]
    exact hs.frame rfl id (keeps_set ht ⟨rfl, fun _ => id⟩)
  | joinError hp ht _ hpc =>
    exact hs.frame rfl (by simp) (keeps_set ht ⟨rfl, fun _ => id⟩)
  | sock ht _ _ hx =>
    exact hs.frame rfl id (keeps_set ht ⟨rfl, fun _ hsess => step_session hsess hx⟩)

theorem sessions_of_run {tr : List (Rec (HyperClientProc M) (ProcEv M Req) (ProcOut M Req))}
    (hr : (clientMachine M Req urlIsSsl).Run tr s) : Sessions urlIsSsl (earlier tr) s := by
  induction hr with
  | start hi =>
    obtain ⟨settings, rfl⟩ := hi
    exact ⟨fun j t ht => by simp [HyperClientProc.new] at ht, fun _ => ⟨rfl, fun _ => rfl⟩⟩
  | next _ hst ih =>
    rw [earlier_concat]
    exact step_sessions ih hst

/-- The socket `res` that the session `t` returned is the one of `HyperClientSocket::new`, and its
flag is that of this session. -/
structure RightState (urlIsSsl : Url → Bool) (settings : HyperClientSettings) (t : SockTask M)
    (res : HyperClientSocket) : Prop where
  created : ∃ socket, t.created? urlIsSsl settings = some socket ∧ res.target = socket.target ∧
    res.httpTimeout = socket.httpTimeout
  isHttp2 : res.isHttp2 = true ↔ t.sock.proto = .h2

/-- **A session returns the right state**, in any run and after any sessions of the same socket, iff
it was over HTTP/2 or none of those before it was. -/
theorem respawned_right_iff {tr : List (Rec (HyperClientProc M) (ProcEv M Req) (ProcOut M Req))}
    {j : Nat} {t : SockTask M} {res : HyperClientSocket}
    (hr : (clientMachine M Req urlIsSsl).Run tr s) (ht : s.clientSockets[j]? = some t)
    (hp : t.sock.pc = .ended (.ok res)) :
    RightState urlIsSsl s.settings t res ↔ (.h2 ∈ earlier tr j → t.sock.proto = .h2) := by
  obtain ⟨socket, hb, hs⟩ := (sessions_of_run hr).spawned j t ht
  have hflag : res.isHttp2 = true ↔ .h2 ∈ earlier tr j ∨ t.sock.proto = .h2 := by
    rw [hs.returned res hp, hs.self]
    simp
  constructor
  · intro hright hbefore
    exact hright.isHttp2.1 (hflag.2 (.inl hbefore))
  · intro hbefore
    refine ⟨⟨socket, hb, ?_, ?_⟩, ?_⟩
    · rw [hs.returned res hp, hs.self]
    · rw [hs.returned res hp, hs.self]
    · rw [hflag]
      exact ⟨fun h => h.elim hbefore id, .inr⟩

end

/-! ## A backend that changes its protocol -/

/-- One backend over TLS, where ALPN selects the protocol. -/
def tlsBackend : HyperClientSettings :=
  (HyperClientSettings.new "svc").addBackend ⟨"https://localhost:8443", none, 3000⟩

def allSsl : Url → Bool := fun _ => true

/-- The connection of the task `i` is lost, which returns its socket. -/
def connectionLost (i : Nat) : List (ProcEv Nat Nat) :=
  [.sock i (.connection (some (.error (.other "connection reset")))),
    .sock i (.procQueueRemoved true), .sock i .tryRecv, .sock i .returned]

/-- A session over HTTP/2, then one over HTTP/1. -/
def downgraded : List (ProcEv Nat Nat) :=
  .started (.ok ()) :: registeredH2.map (.sock 0) ++ connectionLost 0 ++
    .join 0 :: registered.map (.sock 1) ++ connectionLost 1

/-- The session over HTTP/1 returns a socket that is marked as one over HTTP/2. -/
theorem downgraded_stale : ∃ q t res,
    (clientMachine Nat Nat allSsl).exec (HyperClientProc.new tlsBackend) downgraded = some q ∧
      (clientMachine Nat Nat allSsl).Run q.1 q.2 ∧ q.2.clientSockets[1]? = some t ∧
      t.sock.pc = .ended (.ok res) ∧ t.sock.proto = .http1 ∧ res.isHttp2 = true ∧
      ¬ RightState allSsl q.2.settings t res := by
  refine ⟨_, _, _, (Option.some_get rfl).symm, Machine.run_get (init_proc _ _) rfl, rfl, rfl, rfl,
    rfl, fun h => ?_⟩
  have hproto := h.isHttp2.1 rfl
  cases hproto

/-- A session over HTTP/1, then one over HTTP/2. -/
def upgraded : List (ProcEv Nat Nat) :=
  .started (.ok ()) :: registered.map (.sock 0) ++ connectionLost 0 ++
    .join 0 :: registeredH2.map (.sock 1) ++ connectionLost 1

theorem upgraded_right : ∃ q t res,
    (clientMachine Nat Nat allSsl).exec (HyperClientProc.new tlsBackend) upgraded = some q ∧
      q.2.clientSockets[1]? = some t ∧ earlier q.1 1 = [.http1] ∧
      RightState allSsl q.2.settings t res :=
  ⟨_, _, _, (Option.some_get rfl).symm, rfl, rfl,
    (respawned_right_iff (j := 1) (Machine.run_get (init_proc _ _) rfl) rfl rfl).2 fun _ => rfl⟩

end Client
