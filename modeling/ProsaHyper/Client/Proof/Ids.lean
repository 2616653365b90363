import ProsaHyper.Client.Proof.Pool

/-!
# The ids of the socket queues

A socket registers its queue under the descriptor of its connection. The OS gives a descriptor to
one open connection at a time; what the queue needs is that no other socket has it until the queue
is unregistered.

* `io_of_run`: over HTTP/1 the connection is open as long as the socket uses its id; over HTTP/2
  the executor may have dropped it.
* `ids_kept`: no socket replaces or removes the registration of another, unless a connection was
  given the descriptor of a socket that lost it and still uses it (`reusesId`).
-/

set_option autoImplicit false

namespace Client

open Prosa Http

variable {M Req : Type}

/-- The socket is still to register its queue, or to unregister it. -/
def Pc.registers : Pc M → Bool
  | .handshake | .addProcQueue | .addService | .idle _ _ | .inFlight _ | .processing _ _
  | .removeProcQueue _ => true
  | _ => false

/-! ## The connection of a socket -/

/-- Whether the connection is open while the socket uses its descriptor as its id. -/
structure IoKept (s : Sock M) : Prop where
  fresh : s.pc = .connect ∨ s.pc = .handshake → s.ioSpawned = false
  h2 : s.ioSpawned = true → s.proto = .h2
  kept : s.pc.registers = true → s.io = some s.socketId ∨ s.ioSpawned = true ∧ s.io = none

section
variable {s s' : Sock M} {e : Ev M Req} {os : List (Out M Req)}

theorem registers_of_polls (h : .connection ∈ s.pc.polls) : s.pc.registers = true := by
  rcases polls_connection h with ⟨r, hp⟩ | ⟨x, hp, -⟩ <;> rw [hp] <;> rfl

/-- A socket comes to use an id by connecting, and keeps it. -/
theorem step_registers (h : s.step e = some (s', os)) (hp : s'.pc.registers = true) :
    (s.pc.registers = true ∧ s'.socketId = s.socketId) ∨
      s.pc = .connect ∧ ∃ alpn, e = .connected (.ok (alpn, s'.socketId)) := by
  cases moves_of_step h with
  | connectedH2 hpc | connectedHttp1 hpc => exact .inr ⟨hpc, _, rfl⟩
  | send | dropSenders | ioDropped | connPending | exchangeEnded | answeredEarly | task =>
    exact .inl ⟨hp, rfl⟩
  | connErr hpc => exact .inl ⟨registers_of_polls hpc, rfl⟩
  | drainRequest hpc | drainOther hpc =>
    have hp : s.pc.registers = true := hp
    rw [hpc] at hp
    cases hp
  | connectFailed | handshakeFailed | procQueueFailed | serviceFailed | connOkPanic | recvPanic
  | recvClosedPanic | removeFailed | returned | aborted | removed | drainEmpty => cases hp
  | _ => exact .inl ⟨by simp [‹s.pc = _›, Pc.registers], rfl⟩

theorem step_io (hs : IoKept s) (h : s.step e = some (s', os)) : IoKept s' := by
  obtain ⟨hfresh, hh2, hkept⟩ := hs
  cases moves_of_step h with
  | connectedH2 hp | connectedHttp1 hp =>
    have hf := hfresh (.inl hp)
    exact ⟨fun _ => hf, fun h => by simp [hf] at h, fun _ => .inl rfl⟩
  | handshaken hp =>
    have hio := hkept (by rw [hp]; rfl)
    rw [hfresh (.inr hp)] at hio
    refine ⟨fun h => by simp at h, fun h => by simpa using h, fun _ => .inl ?_⟩
    simpa using hio
  | ioDropped hi => exact ⟨hfresh, hh2, fun _ => .inr ⟨hi, rfl⟩⟩
  | send | dropSenders | connPending | exchangeEnded | answeredEarly | task =>
    exact ⟨hfresh, hh2, hkept⟩
  | connErr hp =>
    exact ⟨fun h => by simp at h, hh2, fun _ => hkept (registers_of_polls hp)⟩
  | drainRequest | drainOther => exact ⟨hfresh, hh2, hkept⟩
  | connectFailed | handshakeFailed | procQueueFailed | serviceFailed | connOkPanic | recvPanic
  | recvClosedPanic | removeFailed | returned | aborted =>
    exact ⟨fun h => by simp [Sock.leave] at h, hh2, fun h => by cases h⟩
  | removed | drainEmpty => exact ⟨fun h => by simp at h, hh2, fun h => by cases h⟩
  | _ =>
    exact ⟨fun h => by simp at h, hh2, fun _ => hkept (by simp [‹s.pc = _›, Pc.registers])⟩

theorem io_of_run {tr : List (Rec (Sock M) (Ev M Req) (Out M Req))}
    (hr : (socketMachine M Req).Run tr s) : IoKept s := by
  refine hr.state_invariant (I := IoKept) ?_ fun _ _ _ _ hs hst => step_io hs hst
  rintro s ⟨self, name, rfl⟩
  exact ⟨fun _ => rfl, (fun h => by cases h), (fun h => by cases h)⟩

/-- A socket that registered keeps its id, and registers until it unregisters or is over. -/
theorem step_bound (h : s.step e = some (s', os))
    (hp : s.pc.registers = true ∨ s.pc.isOver = true) :
    (s'.socketId = s.socketId ∧ (s'.pc.registers = true ∨ s'.pc.isOver = true)) ∨
      os = [.bus (.removeProcQueue s.socketId)] := by
  rcases hp with hp | hp
  · cases moves_of_step h with
    | removed => exact .inr rfl
    | connectedH2 hpc | connectedHttp1 hpc => simp [hpc, Pc.registers] at hp
    | drainEmpty hpc => simp [hpc, Pc.registers] at hp
    | connectFailed | handshakeFailed | procQueueFailed | serviceFailed | connOkPanic | recvPanic
    | recvClosedPanic | removeFailed | returned | aborted => exact .inl ⟨rfl, .inr rfl⟩
    | send | dropSenders | ioDropped | connPending | exchangeEnded | answeredEarly | task
    | drainRequest | drainOther => exact .inl ⟨rfl, .inl hp⟩
    | _ => exact .inl ⟨rfl, .inl rfl⟩
  · have hid : s'.socketId = s.socketId := by
      cases moves_of_step h with
      | connectedH2 hpc | connectedHttp1 hpc => simp [hpc, Pc.isOver] at hp
      | _ => rfl
    exact .inl ⟨hid, .inr (by rw [step_over hp h]; exact hp)⟩

/-- Only `setup_socket_queue` adds a queue, and only `close_socket!` removes one, under the id of
the socket. -/
theorem step_queue_op (h : s.step e = some (s', os)) {id : Nat}
    (ho : .bus (.addProcQueue id) ∈ os ∨ .bus (.removeProcQueue id) ∈ os) :
    id = s.socketId ∧ s.pc.registers = true := by
  rcases ho with ho | ho
  · cases mem_step h ho with
    | queueAdded hp => exact ⟨rfl, by rw [hp]; rfl⟩
    | @responded _ _ _ r _ _ _ he => cases r <;> cases he
    | task _ ht => cases ht with
      | @responded _ _ r _ _ he => cases r <;> cases he
  · cases mem_step h ho with
    | queueRemoved hp => exact ⟨rfl, by rw [hp]; rfl⟩
    | @responded _ _ _ r _ _ _ he => cases r <;> cases he
    | task _ ht => cases ht with
      | @responded _ _ r _ _ he => cases r <;> cases he

end

/-! ## The registrations on the bus -/

/-- What a socket adds to the queues on the bus. -/
theorem mem_regs {os : List (Out M Req)} {b : Bus} {owner id j : Nat}
    (h : (id, j) ∈ (regs owner b os).queues) :
    (id, j) ∈ b.queues ∨ j = owner ∧ .bus (.addProcQueue id) ∈ os := by
  induction os generalizing b with
  | nil => exact .inl h
  | cons o os ih =>
    rw [← List.singleton_append, regs_append] at h
    rcases ih h with h | ⟨hj, h⟩
    · cases o with
      | bus op =>
        cases op with
        | addProcQueue id' =>
          rcases List.mem_cons.1 h with h | h
          · cases h
            exact .inr ⟨rfl, List.mem_cons_self⟩
          · exact .inl (List.mem_filter.1 h).1
        | removeProcQueue id' => exact .inl (List.mem_filter.1 h).1
        | removeProc => cases h
        | _ => exact .inl h
      | _ => exact .inl h
    · exact .inr ⟨hj, List.mem_cons_of_mem _ h⟩

/-- The sockets, without the bookkeeping of the set. -/
def HyperClientProc.socks (s : HyperClientProc M) : List (Sock M) :=
  s.clientSockets.map (·.sock)

section
variable {urlIsSsl : Url → Bool} {s s' : HyperClientProc M} {e : ProcEv M Req}
  {os : List (ProcOut M Req)}

/-- A step of the processor moves one socket, or adds sockets that are still to connect. -/
theorem step_socks (h : s.step urlIsSsl e = some (s', os)) :
    (∃ i e' x x' os', e = .sock i e' ∧ s.socks[i]? = some x ∧ x.step e' = some (x', os') ∧
      s'.socks = s.socks.set i x' ∧ s'.bus = regs i s.bus os' ∧ os = os'.map (.sock i)) ∨
    ∃ new, s'.socks = s.socks ++ new ∧ (∀ x ∈ new, x.pc = .connect) ∧
      s'.bus.queues ⊆ s.bus.queues ∧ e.sock? = none ∧ ∀ i o, .sock i o ∉ os := by
  have grown (he : e.sock? = none) (hb : s'.bus.queues ⊆ s.bus.queues)
      (ho : ∀ i o, .sock i o ∉ os) : ∃ new, s'.socks = s.socks ++ new ∧
        (∀ x ∈ new, x.pc = .connect) ∧ s'.bus.queues ⊆ s.bus.queues ∧ e.sock? = none ∧
          ∀ i o, .sock i o ∉ os := by
    obtain ⟨new, hnew, hinit, -⟩ := (sockets M Req urlIsSsl).grows s e s' os h he
    refine ⟨new, hnew, fun x hx => ?_, hb, he, ho⟩
    obtain ⟨self, name, rfl⟩ := hinit x hx
    rfl
  cases procMoves_of_step h with
  | sock ht _ _ hst =>
    exact .inl ⟨_, _, _, _, _, rfl, by simp [HyperClientProc.socks, ht], hst,
      by simp [HyperClientProc.socks, List.map_set], rfl, rfl⟩
  | procRemoved => exact .inr (grown rfl (List.nil_subset _) (by simp))
  | _ => exact .inr (grown rfl (List.Subset.refl _) (by simp))

theorem socks_run {tr : List (Rec (HyperClientProc M) (ProcEv M Req) (ProcOut M Req))}
    (hr : (clientMachine M Req urlIsSsl).Run tr s) {i : Nat} {x : Sock M}
    (hx : s.socks[i]? = some x) : ∃ tr', (socketMachine M Req).Run tr' x := by
  obtain ⟨tr', hr', -⟩ := (sockets M Req urlIsSsl).project hr hx
  exact ⟨tr', hr'⟩

/-- Socket `i` uses the id `id`: it is still to register or unregister it, or its queue is on the
bus under it. -/
def Uses (s : HyperClientProc M) (i id : Nat) : Prop :=
  (∃ x, s.socks[i]? = some x ∧ x.pc.registers = true ∧ x.socketId = id) ∨ (id, i) ∈ s.bus.queues

/-- Socket `j` uses an id that the OS may give away: the executor has dropped its connection, or the
task is over and has left its queue registered. -/
def lostDescriptor (s : HyperClientProc M) (j id : Nat) : Bool :=
  s.socks[j]?.any fun x =>
    (x.pc.registers && x.socketId == id && x.proto == .h2 && x.io == none) ||
      (x.pc.isOver && s.bus.queues.contains (id, j))

/-- The OS gives a new connection a descriptor that no open connection has. -/
def osGives (s : HyperClientProc M) : ProcEv M Req → Bool
  | .sock _ (.connected (.ok (_, fd))) => s.socks.all (·.io != some fd)
  | _ => true

/-- A connection gets the descriptor of another socket that lost it and still uses it. -/
def reusesId (s : HyperClientProc M) : ProcEv M Req → Bool
  | .sock i (.connected (.ok (_, fd))) =>
    (List.range s.socks.length).any fun j => j != i && lostDescriptor s j fd
  | _ => false

/-- No two sockets use one id. -/
structure OneUser (s : HyperClientProc M) : Prop where
  bound : ∀ id j, (id, j) ∈ s.bus.queues → ∃ x, s.socks[j]? = some x ∧ x.socketId = id ∧
    (x.pc.registers = true ∨ x.pc.isOver = true)
  unique : ∀ id i j, Uses s i id → Uses s j id → i = j

/-- A socket comes to use an id by connecting. -/
theorem step_uses {i id : Nat} (h : s.step urlIsSsl e = some (s', os)) (hu : Uses s' i id) :
    Uses s i id ∨ ∃ alpn, e = .sock i (.connected (.ok (alpn, id))) := by
  obtain ⟨k, e', x, x', os', rfl, hx, hst, hs, hb, -⟩ | ⟨new, hs, hnew, hb, -, -⟩ := step_socks h
  · rcases hu with ⟨y, hy, hreg, rfl⟩ | hq
    · by_cases hk : k = i
      · subst hk
        rw [hs, getElem?_set_self_some hx] at hy
        cases hy
        rcases step_registers hst hreg with ⟨hreg', hid⟩ | ⟨-, alpn, rfl⟩
        · exact .inl (.inl ⟨x, hx, hreg', hid.symm⟩)
        · exact .inr ⟨alpn, rfl⟩
      · rw [hs, List.getElem?_set_ne hk] at hy
        exact .inl (.inl ⟨y, hy, hreg, rfl⟩)
    · rw [hb] at hq
      rcases mem_regs hq with hq | ⟨rfl, ho⟩
      · exact .inl (.inr hq)
      · obtain ⟨hid, hreg⟩ := step_queue_op hst (.inl ho)
        exact .inl (.inl ⟨x, hx, hreg, hid.symm⟩)
  · rcases hu with ⟨y, hy, hreg, hid⟩ | hq
    · rw [hs] at hy
      rcases Nat.lt_or_ge i s.socks.length with hi | hi
      · rw [List.getElem?_append_left hi] at hy
        exact .inl (.inl ⟨y, hy, hreg, hid⟩)
      · rw [List.getElem?_append_right hi] at hy
        rw [hnew y (List.mem_of_getElem? hy)] at hreg
        cases hreg
    · exact .inl (.inr (hb hq))

/-- Another socket that uses the descriptor of a new connection has lost it. -/
theorem lost_of_uses {j fd : Nat} (hs : OneUser s) (hio : ∀ x ∈ s.socks, IoKept x)
    (ho : ∀ x ∈ s.socks, x.io ≠ some fd) (hu : Uses s j fd) :
    j < s.socks.length ∧ lostDescriptor s j fd = true := by
  have lost : ∀ x, s.socks[j]? = some x → x.pc.registers = true → x.socketId = fd →
      lostDescriptor s j fd = true := by
    intro x hx hreg hid
    have hmem := List.mem_of_getElem? hx
    have hxio := hio x hmem
    rcases hxio.kept hreg with hopen | ⟨hspawn, hnone⟩
    · exact absurd (hid ▸ hopen) (ho x hmem)
    · simp [lostDescriptor, hx, hreg, hid, hxio.h2 hspawn, hnone]
  rcases hu with ⟨x, hx, hreg, hid⟩ | hq
  · exact ⟨(List.getElem?_eq_some_iff.1 hx).1, lost x hx hreg hid⟩
  · obtain ⟨x, hx, hid, hreg | hover⟩ := hs.bound fd j hq
    · exact ⟨(List.getElem?_eq_some_iff.1 hx).1, lost x hx hreg hid⟩
    · exact ⟨(List.getElem?_eq_some_iff.1 hx).1, by simp [lostDescriptor, hx, hover, hq]⟩

/-- A queue on the bus stays bound to the socket that registered it. -/
theorem step_bound_queue (hs : OneUser s) (h : s.step urlIsSsl e = some (s', os)) {id j : Nat}
    (hq : (id, j) ∈ s'.bus.queues) : ∃ x, s'.socks[j]? = some x ∧ x.socketId = id ∧
      (x.pc.registers = true ∨ x.pc.isOver = true) := by
  obtain ⟨k, e', x, x', os', rfl, hx, hst, hsocks, hb, -⟩ | ⟨new, hsocks, -, hb, -, -⟩ :=
    step_socks h
  · have hself : s'.socks[k]? = some x' := by
      rw [hsocks, getElem?_set_self_some hx]
    rw [hb] at hq
    rcases mem_regs hq with hold | ⟨rfl, hadd⟩
    · obtain ⟨y, hy, hid, hreg⟩ := hs.bound id j hold
      by_cases hk : k = j
      · subst hk
        cases hx.symm.trans hy
        rcases step_bound hst hreg with ⟨hid', hreg'⟩ | rfl
        · exact ⟨x', hself, hid'.trans hid, hreg'⟩
        · -- the queue was just removed
          have hne := (List.mem_filter.1 hq).2
          simp [hid] at hne
      · exact ⟨y, by rw [hsocks, List.getElem?_set_ne hk]; exact hy, hid, hreg⟩
    · obtain ⟨hid, hreg⟩ := step_queue_op hst (.inl hadd)
      rcases step_bound hst (.inl hreg) with ⟨hid', hreg'⟩ | rfl
      · exact ⟨x', hself, hid'.trans hid.symm, hreg'⟩
      · simp at hadd
  · obtain ⟨y, hy, hid, hreg⟩ := hs.bound id j (hb hq)
    refine ⟨y, ?_, hid, hreg⟩
    rw [hsocks, List.getElem?_append_left (List.getElem?_eq_some_iff.1 hy).1]
    exact hy

/-- A socket that connects is the only one to use its descriptor. -/
theorem connects_alone {a b id : Nat} {alpn : Option String} (hs : OneUser s)
    (hio : ∀ x ∈ s.socks, IoKept x)
    (ho : osGives s (.sock a (.connected (.ok (alpn, id))) : ProcEv M Req) = true)
    (hn : reusesId s (.sock a (.connected (.ok (alpn, id))) : ProcEv M Req) = false)
    (hb : Uses s b id) : b = a := by
  by_contra hne
  simp only [osGives, List.all_eq_true, bne_iff_ne] at ho
  obtain ⟨hlt, hlost⟩ := lost_of_uses hs hio ho hb
  simp only [reusesId, List.any_eq_false, List.mem_range] at hn
  simpa [hne, hlost] using hn b hlt

theorem step_oneUser (hs : OneUser s) (hio : ∀ x ∈ s.socks, IoKept x) (ho : osGives s e = true)
    (hn : reusesId s e = false) (h : s.step urlIsSsl e = some (s', os)) : OneUser s' := by
  refine ⟨fun id j hq => step_bound_queue hs h hq, fun id i j hi hj => ?_⟩
  rcases step_uses h hi with hi | ⟨alpn, rfl⟩
  · rcases step_uses h hj with hj | ⟨alpn, rfl⟩
    · exact hs.unique id i j hi hj
    · exact connects_alone hs hio ho hn hi
  · rcases step_uses h hj with hj | ⟨alpn', he'⟩
    · exact (connects_alone hs hio ho hn hj).symm
    · cases he'
      rfl

/-- A step replaces or removes no registration of another socket. -/
structure KeepsIds (r : Rec (HyperClientProc M) (ProcEv M Req) (ProcOut M Req)) : Prop where
  added : ∀ i id, .sock i (.bus (.addProcQueue id)) ∈ r.out →
    ∀ j, (id, j) ∈ r.pre.bus.queues → j = i
  removed : ∀ i id, .sock i (.bus (.removeProcQueue id)) ∈ r.out →
    ∀ j, (id, j) ∈ r.pre.bus.queues → j = i

theorem step_keepsIds (hs : OneUser s) (h : s.step urlIsSsl e = some (s', os)) :
    KeepsIds ⟨s, e, os, s'⟩ := by
  have own : ∀ i id, .sock i (.bus (.addProcQueue id)) ∈ os ∨
      .sock i (.bus (.removeProcQueue id)) ∈ os → ∀ j, (id, j) ∈ s.bus.queues → j = i := by
    intro i id ho j hq
    obtain ⟨k, e', x, x', os', rfl, hx, hst, -, -, rfl⟩ | ⟨-, -, -, -, -, hno⟩ := step_socks h
    · have ho' : (.bus (.addProcQueue id) ∈ os' ∨ .bus (.removeProcQueue id) ∈ os') ∧ i = k := by
        simpa [eq_comm, or_and_right] using ho
      obtain ⟨ho', rfl⟩ := ho'
      obtain ⟨rfl, hreg⟩ := step_queue_op hst ho'
      exact hs.unique _ j i (.inr hq) (.inl ⟨x, hx, hreg, rfl⟩)
    · rcases ho with ho | ho <;> exact absurd ho (hno _ _)
  exact ⟨fun i id ho => own i id (.inl ho), fun i id ho => own i id (.inr ho)⟩

section
variable {tr : List (Rec (HyperClientProc M) (ProcEv M Req) (ProcOut M Req))}
  (hr : (clientMachine M Req urlIsSsl).Run tr s)
include hr

theorem oneUser_of_run
    (hc : Machine.Along (fun s e => osGives s e = true ∧ reusesId s e = false) tr) :
    OneUser s := by
  refine hr.along_invariant (I := fun _ s => OneUser s) ?_ ?_ hc
  · intro s hi
    obtain ⟨settings, rfl⟩ := hi
    refine ⟨(fun id j hq => by cases hq), fun id i j hu => ?_⟩
    rcases hu with ⟨x, hx, -⟩ | hq
    · cases hx
    · cases hq
  · intro tr s e s' os hr hs he hst
    have hio : ∀ x ∈ s.socks, IoKept x := by
      intro x hx
      obtain ⟨i, hi⟩ := List.getElem?_of_mem hx
      obtain ⟨tr', hr'⟩ := socks_run hr hi
      exact io_of_run hr'
    exact step_oneUser hs hio he.1 he.2 hst

variable (ho : Machine.Along (fun s e => osGives s e = true) tr)
include ho

/-- **Socket queue ids never collide** in a run in which no connection gets the descriptor of
another socket that lost it and still uses it. -/
theorem ids_kept (hn : Machine.Along (fun s e => reusesId s e = false) tr) :
    ∀ r ∈ tr, KeepsIds r := by
  intro r hm
  have hc : Machine.Along (fun s e => osGives s e = true ∧ reusesId s e = false) tr :=
    fun r hm => ⟨ho r hm, hn r hm⟩
  obtain ⟨ta, hr₀, hc₀, hst⟩ := hr.along_of_mem hc hm
  have hs := oneUser_of_run hr₀ hc₀
  exact step_keepsIds hs hst

end

end

/-- One backend with two sockets. -/
def twoSockets : HyperClientSettings := { oneBackend with minSocket := 2 }

/-- The executor drops the connection of socket 0, and socket 1 gets its descriptor and registers
before socket 0 unregisters. -/
def takesOver : List (ProcEv Nat Nat) :=
  .started (.ok ()) :: registeredH2.map (.sock 0) ++
    .sock 0 .ioDropped :: registered.map (.sock 1) ++
    [.sock 0 (.connection (some (.error (.other "connection reset")))),
      .sock 0 (.procQueueRemoved true)]

/-- Socket 1 replaces the queue of socket 0, which then removes that of socket 1: socket 1 serves a
queue that is not registered. -/
theorem takesOver_collides : ∃ q,
    (clientMachine Nat Nat noSsl).exec (HyperClientProc.new twoSockets) takesOver = some q ∧
      (clientMachine Nat Nat noSsl).Run q.1 q.2 ∧
      Machine.Along (fun s e => osGives s e = true) q.1 ∧
      (∃ r ∈ q.1, ¬ KeepsIds r) ∧ q.2.bus.queues = [] ∧
      (q.2.socks[1]?.any fun x => x.pc matches .idle _ _) = true := by
  refine ⟨_, (Option.some_get rfl).symm, Machine.run_get (init_proc _ _) rfl, ?_, ?_, rfl, rfl⟩
  · exact Machine.along_of_all rfl
  · refine ⟨_, List.mem_of_getElem? (i := 8) rfl, fun hk => ?_⟩
    exact absurd (hk.added 1 3 List.mem_cons_self 0 List.mem_cons_self) (by decide)

/-- Socket 1 gets the descriptor of socket 0 after socket 0 unregistered. -/
def takesTurns : List (ProcEv Nat Nat) :=
  .started (.ok ()) :: registeredH2.map (.sock 0) ++
    [.sock 0 (.connection (some (.error (.other "connection reset")))),
      .sock 0 (.procQueueRemoved true), .sock 0 .ioDropped] ++ registered.map (.sock 1)

theorem takesTurns_keeps : ∃ q,
    (clientMachine Nat Nat noSsl).exec (HyperClientProc.new twoSockets) takesTurns = some q ∧
      ∀ r ∈ q.1, KeepsIds r := by
  refine ⟨_, (Option.some_get rfl).symm, ids_kept (Machine.run_get (init_proc _ _) rfl) ?_ ?_⟩
  · exact Machine.along_of_all rfl
  · exact Machine.along_of_none rfl

end Client
