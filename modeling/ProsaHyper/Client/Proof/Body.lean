import ProsaHyper.Client.Proof.Runs

/-!
# The body of a response and the connection that delivers it

`spawn_http1` drives the connection in its `select!`. While `process_http_response` is awaited no
branch is polled, and what arrives of the body is not handed over, its end included.

* `stuck_of_unbuffered`: if the head comes before the end of the body, the task can wait for ever
  although the backend has sent the complete response.
* `body_driven_iff`: in a run the task never waits for something it does not drive iff every
  response head came with its whole body, the end included.
-/

set_option autoImplicit false

namespace Client

open Prosa Http

variable {M Req : Type} {s s' : Sock M} {e : Ev M Req} {os : List (Out M Req)}

/-- The task is suspended in `process_http_response`, waiting for body data. -/
def Sock.waitsForBody (s : Sock M) : Prop := ∃ msg b, s.pc = .processing msg b ∧ b.waiting = true

/-- `process_http_response` has not returned. -/
def SameResponse (e : Ev M Req) : Prop := ∀ a, e ≠ .responded a

/-- The adaptor returns only once it has read the body to its end, and the task is not aborted. -/
def ReadsBody (s : Sock M) : Ev M Req → Prop
  | .responded _ => ∀ msg b, s.pc = .processing msg b → b.ended = true
  | .aborted => False
  | _ => True

variable (Req)

/-- The backend has sent the complete response, and an adaptor that reads it never gets on. -/
def Stuck (t : Sock M) : Prop :=
  ∃ msg b, t.pc = .processing msg b ∧ b.arrived = b.parts ∧ b.ended = false ∧
    ∀ tr u, ((socketMachine M Req).startAt t).Run tr u → Machine.Along ReadsBody tr → u.pc = t.pc

/-- While the response is processed the task drives what it waits for, and is never stuck. -/
structure BodyDriven (s : Sock M) : Prop where
  polled : ∀ t, (socketMachine M Req).Leads SameResponse s t → t.waitsForBody →
    .connection ∈ t.pc.polls
  moving : ∀ t, (socketMachine M Req).Leads SameResponse s t → ¬ Stuck Req t

variable {Req}

/-! ## The whole body is there -/

/-- Everything arrived and was handed over, and the reader does not wait. -/
structure Reading.Whole (b : Reading) : Prop where
  buffered : b.buffered = b.parts
  arrived : b.arrived = b.parts
  read : b.read ≤ b.parts
  running : b.waiting = false

theorem Reading.Whole.poll {b b' : Reading} (h : b.Whole) (hp : b.poll = some b') : b'.Whole := by
  obtain ⟨h1, h2, h3, h4⟩ := h
  unfold Reading.poll at hp
  split at hp
  · cases hp
    exact ⟨h1, h2, by simp only [Reading.parts] at *; omega, rfl⟩
  · have hend : b.ended = true := by
      rw [Reading.ended, beq_iff_eq]
      omega
    rw [hend, if_pos rfl] at hp
    cases hp
    exact ⟨h1, h2, h3, h4⟩

theorem Reading.Whole.poll_ne {b : Reading} (h : b.Whole) (he : b.ended = false) :
    ∃ b', b.poll = some b' ∧ b' ≠ b := by
  have hne : b.read ≠ b.parts := beq_eq_false_iff_ne.1 he
  have hlt : b.read < b.buffered := by
    rw [h.buffered]
    exact Nat.lt_of_le_of_ne h.read hne
  refine ⟨{ b with read := b.read + 1, waiting := false }, by simp [Reading.poll, hlt],
    fun hb => ?_⟩
  have := congrArg Reading.read hb
  simp at this

theorem Reading.start_whole (r : Except HyperError Response) :
    (Reading.start r (Reading.start r 0).parts).Whole :=
  ⟨rfl, rfl, Nat.zero_le _, rfl⟩

/-- What can happen while the adaptor works on a response. -/
theorem step_processing {msg : RequestMsg M} {b : Reading} (hp : s.pc = .processing msg b)
    (h : s.step e = some (s', os)) :
    s'.pc = s.pc ∨ (∃ b', b.arrive = some b' ∧ s'.pc = .processing msg b') ∨
      (∃ b', b.poll = some b' ∧ s'.pc = .processing msg b') ∨ (∃ a, e = .responded a) ∨
      e = .aborted ∧ s'.pc = .aborted := by
  cases moves_of_step h with
  | send | dropSenders | ioDropped | connPending | exchangeEnded | answeredEarly | task =>
    exact .inl rfl
  | @frame _ _ b' hp' hb =>
    cases hp.symm.trans hp'
    exact .inr (.inl ⟨b', hb, rfl⟩)
  | @bodyPoll _ _ b' hp' hb =>
    cases hp.symm.trans hp'
    exact .inr (.inr (.inl ⟨b', hb, rfl⟩))
  | @responded a => exact .inr (.inr (.inr (.inl ⟨a, rfl⟩)))
  | aborted => exact .inr (.inr (.inr (.inr ⟨rfl, rfl⟩)))
  | connErr hc => simp [hp, Pc.polls] at hc
  | _ => cases hp.symm.trans ‹s.pc = _›

theorem whole_step (hI : (∃ msg b, s.pc = .processing msg b ∧ b.Whole) ∨ s.pc = .aborted)
    (he : SameResponse e) (h : s.step e = some (s', os)) :
    (∃ msg b, s'.pc = .processing msg b ∧ b.Whole) ∨ s'.pc = .aborted := by
  rcases hI with ⟨msg, b, hp, hb⟩ | hp
  · obtain hpc | ⟨b', hb', -⟩ | ⟨b', hb', hpc⟩ | ⟨a, rfl⟩ | ⟨-, hpc⟩ := step_processing hp h
    · exact .inl ⟨msg, b, by rw [hpc, hp], hb⟩
    · simp [Reading.arrive, hb.arrived] at hb'
    · exact .inl ⟨msg, b', hpc, hb.poll hb'⟩
    · exact absurd rfl (he a)
    · exact .inr hpc
  · right
    rw [step_over (by rw [hp]; rfl) h, hp]

theorem bodyDriven_of_whole {msg : RequestMsg M} {b : Reading} (hp : s.pc = .processing msg b)
    (hb : b.Whole) : BodyDriven Req s := by
  have keeps : ∀ t, (socketMachine M Req).Leads SameResponse s t →
      (∃ msg b, t.pc = .processing msg b ∧ b.Whole) ∨ t.pc = .aborted :=
    fun t ht => ht.invariant (I := fun s => (∃ msg b, s.pc = .processing msg b ∧ b.Whole) ∨
      s.pc = .aborted) (fun _ _ _ _ hI he h => whole_step hI he h) (.inl ⟨msg, b, hp, hb⟩)
  refine ⟨fun t ht hw => ?_, fun t ht hstuck => ?_⟩
  · obtain ⟨msg', b', hp', hwait⟩ := hw
    rcases keeps t ht with ⟨msg'', b'', hp'', hb''⟩ | hp''
    · cases hp'.symm.trans hp''
      rw [hb''.running] at hwait
      cases hwait
    · cases hp'.symm.trans hp''
  · obtain ⟨msg', b', hp', harr, hend, hstay⟩ := hstuck
    rcases keeps t ht with ⟨msg'', b'', hp'', hb''⟩ | hp''
    · cases hp'.symm.trans hp''
      obtain ⟨b₁, hb₁, hne⟩ := hb''.poll_ne hend
      have hst : (socketMachine M Req).step t .bodyPoll =
          some ({ t with pc := .processing msg' b₁ }, []) := by
        simp [socketMachine, Sock.step, Sock.onBodyPoll, hp', hb₁]
      have := hstay _ _ (.single hst) (by simp [ReadsBody])
      rw [hp'] at this
      cases this
      exact hne rfl
    · cases hp'.symm.trans hp''

/-! ## Part of the body comes later -/

variable (Req)

/-- The reader of a body of which `n` parts came with the head, after it has read `k`. -/
def Reading.after (r : Response) (n k : Nat) : Reading := ⟨.ok r, n, n, k, false⟩

/-- The same once it waits, `m` parts having arrived. -/
def Reading.stalled (r : Response) (n m : Nat) : Reading := ⟨.ok r, m, n, n, true⟩

section
variable {msg : RequestMsg M} {r : Response} {n k m : Nat}

/-- The reader takes what was handed over. -/
theorem read_leads (hk : k ≤ n) (hp : s.pc = .processing msg (.after r n 0)) :
    (socketMachine M Req).Leads SameResponse s { s with pc := .processing msg (.after r n k) } := by
  induction k with
  | zero => rw [← hp]; exact .refl s
  | succ k ih =>
    have hlt : k < n := by omega
    have hst : (socketMachine M Req).step
        { s with pc := .processing msg (.after r n k) } .bodyPoll =
          some ({ s with pc := .processing msg (.after r n (k + 1)) }, []) := by
      simp [socketMachine, Sock.step, Sock.onBodyPoll, Reading.poll, Reading.after, hlt]
    exact (ih (by omega)).trans (.step hst fun a => by simp)

/-- The rest of the body arrives, and nothing hands it over. -/
theorem arrive_leads (hm : n ≤ m) (hl : m ≤ r.parts)
    (hp : s.pc = .processing msg (.stalled r n n)) :
    (socketMachine M Req).Leads SameResponse s
      { s with pc := .processing msg (.stalled r n m) } := by
  obtain ⟨j, rfl⟩ := Nat.le.dest hm
  clear hm
  induction j with
  | zero => rw [Nat.add_zero, ← hp]; exact .refl s
  | succ j ih =>
    have hlt : n + j < r.parts := by omega
    have hst : (socketMachine M Req).step
        { s with pc := .processing msg (.stalled r n (n + j)) } .frame =
          some ({ s with pc := .processing msg (.stalled r n (n + (j + 1))) }, []) := by
      simp [socketMachine, Sock.step, Sock.onFrame, Reading.arrive, Reading.parts, Reading.stalled,
        hlt, Pc.polls, Nat.add_assoc]
    exact (ih (by omega)).trans (.step hst fun a => by simp)

/-- A reader that waits for a part already here stays where it is. -/
theorem stalled_stuck (hn : n < r.parts) (hp : s.pc = .processing msg (.stalled r n r.parts)) :
    Stuck Req s := by
  have hend : (Reading.stalled r n r.parts).ended = false := beq_eq_false_iff_ne.2 (Nat.ne_of_lt hn)
  refine ⟨msg, _, hp, rfl, hend, fun tr u hr hreads => ?_⟩
  induction hr with
  | start hi => cases hi; rfl
  | @next tr t t' e os _ hst ih =>
    obtain ⟨hreads, hread⟩ := Machine.along_append.1 hreads
    have ht : t.pc = .processing msg (.stalled r n r.parts) := (ih hreads).trans hp
    obtain hpc | ⟨b', hb', -⟩ | ⟨b', hb', -⟩ | ⟨a, rfl⟩ | ⟨rfl, -⟩ := step_processing ht hst
    · rw [hpc, ih hreads]
    · simp [Reading.arrive, Reading.stalled, Reading.parts] at hb'
    · have hnone : (Reading.stalled r n r.parts).poll = none := by
        rw [Reading.poll, hend]
        simp [Reading.stalled]
      rw [hnone] at hb'
      cases hb'
    · have hread := Machine.along_single.1 hread msg _ ht
      rw [hend] at hread
      cases hread
    · exact absurd (Machine.along_single.1 hread) (fun h => by cases h)

end

/-- **The stuck exchange.** With a part of the body still to come when the head does, the task waits
with the complete response received and only the adaptor polled. -/
theorem stuck_of_unbuffered {msg : RequestMsg M} {r : Response} {n : Nat} (hn : n < r.parts)
    (hp : s.pc = .processing msg (.start (.ok r) n)) :
    ∃ t, (socketMachine M Req).Leads SameResponse s t ∧ t.waitsForBody ∧
      .connection ∉ t.pc.polls ∧ Stuck Req t := by
  have hread := read_leads Req (Nat.le_refl n) hp
  have hend : (Reading.after r n n).ended = false := beq_eq_false_iff_ne.2 (Nat.ne_of_lt hn)
  have hpoll : (Reading.after r n n).poll = some (.stalled r n n) := by
    rw [Reading.poll, hend]
    simp [Reading.after, Reading.stalled]
  have hwait : (socketMachine M Req).step
      { s with pc := .processing msg (.after r n n) } .bodyPoll =
        some ({ s with pc := .processing msg (.stalled r n n) }, []) := by
    simp [socketMachine, Sock.step, Sock.onBodyPoll, hpoll]
  have harrive := arrive_leads Req (s := { s with pc := .processing msg (.stalled r n n) })
    (Nat.le_of_lt hn) (Nat.le_refl _) rfl
  refine ⟨_, hread.trans (.trans (.step hwait fun a => by simp) harrive), ⟨_, _, rfl, rfl⟩, ?_,
    stalled_stuck Req hn rfl⟩
  simp [Pc.polls]

variable {Req}

/-- After a response head came with `n` parts, the task drives what it waits for iff these were all
the parts. -/
theorem driven_of_response_iff {r : Response} {n : Nat}
    (h : s.step (.response (.ok r) n : Ev M Req) = some (s', os)) :
    BodyDriven Req s' ↔ n = r.parts := by
  cases moves_of_step h with
  | @response x _ _ hp hm =>
    have hle : n ≤ r.parts := by
      simp only [mayAnswer, Bool.and_eq_true, decide_eq_true_eq] at hm
      exact hm.2
    constructor
    · intro hd
      by_contra hne
      obtain ⟨t, ht, hw, hpoll, -⟩ := stuck_of_unbuffered Req
        (s := { s with
          pc := .processing x.msg (.start (.ok r) n), conn := s.conn.answered (.ok r) n })
        (by omega) rfl
      exact hpoll (hd.polled t ht hw)
    · rintro rfl
      exact bodyDriven_of_whole rfl (Reading.start_whole (.ok r))

theorem processing_of_response {r : Except HyperError Response} {n : Nat}
    (h : s.step (.response r n : Ev M Req) = some (s', os)) :
    ∃ msg, s'.pc = .processing msg (.start r n) := by
  cases moves_of_step h with
  | response => exact ⟨_, rfl⟩

/-! ## Runs -/

/-- A response head is delivered before the whole body. -/
def headAhead : Ev M Req → Bool
  | .response (.ok r) n => n != r.parts
  | _ => false

/-- In every state of the history that processes a response the task drives what it waits for. -/
def Driven (tr : List (Rec (Sock M) (Ev M Req) (Out M Req))) : Prop :=
  ∀ r ∈ tr, ∀ msg b, r.post.pc = .processing msg b → BodyDriven Req r.post

theorem step_whole (hs : ∀ msg b, s.pc = .processing msg b → b.Whole) (he : headAhead e = false)
    (h : s.step e = some (s', os)) (msg : RequestMsg M) (b : Reading)
    (hp' : s'.pc = .processing msg b) : b.Whole := by
  cases moves_of_step h with
  | send | dropSenders | ioDropped | connPending | exchangeEnded | answeredEarly | drainRequest
  | drainOther | task =>
    exact hs msg b hp'
  | frame hp hb =>
    cases hp'
    simp [Reading.arrive, (hs _ _ hp).arrived] at hb
  | bodyPoll hp hb =>
    cases hp'
    exact (hs _ _ hp).poll hb
  | @response x r n hp hm =>
    cases hp'
    cases r with
    | ok r =>
      obtain rfl : n = r.parts := by simpa [headAhead] using he
      exact Reading.start_whole (.ok r)
    | error err =>
      obtain rfl : n = 0 := by
        simp only [mayAnswer, Bool.and_eq_true, beq_iff_eq] at hm
        exact hm.2
      exact Reading.start_whole (.error err)
  | _ => cases hp'

theorem whole_of_run {tr : List (Rec (Sock M) (Ev M Req) (Out M Req))}
    (hr : (socketMachine M Req).Run tr s)
    (hk : Machine.Along (fun _ e => headAhead e = false) tr) :
    ∀ msg b, s.pc = .processing msg b → b.Whole := by
  refine hr.along_invariant (I := fun _ s => ∀ msg b, s.pc = .processing msg b → b.Whole) ?_
    (fun _ _ _ _ _ _ hw he hst => step_whole hw he hst) hk
  intro s hi msg b hp
  obtain ⟨self, name, rfl⟩ := hi
  cases hp

/-- **Driving the body.** In every state that a run reaches the task drives the connection whenever
it waits for the body, and is never stuck, iff every response head came with its whole body. -/
theorem body_driven_iff {tr : List (Rec (Sock M) (Ev M Req) (Out M Req))}
    (hr : (socketMachine M Req).Run tr s) :
    Driven tr ↔ Machine.Along (fun _ e => headAhead e = false) tr := by
  constructor
  · intro h r hm
    have hst := (hr.step_of_mem hm).2
    generalize he : r.ev = e at hst ⊢
    cases e with
    | response resp n =>
      cases resp with
      | ok resp =>
        obtain ⟨x, hp⟩ := processing_of_response hst
        simpa [headAhead] using (driven_of_response_iff hst).1 (h r hm _ _ hp)
      | error => rfl
    | _ => rfl
  · intro hk r hm msg b hp
    obtain ⟨ta, hr₀, hk₀, hst⟩ := hr.along_of_mem hk hm
    have hwhole := step_whole (whole_of_run hr₀ hk₀) (hk r hm) hst
    exact bodyDriven_of_whole hp (hwhole msg b hp)

/-- Request 7 is answered with a complete chunked response in one write: its chunk is handed over
with the head, the end is there, and the adaptor reads. -/
def chunkedBody : List (Ev Nat Nat) :=
  registered ++ [.send (.request ⟨7, "svc", some 1, 0⟩), .recv echo,
    .response (.ok ⟨200, .http11, [], ["chunk"]⟩) 1, .frame, .bodyPoll, .bodyPoll]

/-- The adaptor waits for the end for ever, and request 7 is never answered. -/
theorem chunkedBody_stuck : ∃ q,
    (socketMachine Nat Nat).exec (Sock.new plainSocket "svc") chunkedBody = some q ∧
      (socketMachine Nat Nat).Run q.1 q.2 ∧ q.2.waitsForBody ∧ .connection ∉ q.2.pc.polls ∧
      Stuck Nat q.2 ∧ tally (repliedOf 7) (outs q.1) = 0 :=
  ⟨_, (Option.some_get rfl).symm, Machine.run_get (init_new _ _) rfl, ⟨_, _, rfl, rfl⟩, by decide,
    stalled_stuck Nat (r := ⟨200, .http11, [], ["chunk"]⟩) (n := 1) (by decide) rfl, rfl⟩

/-- Request 7 is answered with a body of one frame, which comes with the head, as does its end. -/
def wholeBody : List (Ev Nat Nat) :=
  registered ++ [.send (.request ⟨7, "svc", some 1, 0⟩), .recv echo,
    .response (.ok ⟨200, .http11, [("content-length", "5")], ["chunk"]⟩) 2, .bodyPoll, .bodyPoll,
    .responded echo]

theorem wholeBody_driven : ∃ q,
    (socketMachine Nat Nat).exec (Sock.new plainSocket "svc") wholeBody = some q ∧ Driven q.1 ∧
      tally (repliedOf 7) (outs q.1) = 1 := by
  refine ⟨_, (Option.some_get rfl).symm,
    (body_driven_iff (Machine.run_get (init_new _ _) rfl)).2 ?_, rfl⟩
  exact Machine.along_of_none rfl

end Client
