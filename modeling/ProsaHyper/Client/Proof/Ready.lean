import ProsaHyper.Client.Proof.Retire

/-!
# The connection an HTTP/1 request is sent on

hyper takes the next request once the connection has ended the last exchange: the request is written
and the response is read, each to its end. The loop of `spawn_http1` does not ask whether it has: it
calls `send_request` as soon as a request is queued.

* `Phase`: what the events of a run say about the connection.
* `step_tracks`: the connection follows its phase, as long as no request is sent in another one
  than `rested`.
* `sends_ready_iff`: every request of a run is sent on a ready connection iff it is sent in the
  phase `rested`.
-/

set_option autoImplicit false

namespace Client

open Prosa Http

variable {M Req : Type}

/-- Nothing was sent, or the connection has ended the last exchange (`rested`); a request was sent
(`busy`); its response came without its end or before the request was written, and the connection
has not ended the exchange since (`unended`); or the connection has completed. -/
inductive Phase
  | rested
  | busy
  | unended
  | lost
  deriving DecidableEq, Repr

def Out.sends : Out M Req → Bool
  | .sendRequest _ _ => true
  | _ => false

/-- The step of the loop calls `send_request`. -/
def sendsNow (r : Rec (Sock M) (Ev M Req) (Out M Req)) : Bool :=
  match r.ev with
  | .recv _ => r.out.any Out.sends
  | _ => false

def Phase.next (p : Phase) (r : Rec (Sock M) (Ev M Req) (Out M Req)) : Phase :=
  if p = .lost then .lost
  else
    match r.ev with
    | .recv _ => if sendsNow r then .busy else p
    | .response (.ok resp) n => if n = resp.parts then .rested else .unended
    | .answeredEarly => .unended
    | .exchangeEnded => .rested
    | .connection (some _) => .lost
    | _ => p

def phase (tr : List (Rec (Sock M) (Ev M Req) (Out M Req))) : Phase := tr.foldl Phase.next .rested

@[simp] theorem phase_concat (tr : List (Rec (Sock M) (Ev M Req) (Out M Req)))
    (r : Rec (Sock M) (Ev M Req) (Out M Req)) : phase (tr ++ [r]) = (phase tr).next r := by
  simp [phase]

/-- Every request is sent in the phase `rested`. -/
def SendsRested (tr : List (Rec (Sock M) (Ev M Req) (Out M Req))) : Prop :=
  ∀ ta r tb, tr = ta ++ r :: tb → sendsNow r = true → phase ta = .rested

/-- The connection in each phase, while the task exists. -/
inductive Tracks : Phase → Sock M → Prop
  | rested {s : Sock M} : s.conn = ⟨none, true, []⟩ → (∀ x, s.pc ≠ .inFlight x) → Tracks .rested s
  | busy {s : Sock M} {id : Nat} : s.conn = ⟨none, false, [id]⟩ → Tracks .busy s
  | unended {s : Sock M} : s.conn = ⟨none, false, []⟩ → (∀ x, s.pc ≠ .inFlight x) →
      Tracks .unended s
  | lost {s : Sock M} : s.conn.completed.isSome = true → Tracks .lost s
  | ended {p : Phase} {s : Sock M} : s.pc.isOver = true → Tracks p s

section
variable {s s' : Sock M} {e : Ev M Req} {os : List (Out M Req)} {p : Phase}
  {tr : List (Rec (Sock M) (Ev M Req) (Out M Req))}

/-- In its idle `select!` the loop has a connection that takes a request iff it is `rested`. -/
theorem Tracks.takes_iff (ht : Tracks p s) {c r : Bool} (hp : s.pc = .idle c r) :
    s.conn.takes = true ↔ p = .rested := by
  unfold Conn.takes
  cases ht with
  | rested hc | busy hc | unended hc => simp [hc]
  | lost hc => simp [Option.isNone_eq_false_iff.2 hc]
  | ended ho => rw [hp] at ho; cases ho

/-- The step leaves the connection as it is, and nothing is put in flight. -/
theorem Tracks.same (ht : Tracks p s) (hc : s'.conn = s.conn)
    (hf : (∀ x, s.pc ≠ .inFlight x) → ∀ x, s'.pc ≠ .inFlight x)
    (ho : s.pc.isOver = true → s'.pc.isOver = true) : Tracks p s' := by
  cases ht with
  | rested h hx => exact .rested (hc.trans h) (hf hx)
  | busy h => exact .busy (hc.trans h)
  | unended h hx => exact .unended (hc.trans h) (hf hx)
  | lost h => exact .lost (hc ▸ h)
  | ended h => exact .ended (ho h)

/-- A request is in flight on a busy connection, unless it has completed. -/
theorem Tracks.inFlight_inv (ht : Tracks p s) (hl : p ≠ .lost) {x : InFlight M}
    (hp : s.pc = .inFlight x) : ∃ id, s.conn = ⟨none, false, [id]⟩ := by
  cases ht with
  | rested _ hx | unended _ hx => exact absurd hp (hx x)
  | busy h => exact ⟨_, h⟩
  | lost => exact absurd rfl hl
  | ended ho => rw [hp] at ho; cases ho

/-- The connection ends an exchange that the task has left. -/
theorem Tracks.exchangeEnded (ht : Tracks p s) (hc : s.conn.completed = none)
    (hr : s.conn.ready = false) (hw : s.conn.wire = []) (ho : s.pc.isOver = false) :
    Tracks .rested { s with conn := { s.conn with ready := true } } := by
  cases ht with
  | rested h => rw [h] at hr; cases hr
  | busy h => rw [h] at hw; cases hw
  | unended h hx => exact .rested (by rw [h]) hx
  | lost h => rw [hc] at h; cases h
  | ended h => rw [ho] at h; cases h

/-- The response is whole, but the request is not. -/
theorem Tracks.answeredEarly (ht : Tracks p s) (hc : s.conn.completed = none)
    (hr : s.conn.ready = true) (ho : s.pc.isOver = false) :
    Tracks .unended { s with conn := { s.conn with ready := false } } := by
  cases ht with
  | rested h hx => exact .unended (by rw [h]) hx
  | busy h | unended h => rw [h] at hr; cases hr
  | lost h => rw [hc] at h; cases h
  | ended h => rw [ho] at h; cases h

/-- A connection that has completed stays so. -/
theorem completed_of_step (hc : s.conn.completed.isSome = true) (h : s.step e = some (s', os)) :
    s'.conn.completed.isSome = true := by
  cases moves_of_step h <;> first | exact hc | rfl | simpa using hc

/-- **The connection follows its phase**, if the step sends no request in another than `rested`. -/
theorem step_tracks (ht : Tracks p s) (h : s.step e = some (s', os))
    (hs : sendsNow ⟨s, e, os, s'⟩ = true → p = .rested) :
    Tracks (p.next ⟨s, e, os, s'⟩) s' := by
  cases ho : s.pc.isOver with
  | true => exact .ended (by rw [step_over ho h, ho])
  | false =>
  by_cases hl : p = .lost
  · subst hl
    cases ht with
    | lost hc => exact .lost (completed_of_step hc h)
    | ended ho' => rw [ho] at ho'; cases ho'
  have hrecv : ∀ {a : HyperClientAdaptor M Req}, e = .recv a → os.any Out.sends = false →
      p.next ⟨s, e, os, s'⟩ = p := by
    intro a he hno
    subst he
    simp [Phase.next, hl, sendsNow, hno]
  have keep (hn : p.next ⟨s, e, os, s'⟩ = p) (hc : s'.conn = s.conn)
      (hf : (∀ x, s.pc ≠ .inFlight x) → ∀ x, s'.pc ≠ .inFlight x) :
      Tracks (p.next ⟨s, e, os, s'⟩) s' := by
    rw [hn]
    exact ht.same hc hf (fun h => by rw [ho] at h; cases h)
  cases moves_of_step h with
  | connectFailed | handshakeFailed | procQueueFailed | serviceFailed | connOkPanic | recvPanic
  | recvClosedPanic | removeFailed | returned | aborted => exact .ended rfl
  | send | dropSenders | ioDropped | task | drainRequest | drainOther | connPending =>
    exact keep (if_neg hl) rfl id
  | connectedH2 | connectedHttp1 | handshaken | procQueueAdded | serviceAdded | recvClosed
  | removed | drainEmpty | elapsed | frame | bodyPoll | responded =>
    exact keep (if_neg hl) rfl fun _ => by simp
  | recvSpawn | recvRefuse | recvNoData | recvIgnored | recvShutdown =>
    exact keep (hrecv rfl rfl) rfl fun _ => by simp
  | answeredEarly _ hc hr =>
    rw [Phase.next, if_neg hl]
    exact ht.answeredEarly hc hr ho
  | exchangeEnded _ hc hr hw =>
    rw [Phase.next, if_neg hl]
    exact ht.exchangeEnded hc hr hw ho
  | connErr | connOkIdle | connOkInFlight =>
    rw [Phase.next, if_neg hl]
    exact .lost rfl
  | @recvSend a _ r =>
    have hrest : p = .rested := hs rfl
    subst hrest
    rw [Phase.next, if_neg hl]
    cases ht with
    | rested hc => exact .busy (by rw [hc]; rfl)
    | ended ho' => rw [ho] at ho'; cases ho'
  | @response _ r n hp =>
    obtain ⟨id, hc⟩ := ht.inFlight_inv hl hp
    cases r with
    | error => exact keep (if_neg hl) rfl fun _ => by simp
    | ok resp =>
      rw [Phase.next, if_neg hl]
      dsimp only
      split
      · rename_i hn
        exact .rested (by rw [hc, Conn.answered, hn]; simp) (by simp)
      · rename_i hn
        exact .unended (by rw [hc, Conn.answered, beq_eq_false_iff_ne.2 hn]; simp) (by simp)

theorem SendsRested.of_append {tr' : List (Rec (Sock M) (Ev M Req) (Out M Req))}
    (h : SendsRested (tr ++ tr')) : SendsRested tr := by
  rintro ta r tb rfl hs
  exact h ta r (tb ++ tr') (by simp) hs

theorem tracks_of_run (hr : (socketMachine M Req).Run tr s) (h : SendsRested tr) :
    Tracks (phase tr) s := by
  induction hr with
  | start hi =>
    obtain ⟨self, name, rfl⟩ := hi
    exact .rested rfl (by simp [Sock.new])
  | @next tr s s' e os _ hst ih =>
    rw [phase_concat]
    exact step_tracks (ih h.of_append) hst fun hs => h tr _ [] rfl hs

/-- The loop sends from its idle `select!`. -/
theorem idle_of_sends (h : s.step e = some (s', os)) (hs : sendsNow ⟨s, e, os, s'⟩ = true) :
    ∃ c, s.pc = .idle c true := by
  unfold sendsNow at hs
  dsimp only at hs
  split at hs
  · obtain ⟨o, ho, hsend⟩ := List.any_eq_true.1 hs
    cases mem_step h ho with
    | sent hp => exact ⟨_, hp⟩
    | _ => cases hsend
  · cases hs

/-- **Requests are sent on a ready connection** in a run iff each is sent after the connection has
ended the last exchange: with the head of its response, or once the adaptor returned. -/
theorem sends_ready_iff (hr : (socketMachine M Req).Run tr s) :
    (∀ r ∈ tr, sendsNow r = true → r.pre.conn.takes = true) ↔ SendsRested tr := by
  constructor
  · intro h
    induction hr with
    | start => intro ta r tb htr; simp at htr
    | @next tr s s' e os hr hst ih =>
      have hrested : SendsRested tr := ih fun r hm => h r (List.mem_append_left _ hm)
      intro ta r tb htr hs
      rcases List.eq_nil_or_concat tb with rfl | ⟨tb', last, rfl⟩
      · obtain ⟨rfl, hrec⟩ := List.append_inj' htr rfl
        cases hrec
        obtain ⟨c, hp⟩ := idle_of_sends hst hs
        exact ((tracks_of_run hr hrested).takes_iff hp).1
          (h _ (List.mem_append_right _ (List.mem_singleton.2 rfl)) hs)
      · have hcat : tr ++ [⟨s, e, os, s'⟩] = (ta ++ r :: tb') ++ [last] := by simpa using htr
        exact hrested ta r tb' (List.append_inj' hcat rfl).1 hs
  · intro h r hm hs
    obtain ⟨ta, tb, rfl⟩ := List.append_of_mem hm
    obtain ⟨hr₀, hst, -⟩ := hr.split
    obtain ⟨c, hp⟩ := idle_of_sends hst hs
    exact ((tracks_of_run hr₀ h.of_append).takes_iff hp).2 (h ta r tb rfl hs)

end

/-- Two requests are queued. The first is answered with a large body, of which the adaptor reads
nothing, and the loop takes the second one before it polls the connection. -/
def largeUnread : List (Ev Nat Nat) :=
  registered ++ [.send (.request ⟨7, "svc", some 1, 0⟩), .send (.request ⟨8, "svc", some 2, 0⟩),
    .recv echo, .response (.ok ⟨200, .http11, [], ["first", "second", "third"]⟩) 1, .frame,
    .responded echo, .recv echo]

/-- The second request is not sent, which hyper reports as canceled. -/
theorem largeUnread_unready : ∃ q q',
    (socketMachine Nat Nat).exec (Sock.new plainSocket "svc") largeUnread = some q ∧
      (socketMachine Nat Nat).Run q.1 q.2 ∧
      ¬ (∀ r ∈ q.1, sendsNow r = true → r.pre.conn.takes = true) ∧
      (socketMachine Nat Nat).exec q.2 [.response (.error .canceled) 0, .responded echo] =
        some q' ∧ q.2.conn.wire = [] ∧ tally (repliedOf 8) (outs q'.1) = 1 := by
  refine ⟨_, _, (Option.some_get rfl).symm, Machine.run_get (init_new _ _) rfl, fun h => ?_,
    (Option.some_get rfl).symm, rfl, rfl⟩
  have hany : (((socketMachine Nat Nat).exec (Sock.new plainSocket "svc") largeUnread).get
      rfl).1.any (fun r => sendsNow r && !r.pre.conn.takes) = true := rfl
  obtain ⟨r, hm, hr⟩ := List.any_eq_true.1 hany
  simp only [Bool.and_eq_true, Bool.not_eq_true'] at hr
  rw [h r hm hr.1] at hr
  cases hr.2

/-- The first response comes whole, the connection reads the end of the second once the adaptor
returned, and the third comes whole before its request is written. The adaptor reads none. -/
def restedBetween : List (Ev Nat Nat) :=
  registered ++ [.send (.request ⟨7, "svc", some 1, 0⟩), .send (.request ⟨8, "svc", some 2, 0⟩),
    .send (.request ⟨9, "svc", some 3, 0⟩), .send (.request ⟨10, "svc", some 4, 0⟩), .recv echo,
    .response (.ok ⟨200, .http11, [], ["whole"]⟩) 2, .responded echo, .recv echo,
    .response (.ok ⟨200, .http11, [], ["chunk"]⟩) 1, .frame, .responded echo, .exchangeEnded,
    .recv echo, .response (.ok ⟨200, .http11, [], []⟩) 1, .answeredEarly, .responded echo,
    .exchangeEnded, .recv echo]

theorem restedBetween_ready : ∃ q,
    (socketMachine Nat Nat).exec (Sock.new plainSocket "svc") restedBetween = some q ∧
      (q.1.countP sendsNow = 4) ∧ SendsRested q.1 := by
  refine ⟨_, (Option.some_get rfl).symm, rfl,
    (sends_ready_iff (Machine.run_get (init_new _ _) rfl)).1 fun r hm hs => ?_⟩
  have hall : (((socketMachine Nat Nat).exec (Sock.new plainSocket "svc") restedBetween).get
      rfl).1.all (fun r => !sendsNow r || r.pre.conn.takes) = true := rfl
  have hr := List.all_eq_true.1 hall r hm
  rw [hs] at hr
  exact hr

end Client
