import ProsaHyper.Client.Proof.Order

/-!
# The exchanges of an HTTP/2 socket

The task that `spawn_h2` spawns for a request is detached: it goes on when the loop closes or has
returned. `Decision` is what its reply can depend on, `exchangeReply` how.

* `step_traced`: a step of a task adds its decision to those the task was traced by.
* `tasks_answer`: every request taken off the queue is with one task, or answered, and the answer is
  made of the decisions of its own task.
-/

set_option autoImplicit false

namespace Client

open Prosa Http

variable {M Req : Type}

/-! ## Decisions -/

/-- What is decided outside a spawned task: how the adaptor behaves at a call, and the outcome of
`send_request`, `none` if `http_timeout` elapsed first. -/
inductive Decision (M Req : Type)
  | call (adaptor : HyperClientAdaptor M Req)
  | outcome (r : Option (Except HyperError Response))

def TaskEv.decision? : TaskEv M Req → Option (Decision M Req)
  | .start a | .responded a => some (.call a)
  | .response r _ => some (.outcome (some r))
  | .elapsed => some (.outcome none)
  | .frame | .bodyPoll => none

/-- The decision of an event for task `k`. -/
def Ev.decision? (k : Nat) : Ev M Req → Option (Decision M Req)
  | .task k' e => if k' = k then e.decision? else none
  | _ => none

/-- The decisions of a history for task `k`. -/
def decisions (k : Nat) (tr : List (Rec (Sock M) (Ev M Req) (Out M Req))) :
    List (Decision M Req) :=
  tr.filterMap fun r => r.ev.decision? k

/-- The reply to the request `msg` with data `d`, after the decisions for its task. -/
def exchangeReply (targetUrl : Url) (httpTimeout : Nat) (serviceName : String)
    (msg : RequestMsg M) (d : M) : List (Decision M Req) → Option (InternalMsg M)
  | .call a :: ds =>
    match a.processSrvRequest d targetUrl, ds with
    | .error e, _ => some (msg.returnErrorToSender none e)
    | .ok _, .outcome none :: _ =>
      some (msg.returnErrorToSender none (.timeout serviceName httpTimeout))
    | .ok _, .outcome (some r) :: .call a' :: _ =>
      match a'.processHttpResponse r with
      | .ok d' => some (msg.returnToSender d')
      | .error e => some (msg.returnErrorToSender none e)
    | .ok _, _ => none
  | _ => none

/-- A task for the data `d` is where the decisions `ds` have brought it. -/
def Exchange.Traced (x : Exchange M) (targetUrl : Url) (d : M) (ds : List (Decision M Req)) :
    Prop :=
  match x.pc with
  | .start d' => d' = d ∧ ds = []
  | .sending _ => ∃ a req, ds = [.call a] ∧ a.processSrvRequest d targetUrl = .ok req
  | .processing b => ∃ a req, ds = [.call a, .outcome (some b.resp)] ∧
      a.processSrvRequest d targetUrl = .ok req
  | .finished => True

section
variable {x x' : Exchange M} {self : HyperClientSocket} {name : String} {alive : Bool} {d : M}
  {e : TaskEv M Req} {os : List (Out M Req)} {ds : List (Decision M Req)}

theorem exchange_msg (h : x.step self name alive e = some (x', os)) : x'.msg = x.msg := by
  cases taskMoves_of_step h <;> rfl

/-- A task that is finished takes no step. -/
theorem exchange_open (h : x.step self name alive e = some (x', os)) : x.open? = true := by
  cases taskMoves_of_step h <;> simp [Exchange.open?, *]

/-- **A step of a task** adds its decision, and replies what they all say. -/
theorem step_traced (hx : x.Traced self.target.url d ds)
    (h : x.step self name alive e = some (x', os)) :
    x'.Traced self.target.url d (ds ++ e.decision?.toList) ∧
      ∀ site msg a, .replied site msg a ∈ os → msg = x.msg ∧ x'.open? = false ∧
        exchangeReply self.target.url self.httpTimeout name x.msg d (ds ++ e.decision?.toList) =
          some a := by
  unfold Exchange.Traced at hx
  cases taskMoves_of_step h with
  | @sent a d' req hp hreq =>
    rw [hp] at hx
    obtain ⟨rfl, rfl⟩ := hx
    refine ⟨⟨a, req, rfl, hreq⟩, fun site msg b hb => ?_⟩
    simp at hb
  | @refused a d' err hp hreq =>
    rw [hp] at hx
    obtain ⟨rfl, rfl⟩ := hx
    have hrep : exchangeReply self.target.url self.httpTimeout name x.msg d' [.call a] =
        some (x.msg.returnErrorToSender none err) := by
      simp [exchangeReply, hreq]
    refine ⟨?_, fun site msg b hb => ?_⟩
    · exact trivial
    · cases List.mem_singleton.1 hb
      exact ⟨rfl, rfl, hrep⟩
  | @response r n accepted hp hm =>
    rw [hp] at hx
    obtain ⟨a, req, rfl, hreq⟩ := hx
    refine ⟨⟨a, req, rfl, hreq⟩, fun site msg b hb => ?_⟩
    cases r <;> cases List.mem_singleton.1 hb
  | @elapsed accepted hp =>
    rw [hp] at hx
    obtain ⟨a, req, rfl, hreq⟩ := hx
    have hrep : exchangeReply self.target.url self.httpTimeout name x.msg d
        [.call a, .outcome none] =
        some (x.msg.returnErrorToSender none (.timeout name self.httpTimeout)) := by
      simp [exchangeReply, hreq]
    refine ⟨?_, fun site msg b hb => ?_⟩
    · exact trivial
    · cases List.mem_singleton.1 hb
      exact ⟨rfl, rfl, hrep⟩
  | @frame b b' hp hb =>
    rw [hp] at hx
    obtain ⟨a, req, rfl, hreq⟩ := hx
    refine ⟨⟨a, req, ?_, hreq⟩, by simp⟩
    have hresp : b'.deliver.resp = b.resp := (Reading.resp_arrive hb :)
    rw [hresp]
    rfl
  | bodyPoll hp hb =>
    rw [hp] at hx
    obtain ⟨a, req, rfl, hreq⟩ := hx
    refine ⟨⟨a, req, ?_, hreq⟩, by simp⟩
    rw [Reading.resp_poll hb]
    rfl
  | @responded a' b hp =>
    rw [hp] at hx
    obtain ⟨a, req, rfl, hreq⟩ := hx
    have hrep : ∀ site msg c, (.replied site msg c : Out M Req) =
        answerReply x.msg (a'.processHttpResponse b.resp) → msg = x.msg ∧
        exchangeReply self.target.url self.httpTimeout name x.msg d
          [.call a, .outcome (some b.resp), .call a'] = some c := by
      intro site msg c hc
      simp only [exchangeReply, hreq]
      cases hr : a'.processHttpResponse b.resp <;> rw [hr] at hc <;> cases hc <;> exact ⟨rfl, rfl⟩
    refine ⟨?_, fun site msg c hc => ?_⟩
    · exact trivial
    · obtain ⟨hmsg, hrep⟩ := hrep site msg c (List.mem_singleton.1 hc)
      exact ⟨hmsg, rfl, hrep⟩

end

/-! ## One owner -/

section
variable {s s' : Sock M} {e : Ev M Req} {os : List (Out M Req)}

/-- The socket gives each request to a task: it runs `spawn_h2`, or is not connected yet. -/
def Sock.spawns (s : Sock M) : Prop := s.proto = .h2 ∨ s.pc = .connect

theorem step_spawns (h : s.step e = some (s', os)) (hs : s'.spawns) : s.spawns := by
  cases moves_of_step h with
  | connectedH2 hp | connectedHttp1 hp _ => exact .inr hp
  | send | dropSenders | ioDropped | connPending | exchangeEnded | answeredEarly | task => exact hs
  | drainRequest | drainOther => exact hs
  | _ =>
    rcases hs with hs | hs
    · exact .inl hs
    · cases hs

/-- What is refused by the loop or the drain, without a task. -/
@[simp] def refusedOf (id : Nat) : Out M Req → Nat
  | .replied .noData msg _ | .replied .drain msg _ => hit id msg
  | _ => 0

/-- The tasks spawned for the request `id`. -/
def spawned (s : Sock M) (id : Nat) : Nat := tally (fun x => hit id x.msg) s.tasks

theorem exchange_refused (id : Nat) {x x' : Exchange M} {self : HyperClientSocket} {name : String}
    {alive : Bool} {te : TaskEv M Req} (h : x.step self name alive te = some (x', os)) :
    tally (refusedOf id) os = 0 := by
  refine tally_eq_zero.2 fun o ho => ?_
  cases mem_exchange h ho with
  | @responded _ _ r _ _ he => subst he; cases r <;> rfl
  | _ => rfl

/-- A request taken off the queue gets a task of its own or is refused at once. -/
theorem step_owners (id : Nat) (h : s.step e = some (s', os)) (hs : s'.spawns) :
    spawned s' id + tally (refusedOf id) os = spawned s id + tally (takenOf id) os := by
  cases moves_of_step h with
  | recvSend _ hpr | recvRefuse _ hpr => rcases hs with hs | hs <;> simp_all
  | recvSpawn => simp [spawned]
  | recvNoData | drainRequest => simp [spawned]
  | @response _ r => cases r <;> simp [spawned, recordOut]
  | @responded a _ b => cases a.processHttpResponse b.resp <;> simp [spawned, answerReply]
  | @task _ _ x x' _ hx hst =>
    have hset := tally_set (f := fun x : Exchange M => hit id x.msg) hx x'
    simp only [exchange_msg hst, Nat.add_right_cancel_iff] at hset
    simp only [spawned, hset, exchange_refused id hst, (exchange_balanced id hst).2.2.1]
  | _ => simp [spawned, Sock.leave]

/-- The loop of `spawn_h2` holds no message between two steps. -/
theorem step_hand_none (h : s.step e = some (s', os)) (hs : s'.spawns) (hh : s.pc.hand = none) :
    s'.pc.hand = none := by
  cases moves_of_step h with
  | recvSend _ hpr => rcases hs with hs | hs <;> simp_all
  | send | dropSenders | ioDropped | connPending | exchangeEnded | answeredEarly | task => exact hh
  | connErr => exact hh
  | drainRequest | drainOther => exact hh
  | _ => simp_all [Sock.leave]

theorem step_drops_nothing (id : Nat) (h : s.step e = some (s', os)) (hh : s.pc.hand = none) :
    tally (droppedOf id) os = 0 := by
  refine tally_eq_zero.2 fun o ho => ?_
  cases mem_step h ho with
  | dropped hm => simp [hh] at hm
  | @responded _ _ _ r _ _ _ he => subst he; cases r <;> rfl
  | task _ ht =>
    cases ht with
    | @responded _ _ r _ _ he => subst he; cases r <;> rfl
    | _ => rfl
  | _ => rfl

end

section
variable {s : Sock M} {tr : List (Rec (Sock M) (Ev M Req) (Out M Req))}
  (hr : (socketMachine M Req).Run tr s) (hs : s.spawns)
include hr hs

theorem hand_none_of_run : s.pc.hand = none := by
  induction hr with
  | start hi =>
    obtain ⟨self, name, rfl⟩ := hi
    rfl
  | next _ hst ih => exact step_hand_none hst hs (ih (step_spawns hst hs))

theorem owners_of_run (id : Nat) :
    spawned s id + tally (refusedOf id) (outs tr) = tally (takenOf id) (outs tr) := by
  induction hr with
  | start hi =>
    obtain ⟨self, name, rfl⟩ := hi
    rfl
  | next _ hst ih =>
    have hrec := ih (step_spawns hst hs)
    have hstep := step_owners id hst hs
    simp only [outs_append, outs_single, tally_append]
    omega

theorem kept_of_run (id : Nat) : tally (droppedOf id) (outs tr) = 0 := by
  induction hr with
  | start => rfl
  | next hr hst ih =>
    have hpre := step_spawns hst hs
    simp only [outs_append, outs_single, tally_append, ih hpre,
      step_drops_nothing id hst (hand_none_of_run hr hpre)]

/-- What the tasks hold is what was taken and not replied to. -/
theorem holds_of_run (id : Nat) : tally (Exchange.holds id) s.tasks +
    tally (repliedOf id) (outs tr) = tally (takenOf id) (outs tr) := by
  have hbal := (handCustody M Req).balance hr id
  have hkept := kept_of_run hr hs id
  simp only [handCustody, held, inHand, hand_none_of_run hr hs] at hbal
  simp only [Option.toList_none, tally_nil] at hbal
  omega

/-- No two tasks were spawned for one request. -/
theorem spawned_le (id : Nat) : spawned s id ≤ 1 := by
  have howners := owners_of_run hr hs id
  have htaken := taken_le hr id
  omega

theorem task_unique {id j k : Nat} {x y : Exchange M} (hx : s.tasks[j]? = some x)
    (hy : s.tasks[k]? = some y) (hxid : x.msg.id = id) (hyid : y.msg.id = id) : j = k :=
  eq_of_tally_le_one (spawned_le hr hs id) hx hy (hit_pos.2 hxid) (hit_pos.2 hyid)

/-- A request that was taken is answered, or one task works on it. -/
theorem owned_of_run {id : Nat} (hid : 0 < tally (takenOf id) (outs tr)) :
    (tally (repliedOf id) (outs tr) = 1 ∧ ∀ x ∈ s.tasks, x.msg.id = id → x.open? = false) ∨
    (tally (repliedOf id) (outs tr) = 0 ∧
      ∃! k : Nat, ∃ x, s.tasks[k]? = some x ∧ x.msg.id = id ∧ x.open? = true) := by
  have hsum := holds_of_run hr hs id
  have htaken := taken_le hr id
  rcases Nat.eq_zero_or_pos (tally (Exchange.holds id) s.tasks) with hz | hpos
  · refine .inl ⟨by omega, fun x hx hxid => ?_⟩
    by_contra ho
    have hnone := tally_eq_zero.1 hz x hx
    have hone := holds_pos.2 ⟨by simpa using ho, hxid⟩
    omega
  · refine .inr ⟨by omega, ?_⟩
    obtain ⟨x, hx, hpos⟩ := tally_pos_iff.1 hpos
    obtain ⟨k, hk⟩ := List.getElem?_of_mem hx
    obtain ⟨hxo, hxid⟩ := holds_pos.1 hpos
    refine ⟨k, ⟨x, hk, hxid, hxo⟩, fun j hj => ?_⟩
    obtain ⟨y, hy, hyid, -⟩ := hj
    exact task_unique hr hs hy hk hyid hxid

/-- A task that is finished has answered its request. -/
theorem answered_of_finished {x : Exchange M} (hx : x ∈ s.tasks) (ho : x.open? = false) :
    tally (repliedOf x.msg.id) (outs tr) = 1 := by
  obtain ⟨k, hk⟩ := List.getElem?_of_mem hx
  have howners := owners_of_run hr hs x.msg.id
  have hmine : hit x.msg.id x.msg ≤ spawned s x.msg.id :=
    le_tally (f := fun x : Exchange M => hit _ x.msg) hx
  have htaken : 0 < tally (takenOf x.msg.id) (outs tr) := by
    rw [hit_self] at hmine
    omega
  rcases owned_of_run hr hs htaken with ⟨hone, -⟩ | ⟨-, j, hj, -⟩
  · exact hone
  · obtain ⟨y, hy, hyid, hyo⟩ := hj
    cases task_unique hr hs hy hk hyid rfl
    cases hy.symm.trans hk
    rw [ho] at hyo
    cases hyo

/-- A request refused by the loop or the drain has no task. -/
theorem unspawned_of_refused {id : Nat} (hrefused : 0 < tally (refusedOf id) (outs tr)) :
    ∀ x ∈ s.tasks, x.msg.id ≠ id := by
  intro x hx hid
  have howners := owners_of_run hr hs id
  have htaken := taken_le hr id
  have hmine : hit id x.msg ≤ spawned s id :=
    le_tally (f := fun x : Exchange M => hit _ x.msg) hx
  have hpos := hit_pos.2 hid
  omega

end

/-! ## Own decisions -/

section
variable {s s' : Sock M} {e : Ev M Req} {os : List (Out M Req)}
  {tr : List (Rec (Sock M) (Ev M Req) (Out M Req))}

@[simp] theorem decisions_concat (k : Nat) (r : Rec (Sock M) (Ev M Req) (Out M Req)) :
    decisions k (tr ++ [r]) = decisions k tr ++ (r.ev.decision? k).toList := by
  simp only [decisions, List.filterMap_append, List.filterMap_cons, List.filterMap_nil]
  cases r.ev.decision? k <;> rfl

/-- A step of a task, one that spawns a task, or one that leaves the tasks alone. -/
theorem step_tasks (h : s.step e = some (s', os)) :
    (∃ k te x x', e = .task k te ∧ s.tasks[k]? = some x ∧
      x.step s.self s.serviceName s.conn.completed.isNone te = some (x', os) ∧
      s'.tasks = s.tasks.set k x') ∨
    (∀ k, e.decision? k = none) ∧ (s'.tasks = s.tasks ∨ ∃ r d, .received r ∈ os ∧
      r.data = some d ∧ s'.tasks = s.tasks ++ [⟨r.takeData.2, .start d⟩]) := by
  cases moves_of_step h with
  | task hx hst => exact .inl ⟨_, _, _, _, rfl, hx, hst, rfl⟩
  | @recvSpawn _ _ r d _ _ _ _ hd =>
    exact .inr ⟨fun _ => rfl, .inr ⟨r, d, List.mem_singleton.2 rfl, hd, rfl⟩⟩
  | _ => exact .inr ⟨fun _ => rfl, .inl rfl⟩

/-- Nothing was decided for a task that does not exist. -/
theorem decisions_nil (hr : (socketMachine M Req).Run tr s) {k : Nat} (hk : s.tasks.length ≤ k) :
    decisions k tr = [] := by
  induction hr with
  | start => rfl
  | @next tr s s' e os _ hst ih =>
    rw [decisions_concat]
    obtain ⟨j, te, x, x', rfl, hx, -, ht⟩ | ⟨hd, ht⟩ := step_tasks hst
    · rw [ht, List.length_set] at hk
      have hj : j < s.tasks.length := (List.getElem?_eq_some_iff.1 hx).1
      rw [ih hk, Ev.decision?, if_neg (by omega)]
      rfl
    · have hle : s.tasks.length ≤ k := by
        rcases ht with ht | ⟨r, d, -, -, ht⟩ <;> rw [ht] at hk
        · exact hk
        · rw [List.length_append] at hk
          omega
      rw [ih hle, hd]
      rfl

/-- Task `k` is `x`: it works on a request with data `d` that the loop took off the queue, and is
where its own decisions have brought it. -/
structure Serving (tr : List (Rec (Sock M) (Ev M Req) (Out M Req))) (s : Sock M) (k : Nat)
    (x : Exchange M) (d : M) : Prop where
  here : s.tasks[k]? = some x
  source : ∃ r, .received r ∈ outs tr ∧ r.data = some d ∧ x.msg = r.takeData.2
  traced : x.Traced s.self.target.url d (decisions k tr)

/-- A step of another task, or of none, leaves a task alone. -/
theorem Serving.keep {k : Nat} {x : Exchange M} {d : M} (hx : Serving tr s k x d)
    (h : s.step e = some (s', os)) (hd : e.decision? k = none) (ht : s'.tasks[k]? = some x) :
    Serving (tr ++ [⟨s, e, os, s'⟩]) s' k x d := by
  obtain ⟨r, hr, hdata, hmsg⟩ := hx.source
  refine ⟨ht, ⟨r, ?_, hdata, hmsg⟩, ?_⟩
  · rw [outs_append]
    exact List.mem_append_left _ hr
  · rw [decisions_concat, hd, step_target h, Option.toList_none, List.append_nil]
    exact hx.traced

theorem serving_of_run (hr : (socketMachine M Req).Run tr s) {k : Nat} {x : Exchange M}
    (hx : s.tasks[k]? = some x) : ∃ d, Serving tr s k x d := by
  induction hr generalizing k x with
  | start hi =>
    obtain ⟨self, name, rfl⟩ := hi
    cases hx
  | @next tr s s' e os hr hst ih =>
    have hst : s.step e = some (s', os) := hst
    obtain ⟨j, te, y, y', rfl, hy, hyst, ht⟩ | ⟨hd, ht⟩ := step_tasks hst
    · obtain ⟨d, hserve⟩ := ih hy
      by_cases hk : j = k
      · subst hk
        rw [ht, getElem?_set_self_some hy] at hx
        cases hx
        obtain ⟨r, hrec, hdata, hmsg⟩ := hserve.source
        refine ⟨d, ?_, ⟨r, ?_, hdata, (exchange_msg hyst).trans hmsg⟩, ?_⟩
        · rw [ht, getElem?_set_self_some hy]
        · rw [outs_append]
          exact List.mem_append_left _ hrec
        · rw [decisions_concat, step_target hst, Ev.decision?, if_pos rfl]
          exact (step_traced hserve.traced hyst).1
      · have hx' : s.tasks[k]? = some x := by rwa [ht, List.getElem?_set_ne hk] at hx
        obtain ⟨d', hserve'⟩ := ih hx'
        exact ⟨d', hserve'.keep hst (by rw [Ev.decision?, if_neg hk]) hx⟩
    · rcases ht with ht | ⟨r, d, hrec, hdata, ht⟩
      · rw [ht] at hx
        obtain ⟨d, hserve⟩ := ih hx
        exact ⟨d, hserve.keep hst (hd k) (ht ▸ hx)⟩
      · rcases Nat.lt_or_ge k s.tasks.length with hk | hk
        · have hx' : s.tasks[k]? = some x := by rwa [ht, List.getElem?_append_left hk] at hx
          obtain ⟨d', hserve⟩ := ih hx'
          exact ⟨d', hserve.keep hst (hd k) hx⟩
        · -- the task just spawned
          have hnew : s'.tasks[k]? = some x := hx
          rw [ht, List.getElem?_append_right hk, List.getElem?_singleton] at hx
          split at hx
          · cases hx
            refine ⟨d, hnew, ⟨r, ?_, hdata, rfl⟩, ?_⟩
            · rw [outs_append, outs_single]
              exact List.mem_append_right _ hrec
            · rw [decisions_concat, decisions_nil hr hk, hd k]
              exact ⟨rfl, rfl⟩
          · cases hx

/-- A finished task takes no step. -/
theorem finished_stays {k : Nat} {x : Exchange M} (h : s.step e = some (s', os))
    (hx : s.tasks[k]? = some x) (ho : x.open? = false) :
    e.decision? k = none ∧ s'.tasks[k]? = some x := by
  obtain ⟨j, te, y, y', rfl, hy, hst, ht⟩ | ⟨hd, ht⟩ := step_tasks h
  · have hk : j ≠ k := by
      rintro rfl
      cases hy.symm.trans hx
      rw [exchange_open hst] at ho
      cases ho
    rw [Ev.decision?, if_neg hk, ht, List.getElem?_set_ne hk]
    exact ⟨rfl, hx⟩
  · refine ⟨hd k, ?_⟩
    rcases ht with ht | ⟨r, d, -, -, ht⟩ <;> rw [ht]
    · exact hx
    · rw [List.getElem?_append_left (List.getElem?_eq_some_iff.1 hx).1]
      exact hx

/-- A reply comes from the loop or the drain, without a task, or is made of the decisions of a task
that is finished. -/
theorem replied_of_run (hr : (socketMachine M Req).Run tr s) (hs : s.spawns) {site : Site}
    {msg : RequestMsg M} {a : InternalMsg M} (ho : .replied site msg a ∈ outs tr) :
    ((site = .noData ∨ site = .drain) ∧
      a = msg.returnErrorToSender none (.unableToReachService s.serviceName)) ∨
    ∃ k x d, Serving tr s k x d ∧ msg = x.msg ∧ x.open? = false ∧
      exchangeReply s.self.target.url s.self.httpTimeout s.serviceName x.msg d (decisions k tr) =
        some a := by
  induction hr with
  | start => cases ho
  | @next tr s s' e os hr hst ih =>
    have hst : s.step e = some (s', os) := hst
    have hpre := step_spawns hst hs
    have hh := hand_none_of_run hr hpre
    rw [(step_names hst).1, (step_names hst).2, step_target hst]
    rw [outs_append, outs_single, List.mem_append] at ho
    rcases ho with ho | ho
    · obtain hrefused | ⟨k, x, d, hserve, hmsg, hopen, hrep⟩ := ih hpre ho
      · exact .inl hrefused
      · obtain ⟨hdec, hhere⟩ := finished_stays hst hserve.here hopen
        refine .inr ⟨k, x, d, hserve.keep hst hdec hhere, hmsg, hopen, ?_⟩
        rw [decisions_concat, hdec]
        simpa using hrep
    · cases mem_step hst ho with
      | refused hp hpr => rcases hpre with h | h <;> simp_all
      | noData => exact .inl ⟨.inl rfl, rfl⟩
      | drainReply => exact .inl ⟨.inr rfl, rfl⟩
      | timedOut hp => simp [hp] at hh
      | responded hp => simp [hp] at hh
      | @task k te =>
        have hown : (Ev.task k te : Ev M Req).decision? k = te.decision? := if_pos rfl
        cases moves_of_step hst with
        | @task _ _ x x' _ hx hxst =>
          obtain ⟨d, hserve⟩ := serving_of_run hr hx
          obtain ⟨htraced, hrep⟩ := step_traced hserve.traced hxst
          obtain ⟨hmsg, hopen, hrep⟩ := hrep _ _ _ ho
          have hx' : x'.msg = x.msg := exchange_msg hxst
          obtain ⟨r, hrec, hdata, hsrc⟩ := hserve.source
          refine .inr ⟨k, x', d, ⟨?_, ⟨r, ?_, hdata, hx'.trans hsrc⟩, ?_⟩, hmsg.trans hx'.symm,
            hopen, ?_⟩
          · exact getElem?_set_self_some hx _
          · rw [outs_append]
            exact List.mem_append_left _ hrec
          · rw [decisions_concat, hown]
            exact htraced
          · rw [decisions_concat, hown, hx']
            exact hrep

end

/-! ## Runs -/

section
variable {s : Sock M}

/-- Steps of two tasks can be taken in either order, with the same outputs and the same result. -/
theorem tasks_commute {j k : Nat} (hne : j ≠ k) {e e' : TaskEv M Req} {s₁ s₂ : Sock M}
    {os os' : List (Out M Req)} (h₁ : s.step (.task j e) = some (s₁, os))
    (h₂ : s₁.step (.task k e') = some (s₂, os')) :
    ∃ s₃, s.step (.task k e') = some (s₃, os') ∧ s₃.step (.task j e) = some (s₂, os) := by
  cases moves_of_step h₁ with
  | @task _ _ x x' _ hx hst =>
    cases moves_of_step h₂ with
    | @task _ _ y y' _ hy hst' =>
      simp only [List.getElem?_set_ne hne] at hy
      refine ⟨{ s with tasks := s.tasks.set k y' }, ?_, ?_⟩
      · simp [Sock.step, Sock.onTask, hy, hst']
      · simp [Sock.step, Sock.onTask, List.getElem?_set_ne (Ne.symm hne), hx, hst,
          List.set_comm _ _ hne]

/-- The adaptor that a step of a task calls. -/
@[simp] def TaskEv.adaptor? : TaskEv M Req → Option (HyperClientAdaptor M Req)
  | .start a | .responded a => some a
  | _ => none

/-- A step of task `k`, which calls no adaptor but `a`. -/
def OfTask (k : Nat) (a : HyperClientAdaptor M Req) (e : Ev M Req) : Prop :=
  ∃ te, e = .task k te ∧ ∀ a', te.adaptor? = some a' → a' = a

theorem leads_task {a : HyperClientAdaptor M Req} {k : Nat} {x x' : Exchange M}
    {te : TaskEv M Req} {os : List (Out M Req)} (hx : s.tasks[k]? = some x)
    (h : x.step s.self s.serviceName s.conn.completed.isNone te = some (x', os))
    (ha : ∀ a', te.adaptor? = some a' → a' = a) :
    (socketMachine M Req).Leads (OfTask k a) s { s with tasks := s.tasks.set k x' } ∧
      (s.tasks.set k x')[k]? = some x' := by
  have hst : (socketMachine M Req).step s (.task k te) =
      some ({ s with tasks := s.tasks.set k x' }, os) := by
    simp [socketMachine, Sock.step, Sock.onTask, hx, h]
  exact ⟨.step hst ⟨te, rfl, ha⟩, getElem?_set_self_some hx _⟩

/-- A task finishes by its own steps, however the adaptor behaves. -/
theorem task_finishes (a : HyperClientAdaptor M Req) {k : Nat} {x : Exchange M}
    (hx : s.tasks[k]? = some x) (ho : x.open? = true) :
    ∃ t y, (socketMachine M Req).Leads (OfTask k a) s t ∧ t.tasks[k]? = some y ∧
      y.open? = false := by
  have finish : ∀ {y : Exchange M} {s' : Sock M} (te : TaskEv M Req),
      (socketMachine M Req).Leads (OfTask k a) s s' → s'.tasks[k]? = some y →
      (y.step s'.self s'.serviceName s'.conn.completed.isNone te).any (fun q => !q.1.open?) →
      (∀ a', te.adaptor? = some a' → a' = a) →
      ∃ t y, (socketMachine M Req).Leads (OfTask k a) s t ∧ t.tasks[k]? = some y ∧
        y.open? = false := by
    intro y s' te hl hy hst ha
    obtain ⟨q, hq, hopen⟩ := (Option.any_eq_true _ _).1 hst
    obtain ⟨hl', hy'⟩ := leads_task hy hq ha
    exact ⟨_, _, hl.trans hl', hy', by simpa using hopen⟩
  cases hp : x.pc with
  | start d =>
    cases hreq : a.processSrvRequest d s.self.target.url with
    | error err =>
      exact finish (.start a) (.refl s) hx (by simp [Exchange.step, hp, hreq, Exchange.open?])
        (by simp [eq_comm])
    | ok req =>
      have hst : x.step s.self s.serviceName s.conn.completed.isNone (.start a) =
          some ({ x with pc := .sending s.conn.completed.isNone }, [.sendRequest x.msg req]) := by
        simp [Exchange.step, hp, hreq]
      obtain ⟨hl, hx'⟩ := leads_task (a := a) hx hst (by simp [eq_comm])
      exact finish .elapsed hl hx' rfl (by simp)
  | sending accepted =>
    exact finish .elapsed (.refl s) hx (by simp [Exchange.step, hp, Exchange.open?])
      (by simp)
  | processing b =>
    exact finish (.responded a) (.refl s) hx (by simp [Exchange.step, hp, Exchange.open?])
      (by simp [eq_comm])
  | finished => simp [Exchange.open?, hp] at ho

/-- What every run of an HTTP/2 socket keeps. A request taken off the queue is answered and no task
works on it, or it is not answered and one task does. A task that is finished has answered its
request, whether or not the loop is over. A reply that is not a refusal of the loop or the drain is
made of the decisions of the task of its request, so not of what the others did. -/
structure TasksAnswer (tr : List (Rec (Sock M) (Ev M Req) (Out M Req))) (s : Sock M) : Prop where
  hand : s.pc.hand = none
  owned : ∀ id, 0 < tally (takenOf id) (outs tr) →
    (tally (repliedOf id) (outs tr) = 1 ∧ ∀ x ∈ s.tasks, x.msg.id = id → x.open? = false) ∨
    (tally (repliedOf id) (outs tr) = 0 ∧
      ∃! k : Nat, ∃ x,  s.tasks[k]? = some x ∧ x.msg.id = id ∧ x.open? = true)
  finished : ∀ x ∈ s.tasks, x.open? = false → tally (repliedOf x.msg.id) (outs tr) = 1
  replied : ∀ site msg a, .replied site msg a ∈ outs tr →
    ((site = .noData ∨ site = .drain) ∧ (∀ x ∈ s.tasks, x.msg.id ≠ msg.id) ∧
      a = msg.returnErrorToSender none (.unableToReachService s.serviceName)) ∨
    ∃ k x d, Serving tr s k x d ∧ msg = x.msg ∧ x.open? = false ∧
      exchangeReply s.self.target.url s.self.httpTimeout s.serviceName x.msg d (decisions k tr) =
        some a
  commute : ∀ j k (e e' : TaskEv M Req) s₁ s₂ os os', j ≠ k → s.step (.task j e) = some (s₁, os) →
    s₁.step (.task k e') = some (s₂, os') →
    ∃ s₃, s.step (.task k e') = some (s₃, os') ∧ s₃.step (.task j e) = some (s₂, os)
  finishes : ∀ (a : HyperClientAdaptor M Req) k x, s.tasks[k]? = some x → x.open? = true →
    ∃ t y, (socketMachine M Req).Leads (OfTask k a) s t ∧ t.tasks[k]? = some y ∧ y.open? = false

/-- **One reply per request over HTTP/2.** -/
theorem tasks_answer {tr : List (Rec (Sock M) (Ev M Req) (Out M Req))}
    (hr : (socketMachine M Req).Run tr s) (hproto : s.proto = .h2) : TasksAnswer tr s := by
  have hs : s.spawns := .inl hproto
  refine ⟨hand_none_of_run hr hs, fun id hid => owned_of_run hr hs hid,
    fun x hx ho => answered_of_finished hr hs hx ho, fun site msg a ho => ?_,
    fun j k e e' s₁ s₂ os os' hne h₁ h₂ => tasks_commute hne h₁ h₂,
    fun a k x hx ho => task_finishes a hx ho⟩
  obtain ⟨hsite, ha⟩ | htask := replied_of_run hr hs ho
  · refine .inl ⟨hsite, unspawned_of_refused hr hs (Nat.lt_of_lt_of_le ?_ (le_tally ho)), ha⟩
    rcases hsite with rfl | rfl <;> simp
  · exact .inr htask

end

/-- Two tasks are spawned and finish after the connection failed and the loop returned, the later
one first. -/
def outlivesLoop : List (Ev Nat Nat) :=
  registeredH2 ++ [.send (.request ⟨7, "svc", some 1, 0⟩),
    .send (.request ⟨8, "svc", some 2, 0⟩), .recv echo, .task 0 (.start echo), .recv echo,
    .task 1 (.start echo), .connection (some (.error (.other "connection reset"))),
    .procQueueRemoved true, .tryRecv, .returned, .task 1 .elapsed,
    .task 0 (.response (.error (.other "connection reset")) 0), .task 0 (.responded echo)]

theorem outlivesLoop_answers : ∃ q,
    (socketMachine Nat Nat).exec (Sock.new plainSocket "svc") outlivesLoop = some q ∧
      tally (repliedOf 7) (outs q.1) = 1 ∧ tally (repliedOf 8) (outs q.1) = 1 ∧
      TasksAnswer q.1 q.2 :=
  ⟨_, (Option.some_get rfl).symm, rfl, rfl,
    tasks_answer (Machine.run_get (init_new _ _) rfl) rfl⟩

end Client
