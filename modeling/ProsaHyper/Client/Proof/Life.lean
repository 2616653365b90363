import ProsaHyper.Lib.Protocol
import ProsaHyper.Client.Proof.Books
import ProsaHyper.Client.Proof.Timers

/-!
# The life of a request

`requestProtocol` says what can happen to a request and in which order: it is accepted by a queue,
and taken by the loop, by the drain, or along with the queue; the loop sends it or refuses it; and
what was sent is answered, or lost with the task. Every socket takes its requests through this
protocol, and so does the processor, over all its sockets and respawns.

* `stage`: where a request is, read off the state of a socket.
* `step_stage`: what a step shows of a request takes it from its stage before to its stage after.
* `requests_follow`: the same over every run of the processor.
-/

set_option autoImplicit false

namespace Client

open Prosa Http

variable {M Req : Type}

/-- What happens to a request. -/
inductive Act
  | accepted
  | received
  | drained
  | sent
  | replied (site : Site)
  | dropped
  | discarded
  deriving DecidableEq, Repr

/-- Where a request is. `taken`: by the loop, and not sent yet; `over`: it was answered or lost. -/
inductive Stage
  | fresh
  | queued
  | taken
  | draining
  | sent
  | over
  deriving DecidableEq, Repr

/-- The order in which things happen to a request. -/
def requestProtocol : Protocol Stage Act where
  start := .fresh
  act
    | .fresh, .accepted => some .queued
    | .queued, .received => some .taken
    | .queued, .drained => some .draining
    | .queued, .discarded => some .over
    | .taken, .sent => some .sent
    | .taken, .replied .noData => some .over
    | .taken, .replied .srvRequestErr => some .over
    | .draining, .replied .drain => some .over
    | .sent, .replied .response => some .over
    | .sent, .replied .responseErr => some .over
    | .sent, .replied .timeout => some .over
    | .sent, .dropped => some .over
    | _, _ => none

/-- What an output says about the request `id`. -/
def Out.act? (id : Nat) : Out M Req → Option Act
  | .accepted (.request msg) => if msg.id = id then some .accepted else none
  | .received msg => if msg.id = id then some .received else none
  | .drained msg => if msg.id = id then some .drained else none
  | .sendRequest msg _ => if msg.id = id then some .sent else none
  | .replied site msg _ => if msg.id = id then some (.replied site) else none
  | .dropped msg => if msg.id = id then some .dropped else none
  | .discarded msg => if msg.id = id then some .discarded else none
  | _ => none

/-- What the outputs `os` say about the request `id`, in order. -/
def acts (id : Nat) (os : List (Out M Req)) : List Act := os.filterMap (Out.act? id)

/-- Where a request is that was accepted `n` times, and is queued `q` times, held by the task `h`
times, of which `u` times unsent. -/
def stageOf (n q h u : Nat) : Stage :=
  if n = 0 then .fresh
  else if 0 < q then .queued
  else if 0 < u then .taken
  else if 0 < h then .sent
  else .over

/-- Where the request `id` is. -/
def stage (s : Sock M) (id : Nat) : Stage :=
  stageOf (s.used.count id) (queued s id) (held s id) (unsent s id)

/-- What a step can show of one request. -/
inductive Deeds : List Act → Prop
  | none : Deeds []
  | accepted : Deeds [.accepted]
  | received : Deeds [.received]
  | receivedSent : Deeds [.received, .sent]
  | receivedRefused {site : Site} : site = .noData ∨ site = .srvRequestErr →
      Deeds [.received, .replied site]
  | sent : Deeds [.sent]
  | refused : Deeds [.replied .srvRequestErr]
  | answered {site : Site} : site = .response ∨ site = .responseErr ∨ site = .timeout →
      Deeds [.replied site]
  | drained : Deeds [.drained, .replied .drain]
  | dropped : Deeds [.dropped]
  | discarded : Deeds [.discarded]

section
variable {s s' : Sock M} {e : Ev M Req} {os : List (Out M Req)} {id : Nat}

@[simp] theorem acts_nil : acts id ([] : List (Out M Req)) = [] := rfl

theorem acts_append (os os' : List (Out M Req)) : acts id (os ++ os') = acts id os ++ acts id os' :=
  List.filterMap_append

theorem acts_cons_of_none {o : Out M Req} (h : o.act? id = none) :
    acts id (o :: os) = acts id os :=
  List.filterMap_cons_none h

theorem acts_repolls : acts id (s.repolls : List (Out M Req)) = [] := by
  unfold Sock.repolls
  split <;> rfl

/-- `o` shows `a` of the request in `msg`. -/
def Shows (id : Nat) (msg : RequestMsg M) (o : Out M Req) (a : Act) : Prop :=
  o.act? id = if msg.id = id then some a else none

theorem acts_single {msg : RequestMsg M} {o : Out M Req} {a : Act} (h : Shows id msg o a) :
    acts id [o] = if msg.id = id then [a] else [] := by
  rw [Shows] at h
  split at h <;> rename_i hid <;> simp [acts, h, hid]

theorem acts_map {f : RequestMsg M → Out M Req} {a : Act} (h : ∀ msg, Shows id msg (f msg) a)
    (msgs : List (RequestMsg M)) :
    acts id (msgs.map f) = List.replicate (tally (hit id) msgs) a := by
  induction msgs with
  | nil => rfl
  | cons msg msgs ih =>
    rw [List.map_cons, ← List.singleton_append, acts_append, acts_single (h msg), ih, tally_cons,
      hit]
    split
    · rw [Nat.add_comm, List.replicate_succ]
      rfl
    · rw [Nat.zero_add]
      rfl

theorem Deeds.single {msg : RequestMsg M} {o : Out M Req} {a : Act} (h : Shows id msg o a)
    (ha : Deeds [a]) : Deeds (acts id [o]) := by
  rw [acts_single h]
  split
  · exact ha
  · exact .none

theorem Deeds.pair {msg : RequestMsg M} {o o' : Out M Req} {a a' : Act} (h : Shows id msg o a)
    (h' : Shows id msg o' a') (ha : Deeds [a, a']) : Deeds (acts id [o, o']) := by
  rw [← List.singleton_append, acts_append, acts_single h, acts_single h']
  split
  · exact ha
  · exact .none

/-- What the end of a task shows of a request it still has. -/
theorem deeds_drops (hle : queued s id + held s id ≤ 1) :
    Deeds (acts id (s.drops : List (Out M Req))) := by
  have hacts : acts id (s.drops : List (Out M Req)) =
      List.replicate (inHand s.pc id) .dropped ++ List.replicate (queued s id) .discarded := by
    rw [Sock.drops, acts_append, acts_map (f := .dropped) fun _ => rfl,
      acts_map (f := .discarded) fun _ => rfl, tally_requests]
    rfl
  have hhand : queued s id + inHand s.pc id ≤ 1 := by
    rw [held] at hle
    omega
  rw [hacts]
  generalize queued s id = q at hhand
  generalize inHand s.pc id = n at hhand
  obtain ⟨rfl, rfl⟩ | ⟨rfl, rfl⟩ | ⟨rfl, rfl⟩ : q = 0 ∧ n = 0 ∨ q = 1 ∧ n = 0 ∨ q = 0 ∧ n = 1 := by
    omega
  · exact .none
  · exact .discarded
  · exact .dropped

theorem deeds_answer (msg : RequestMsg M) (r : Except ServiceError M) :
    Deeds (acts id [(answerReply msg r : Out M Req)]) := by
  cases r with
  | ok => exact .single rfl (.answered (.inl rfl))
  | error => exact .single rfl (.answered (.inr (.inl rfl)))

theorem acts_record (r : Except HyperError Response) (version : String) :
    acts id [(recordOut r version : Out M Req)] = [] := by
  cases r <;> rfl

/-- A spawned task. -/
theorem deeds_exchange {x x' : Exchange M} {self : HyperClientSocket} {name : String} {alive : Bool}
    {te : TaskEv M Req} (h : x.step self name alive te = some (x', os)) : Deeds (acts id os) := by
  cases taskMoves_of_step h with
  | sent => exact .single rfl .sent
  | refused => exact .single rfl .refused
  | response => rw [acts_record]; exact .none
  | elapsed => exact .single rfl (.answered (.inr (.inr rfl)))
  | frame | bodyPoll => exact .none
  | responded => exact deeds_answer _ _

/-- **What a step shows of one request.** -/
theorem deeds_of_step (hle : queued s id + held s id ≤ 1) (h : s.step e = some (s', os)) :
    Deeds (acts id os) := by
  cases moves_of_step h with
  | @send m =>
    cases m with
    | request msg => exact .single rfl .accepted
    | _ => exact .none
  | connPending | connErr | connOkIdle | connOkInFlight => rw [acts_repolls]; exact .none
  | connOkPanic =>
    rw [acts_append, acts_repolls]
    exact deeds_drops hle
  | connectFailed | handshakeFailed | procQueueFailed | serviceFailed | recvClosedPanic
  | removeFailed | returned | aborted => exact deeds_drops hle
  | recvSend => exact .pair rfl rfl .receivedSent
  | recvSpawn => exact .single rfl .received
  | recvRefuse => exact .pair rfl rfl (.receivedRefused (.inr rfl))
  | recvNoData => exact .pair rfl rfl (.receivedRefused (.inl rfl))
  | @recvPanic _ _ m q hp hq =>
    have hbuf : queued s id = msgHit id m + queuedIn id q.buf := queuedIn_recv id hq
    have hq : queuedIn id q.buf + held s id ≤ 1 := by omega
    exact deeds_drops (s := { s with rxQueue := q }) hq
  | response => rw [acts_record]; exact .none
  | elapsed => exact .single rfl (.answered (.inr (.inr rfl)))
  | responded => exact deeds_answer _ _
  | drainRequest => exact .pair rfl rfl .drained
  | task _ hst => exact deeds_exchange hst
  | _ => exact .none

/-! ## The books, by what is shown -/

@[simp] def Act.accepts : Act → Nat
  | .accepted => 1
  | _ => 0

@[simp] def Act.takes : Act → Nat
  | .received | .drained => 1
  | _ => 0

@[simp] def Act.discards : Act → Nat
  | .discarded => 1
  | _ => 0

@[simp] def Act.replies : Act → Nat
  | .replied _ => 1
  | _ => 0

@[simp] def Act.drops : Act → Nat
  | .dropped => 1
  | _ => 0

@[simp] def Act.sends : Act → Nat
  | .sent => 1
  | _ => 0

/-- A reply to a request that was never sent. -/
@[simp] def Act.refuses : Act → Nat
  | .replied .srvRequestErr | .replied .noData | .replied .drain => 1
  | _ => 0

/-- A measure of the outputs that only sees what they show of `id`. -/
theorem tally_acts {f : Out M Req → Nat} {g : Act → Nat}
    (h : ∀ o, f o = tally g (o.act? id).toList) (os : List (Out M Req)) :
    tally f os = tally g (acts id os) := by
  induction os with
  | nil => rfl
  | cons o os ih =>
    rw [← List.singleton_append, acts_append, tally_append, tally_append, ih, tally_cons, h o]
    cases ho : o.act? id <;> simp [acts, ho]

/-- A request is accepted once, is in one place, and is held while it is unsent. -/
structure Counts (n q h u : Nat) : Prop where
  once : n ≤ 1
  place : q + h ≤ n
  unsent : u ≤ h

theorem counts_of_run {tr : List (Rec (Sock M) (Ev M Req) (Out M Req))}
    (hr : (socketMachine M Req).Run tr s) (id : Nat) :
    Counts (s.used.count id) (queued s id) (held s id) (unsent s id) := by
  have hacc := accepted_eq hr id
  have hle := accepted_le hr id
  have hqueue := (queueCustody M Req).balance hr id
  have hhand := (handCustody M Req).balance hr id
  have hun := unsent_le s id
  simp only [queueCustody, handCustody] at hqueue hhand
  refine ⟨by omega, by omega, Nat.le_trans hun ?_⟩
  rw [held]
  omega

/-- What is shown of a request takes it from where its books say it was to where they say it is. -/
theorem go_stageOf {as : List Act} {n q h u n' q' h' u' : Nat} (hd : Deeds as)
    (hc : Counts n q h u) (hc' : Counts n' q' h' u') (hn : n' = n + tally Act.accepts as)
    (hq : q' + tally Act.takes as + tally Act.discards as = q + tally Act.accepts as)
    (hh : h' + tally Act.replies as + tally Act.drops as = h + tally Act.takes as)
    (hu : u' + tally Act.sends as + tally Act.refuses as = u + tally Act.takes as) :
    requestProtocol.go (stageOf n q h u) as = some (stageOf n' q' h' u') := by
  obtain ⟨h1, h2, h3⟩ := hc
  obtain ⟨h1', h2', h3'⟩ := hc'
  cases hd
  all_goals simp only [tally_cons, tally_nil, Act.accepts, Act.takes, Act.discards, Act.replies,
    Act.drops, Act.sends, Act.refuses, Nat.add_zero, Nat.zero_add] at hn hq hh hu
  case none =>
    rw [hn, hq, hh, hu]
    rfl
  case accepted =>
    obtain ⟨rfl, rfl, rfl, rfl, rfl, rfl, rfl, rfl⟩ : n = 0 ∧ q = 0 ∧ h = 0 ∧ u = 0 ∧
      n' = 1 ∧ q' = 1 ∧ h' = 0 ∧ u' = 0 := by omega
    rfl
  case received =>
    obtain ⟨rfl, rfl, rfl, rfl, rfl, rfl, rfl, rfl⟩ : n = 1 ∧ q = 1 ∧ h = 0 ∧ u = 0 ∧
      n' = 1 ∧ q' = 0 ∧ h' = 1 ∧ u' = 1 := by omega
    rfl
  case receivedSent =>
    obtain ⟨rfl, rfl, rfl, rfl, rfl, rfl, rfl, rfl⟩ : n = 1 ∧ q = 1 ∧ h = 0 ∧ u = 0 ∧
      n' = 1 ∧ q' = 0 ∧ h' = 1 ∧ u' = 0 := by omega
    rfl
  case receivedRefused hsite =>
    rcases hsite with rfl | rfl <;>
    · obtain ⟨rfl, rfl, rfl, rfl, rfl, rfl, rfl, rfl⟩ : n = 1 ∧ q = 1 ∧ h = 0 ∧ u = 0 ∧
        n' = 1 ∧ q' = 0 ∧ h' = 0 ∧ u' = 0 := by omega
      rfl
  case sent =>
    obtain ⟨rfl, rfl, rfl, rfl, rfl, rfl, rfl, rfl⟩ : n = 1 ∧ q = 0 ∧ h = 1 ∧ u = 1 ∧
      n' = 1 ∧ q' = 0 ∧ h' = 1 ∧ u' = 0 := by omega
    rfl
  case refused =>
    obtain ⟨rfl, rfl, rfl, rfl, rfl, rfl, rfl, rfl⟩ : n = 1 ∧ q = 0 ∧ h = 1 ∧ u = 1 ∧
      n' = 1 ∧ q' = 0 ∧ h' = 0 ∧ u' = 0 := by omega
    rfl
  case answered hsite =>
    rcases hsite with rfl | rfl | rfl <;>
    · simp only [Nat.add_zero] at hu
      obtain ⟨rfl, rfl, rfl, rfl, rfl, rfl, rfl, rfl⟩ : n = 1 ∧ q = 0 ∧ h = 1 ∧ u = 0 ∧
        n' = 1 ∧ q' = 0 ∧ h' = 0 ∧ u' = 0 := by omega
      rfl
  case dropped =>
    obtain ⟨rfl, rfl, rfl, rfl, rfl, rfl, rfl, rfl⟩ : n = 1 ∧ q = 0 ∧ h = 1 ∧ u = 0 ∧
      n' = 1 ∧ q' = 0 ∧ h' = 0 ∧ u' = 0 := by omega
    rfl
  case drained =>
    obtain ⟨rfl, rfl, rfl, rfl, rfl, rfl, rfl, rfl⟩ : n = 1 ∧ q = 1 ∧ h = 0 ∧ u = 0 ∧
      n' = 1 ∧ q' = 0 ∧ h' = 0 ∧ u' = 0 := by omega
    rfl
  case discarded =>
    obtain ⟨rfl, rfl, rfl, rfl, rfl, rfl, rfl, rfl⟩ : n = 1 ∧ q = 1 ∧ h = 0 ∧ u = 0 ∧
      n' = 1 ∧ q' = 0 ∧ h' = 0 ∧ u' = 0 := by omega
    rfl

/-- What an output counts for in the books of `id`, it shows. -/
theorem books_act (o : Out M Req) :
    acceptedOf id o = tally Act.accepts (o.act? id).toList ∧
    takenOf id o = tally Act.takes (o.act? id).toList ∧
    discardedOf id o = tally Act.discards (o.act? id).toList ∧
    repliedOf id o = tally Act.replies (o.act? id).toList ∧
    droppedOf id o = tally Act.drops (o.act? id).toList ∧
    sentOf id o = tally Act.sends (o.act? id).toList ∧
    unsentReplyOf id o = tally Act.refuses (o.act? id).toList := by
  cases o with
  | accepted m =>
    cases m with
    | request msg => by_cases hid : msg.id = id <;> simp [Out.act?, hit, hid]
    | _ => simp [Out.act?, msgHit]
  | replied site msg a =>
    by_cases hid : msg.id = id <;> cases site <;> simp [Out.act?, hit, hid]
  | received msg | drained msg | sendRequest msg _ | dropped msg | discarded msg =>
    by_cases hid : msg.id = id <;> simp [Out.act?, hit, hid]
  | repolled | record | bus => simp [Out.act?]

/-- **One step.** What a step shows of a request takes it from where it was to where it is. -/
theorem step_stage {tr : List (Rec (Sock M) (Ev M Req) (Out M Req))}
    (hr : (socketMachine M Req).Run tr s) (h : s.step e = some (s', os)) :
    requestProtocol.go (stage s id) (acts id os) = some (stage s' id) := by
  have hc := counts_of_run hr id
  have hc' := counts_of_run (hr.next (e := e) h) id
  have hbal := step_balanced id h
  have hused := (step_used id h).1
  have hle : queued s id + held s id ≤ 1 := Nat.le_trans hc.place hc.once
  rw [tally_acts fun o => (books_act o).1] at hused
  refine go_stageOf (deeds_of_step hle h) hc hc' hused ?_ ?_ ?_
  · have hq := hbal.queue
    rwa [tally_acts fun o => (books_act o).1, tally_acts fun o => (books_act o).2.1,
      tally_acts fun o => (books_act o).2.2.1] at hq
  · have hh := hbal.hand
    rwa [tally_acts fun o => (books_act o).2.1, tally_acts fun o => (books_act o).2.2.2.1,
      tally_acts fun o => (books_act o).2.2.2.2.1] at hh
  · have hu := hbal.send
    rwa [tally_acts fun o => (books_act o).2.1, tally_acts fun o => (books_act o).2.2.2.2.2.1,
      tally_acts fun o => (books_act o).2.2.2.2.2.2] at hu

/-- A socket takes its requests through the protocol. -/
theorem follows_of_run {tr : List (Rec (Sock M) (Ev M Req) (Out M Req))}
    (hr : (socketMachine M Req).Run tr s) (id : Nat) :
    requestProtocol.after (acts id (outs tr)) = some (stage s id) := by
  refine requestProtocol.of_run (stage · id) rfl acts_append ?_
    (fun tr s e s' os hr hst => step_stage hr hst) hr
  rintro s ⟨self, name, rfl⟩
  rfl

/-- Nothing happens to a request before it is accepted. -/
theorem nil_of_fresh {p : Stage} {as : List Act} (h : requestProtocol.go p as = some .fresh) :
    p = .fresh ∧ as = [] := by
  induction as generalizing p with
  | nil =>
    cases h
    exact ⟨rfl, rfl⟩
  | cons a as ih =>
    obtain ⟨r, hact, hgo⟩ := requestProtocol.go_cons_eq_some.1 h
    obtain ⟨rfl, -⟩ := ih hgo
    simp only [requestProtocol] at hact
    split at hact <;> cases hact

end

/-! ## The processor -/

/-- What the outputs of the sockets say about the request `id`, in order. -/
def procActs (id : Nat) (os : List (ProcOut M Req)) : List Act :=
  (os.filterMap ProcOut.sock?).filterMap fun q => q.2.act? id

/-- Where the request `id` is: in the socket whose queue accepted it, if one did. -/
def procStage (s : HyperClientProc M) (id : Nat) : Stage :=
  match s.clientSockets.find? (·.sock.used.contains id) with
  | some t => stage t.sock id
  | none => .fresh

/-- **The life of a request.** In every run of the processor what its sockets show of a request
follows the protocol, and takes it to where it is. -/
theorem requests_follow {urlIsSsl : Url → Bool} {s : HyperClientProc M}
    {tr : List (Rec (HyperClientProc M) (ProcEv M Req) (ProcOut M Req))}
    (hr : (clientMachine M Req urlIsSsl).Run tr s) (id : Nat) :
    requestProtocol.after (procActs id (outs tr)) = some (procStage s id) := by
  let H := sockets M Req urlIsSsl
  -- a socket whose queue did not accept it shows nothing of it
  have silent {j : Nat} (hj : ∀ t, s.clientSockets[j]? = some t → id ∉ t.sock.used) :
      acts id (H.own j (outs tr)) = [] := by
    cases hx : s.clientSockets[j]? with
    | none =>
      have hlen : (H.comps s).length ≤ j := by
        rw [show (H.comps s).length = s.clientSockets.length from List.length_map _]
        exact List.getElem?_eq_none_iff.1 hx
      rw [H.own_of_length_le hr hlen]
      rfl
    | some t =>
      have hcomp : (H.comps s)[j]? = some t.sock := by
        rw [show H.comps s = s.clientSockets.map (·.sock) from rfl, List.getElem?_map, hx]
        rfl
      obtain ⟨tr', hr', hown, -⟩ := H.project hr hcomp
      have hfollow := follows_of_run hr' id
      rw [stage, List.count_eq_zero.2 (hj t hx), hown] at hfollow
      exact (nil_of_fresh hfollow).2
  unfold procStage
  cases hfind : s.clientSockets.find? (·.sock.used.contains id) with
  | none =>
    have hnot : ∀ t ∈ s.clientSockets, id ∉ t.sock.used := by simpa using hfind
    have hsame : procActs id (outs tr) = acts id (H.own 0 (outs tr)) := H.filterMap_own fun j _ =>
      silent fun t ht => hnot t (List.mem_of_getElem? ht)
    have hnil : acts id (H.own 0 (outs tr)) = [] :=
      silent fun t ht => hnot t (List.mem_of_getElem? ht)
    rw [hsame, hnil]
    rfl
  | some t =>
    have hused : id ∈ t.sock.used := by simpa using List.find?_some hfind
    obtain ⟨i, hi⟩ := List.mem_iff_getElem?.1 (List.mem_of_find?_eq_some hfind)
    have hone : uses s id ≤ 1 := accepted_total hr id ▸ accepted_total_le hr id
    have hsame : procActs id (outs tr) = acts id (H.own i (outs tr)) := H.filterMap_own fun j hji =>
      silent fun t' ht' hmem => hji (eq_of_tally_le_one hone ht' hi
        (List.count_pos_iff.2 hmem) (List.count_pos_iff.2 hused))
    have hcomp : (H.comps s)[i]? = some t.sock := by
      rw [show H.comps s = s.clientSockets.map (·.sock) from rfl, List.getElem?_map, hi]
      rfl
    obtain ⟨tr', hr', hown, -⟩ := H.project hr hcomp
    have hacts : procActs id (outs tr) = acts id (outs tr') := by rw [hown]; exact hsame
    rw [hacts]
    exact follows_of_run hr' id

/-- The only socket serves request 7, which times out. -/
def runsOut : List (ProcEv Nat Nat) :=
  .started (.ok ()) :: registered.map (.sock 0) ++
    [.sock 0 (.send (.request ⟨7, "svc", some 1, 0⟩)), .sock 0 (.recv echo), .sock 0 .elapsed]

theorem runsOut_follows : ∃ q,
    (clientMachine Nat Nat noSsl).exec (HyperClientProc.new oneBackend) runsOut = some q ∧
      procActs 7 (outs q.1) = [.accepted, .received, .sent, .replied .timeout] ∧
      requestProtocol.after (procActs 7 (outs q.1)) = some (procStage q.2 7) :=
  ⟨_, (Option.some_get rfl).symm, rfl,
    requests_follow (Machine.run_get (init_proc oneBackend noSsl) rfl) 7⟩

end Client
