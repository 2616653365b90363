import ProsaHyper.Server.Proof.Correlated

/-!
# Where a call is routed

The loop routes a message by the service table it took last, and asks the service what the call
asked.

* `table_of_run`: the table in use is the last one taken.
* `sourced_of_run`: a message has the data of its call until it is dispatched or refused, and the
  request in hand is made of that data.
* `calls_routed`: each request goes to a queue that offers its service; a call is refused only when
  no queue does; a timeout gives no data back.
-/

set_option autoImplicit false

namespace Server

open Prosa Http

variable {M : Type}

/-- The service table in a message the loop took. -/
def Out.table? : Out M → Option ServiceTable
  | .took (.service table) => some table
  | _ => none

/-- The service table after the outputs `os`. -/
def tableAfter (os : List (Out M)) : ServiceTable := ((os.filterMap Out.table?).getLast?).getD []

/-- A call built `msg`, with `data`. -/
structure Built (os : List (Out M)) (msg : RequestMsg M) (data : M) : Prop where
  opened : .opened msg ∈ os
  data : msg.data = some data

/-- `request` asks `queue`, which `table` lists, for what a call asked with the message that is now
`httpMsg`. -/
structure Asks (os : List (Out M)) (table : ServiceTable) (queue : Nat)
    (request httpMsg : RequestMsg M) (msg : RequestMsg M) (data : M) : Prop where
  built : Built os msg data
  left : httpMsg = msg.takeData.2
  request : request = RequestMsg.new request.id msg.service data serviceQueue
  listed : queue ∈ table.queuesOf msg.service

/-- The messages that still have their data. -/
inductive Whole (s : HyperServerProc M) (msg : RequestMsg M) : Prop
  | sending {c : Nat} {call : Call M} : s.calls[c]? = some call → call.pc.msg? = some msg →
      Whole s msg
  | queued : msg ∈ s.httpRx.buf → Whole s msg

/-- The messages and the request in hand are those of the calls that built them. -/
structure Sourced (os : List (Out M)) (s : HyperServerProc M) : Prop where
  whole : ∀ msg, Whole s msg → .opened msg ∈ os
  hand : ∀ queue request httpMsg, s.pc = .sending queue request httpMsg →
    ∃ msg data, Asks os s.service queue request httpMsg msg data
  pending : ∀ id httpMsg, s.pendingReq.msgs.lookup id = some httpMsg →
    ∃ msg data, Built os msg data ∧ httpMsg = msg.takeData.2

theorem Built.mono {os os' : List (Out M)} {msg : RequestMsg M} {data : M} (h : Built os msg data)
    (hs : ∀ o ∈ os, o ∈ os') : Built os' msg data :=
  ⟨hs _ h.opened, h.data⟩

theorem Asks.mono {os os' : List (Out M)} {table : ServiceTable} {queue : Nat}
    {request httpMsg msg : RequestMsg M} {data : M}
    (h : Asks os table queue request httpMsg msg data) (hs : ∀ o ∈ os, o ∈ os') :
    Asks os' table queue request httpMsg msg data :=
  ⟨h.built.mono hs, h.left, h.request, h.listed⟩

theorem tableAfter_append (os os' : List (Out M)) :
    tableAfter (os ++ os') = ((os'.filterMap Out.table?).getLast?).getD (tableAfter os) := by
  rw [tableAfter, tableAfter, List.filterMap_append, List.getLast?_append]
  cases (os'.filterMap Out.table?).getLast? <;> rfl

section
variable {urlIsSsl : Url → Bool} {adaptor : HyperServerAdaptor} {s s' : HyperServerProc M}
  {e : Ev M} {os : List (Out M)}

theorem tables_eq_nil (h : ∀ o ∈ os, o.table? = none) : os.filterMap Out.table? = [] :=
  List.filterMap_eq_nil_iff.2 h

theorem table_of_plain {o : Out M} (h : o.plain = true) : o.table? = none := by
  cases o with
  | took => cases h
  | _ => rfl

theorem table_of_leave {o : Out M} {pc : RunPc M} (h : o ∈ (s.leave pc).2) : o.table? = none := by
  obtain ⟨msg, -, rfl⟩ := List.mem_map.1 h
  rfl

/-- A step replaces the table by the one it takes. -/
theorem step_table (h : s.step urlIsSsl adaptor e = some (s', os)) :
    s'.service = ((os.filterMap Out.table?).getLast?).getD s.service := by
  cases moves_of_step h with
  | startFailed | bindFailed | sendFailed | acceptFailed | procRemoveFailed =>
    rw [tables_eq_nil fun _ => table_of_leave]
    rfl
  | @recvPanic m _ _ _ hp =>
    have hnone : (Out.took m).table? = none := by cases m <;> first | rfl | cases hp
    rw [List.filterMap_cons_none hnone, tables_eq_nil fun _ => table_of_leave]
    rfl
  | procRemoved =>
    rw [List.filterMap_cons_none rfl, tables_eq_nil fun _ => table_of_leave]
    rfl
  | @recvStale m _ _ _ _ ha =>
    have hnone : (Out.took m).table? = none := by cases m <;> first | rfl | cases ha
    rw [List.filterMap_cons_none hnone]
    rfl
  | conn _ hq =>
    rw [tables_eq_nil fun _ ho => table_of_plain (plain_socket hq ho)]
    rfl
  | processed _ _ hq =>
    rw [tables_eq_nil fun _ ho => table_of_plain (plain_completed hq ho)]
    rfl
  | callAnswered =>
    rw [tables_eq_nil fun _ ho => table_of_plain (plain_completed (countRes_counts _) ho)]
    rfl
  | _ => rfl

/-- A message that has its data had it before, or was just built. -/
theorem whole_of_step {msg : RequestMsg M} (h : s.step urlIsSsl adaptor e = some (s', os))
    (hw : Whole s' msg) : Whole s msg ∨ .opened msg ∈ os := by
  cases hw with
  | @sending c call hc hmsg =>
    cases call_of_step c h with
    | same heq => exact .inl (.sending (heq ▸ hc) hmsg)
    | started _ hc' =>
      rw [hc] at hc'
      cases hc'
      cases hmsg
    | advanced _ _ hc' ha =>
      rw [hc] at hc'
      cases hc'
      exact .inr (ha.own hmsg).2
  | queued hq =>
    rcases queued_of_step h hq with hq | ⟨c, call, hc, hp⟩
    · exact .inl (.queued hq)
    · exact .inl (.sending hc hp)

/-- A call builds its message with data. -/
theorem data_of_opened {msg : RequestMsg M} (h : s.step urlIsSsl adaptor e = some (s', os))
    (ho : .opened msg ∈ os) : ∃ data, msg.data = some data := by
  cases moves_of_step h with
  | opened =>
    cases List.mem_singleton.1 ho
    exact ⟨_, rfl⟩
  | conn _ hq => cases plain_socket hq ho
  | processed _ _ hq => cases plain_completed hq ho
  | callAnswered => cases plain_completed (countRes_counts _) ho
  | _ => simp [HyperServerProc.leave] at ho

/-- A message of the main queue was there before, or was just sent to it. -/
theorem internal_of_step {m : InternalMsg M} (h : s.step urlIsSsl adaptor e = some (s', os))
    (hm : m ∈ s'.internalRxQueue.buf) : m ∈ s.internalRxQueue.buf ∨ e = .internal m := by
  cases moves_of_step h with
  | internal hq =>
    rw [(Chan.send_eq_some hq).2.2.1] at hm
    rcases List.mem_append.1 hm with hm | hm
    · exact .inl hm
    · exact .inr (by rw [List.mem_singleton.1 hm])
  | recvPanic _ hq | recvStale _ hq | recvData _ hq | recvNoData _ hq | recvError _ hq
  | recvService _ hq | recvShutdown _ hq =>
    rw [(Chan.recv_eq_some hq).1]
    exact .inl (List.mem_cons_of_mem _ hm)
  | _ => exact .inl hm

/-- What a step takes was at the head of the main queue. -/
theorem queued_of_took {m : InternalMsg M} (h : s.step urlIsSsl adaptor e = some (s', os))
    (ho : .took m ∈ os) : m ∈ s.internalRxQueue.buf := by
  cases moves_of_step h with
  | recvPanic _ hq | recvStale _ hq | recvData _ hq | recvNoData _ hq | recvError _ hq
  | recvService _ hq | recvShutdown _ hq =>
    cases (List.mem_cons.1 ho).resolve_right (by simp [HyperServerProc.leave])
    rw [(Chan.recv_eq_some hq).1]
    exact List.mem_cons_self
  | conn _ hq => cases plain_socket hq ho
  | processed _ _ hq => cases plain_completed hq ho
  | callAnswered => cases plain_completed (countRes_counts _) ho
  | _ => simp [HyperServerProc.leave] at ho

/-- The request in hand was in hand before, under the same table, or was just made of the message
at the head of the queue. -/
theorem sending_of_step {queue : Nat} {request httpMsg : RequestMsg M}
    (h : s.step urlIsSsl adaptor e = some (s', os)) (hp : s'.pc = .sending queue request httpMsg) :
    (s.pc = .sending queue request httpMsg ∧ s'.service = s.service) ∨
      ∃ msg ∈ s.httpRx.buf, ∃ data, msg.data = some data ∧ httpMsg = msg.takeData.2 ∧
        request = RequestMsg.new request.id msg.service data serviceQueue ∧
        queue ∈ s'.service.queuesOf msg.service := by
  cases moves_of_step h with
  | startFailed | bindFailed | recvPanic | sendFailed | acceptFailed | procRemoved
  | procRemoveFailed | started | bound | recvShutdown | sent => cases hp
  | @dispatch msg _ _ data _ hq hs hd =>
    cases hp
    refine .inr ⟨msg, ?_, data, hd, rfl, rfl, by
      simpa [ServiceTable.getProcService] using hs⟩
    rw [(Chan.recv_eq_some hq).1]
    exact List.mem_cons_self
  | recvService hsel =>
    rw [show s.pc = _ from hp] at hsel
    cases hsel
  | _ => exact .inl ⟨hp, rfl⟩

end

section
variable {urlIsSsl : Url → Bool} {adaptor : HyperServerAdaptor} {s : HyperServerProc M}
  {tr : List (Rec (HyperServerProc M) (Ev M) (Out M))}
  (hr : (serverMachine M urlIsSsl adaptor).Run tr s)
include hr

/-- **The table in use** is the last one taken. -/
theorem table_of_run : s.service = tableAfter (outs tr) := by
  induction hr with
  | start hi =>
    obtain ⟨settings, queues, nextId, rfl⟩ := hi
    rfl
  | next _ hst ih => rw [outs_append, outs_single, tableAfter_append, ← ih, step_table hst]

theorem data_of_run {msg : RequestMsg M} (ho : .opened msg ∈ outs tr) :
    ∃ data, Built (outs tr) msg data := by
  obtain ⟨r, hm, hmem⟩ := mem_outs.1 ho
  obtain ⟨data, hd⟩ := data_of_opened (hr.step_of_mem hm).2 hmem
  exact ⟨data, ho, hd⟩

/-- **A message is carried** as its call built it. -/
theorem sourced_of_run : Sourced (outs tr) s := by
  induction hr with
  | start hi =>
    obtain ⟨settings, queues, nextId, rfl⟩ := hi
    refine ⟨fun msg hw => ?_, fun _ _ _ hp => (by cases hp), fun id m hl => ?_⟩
    · cases hw with
      | sending hc => simp [HyperServerProc.new] at hc
      | queued hq => cases hq
    · simp [HyperServerProc.new, PendingMsgs.empty] at hl
  | @next tr s s' e os hr hst ih =>
    have grow : ∀ o ∈ outs tr, o ∈ outs (tr ++ [⟨s, e, os, s'⟩]) := fun o ho => by
      rw [outs_append]
      exact List.mem_append_left _ ho
    refine ⟨fun msg hw => ?_, fun queue request httpMsg hp => ?_, fun id httpMsg hl => ?_⟩
    · rw [outs_append, outs_single, List.mem_append]
      exact (whole_of_step hst hw).imp (ih.whole msg) id
    · rcases sending_of_step hst hp with ⟨hp, hsame⟩ | ⟨msg, hq, data, hd, hleft, hreq, hlist⟩
      · obtain ⟨msg, data, hasks⟩ := ih.hand _ _ _ hp
        rw [hsame]
        exact ⟨msg, data, hasks.mono grow⟩
      · have hbuilt : Built (outs tr) msg data := ⟨ih.whole msg (.queued hq), hd⟩
        exact ⟨msg, data, hbuilt.mono grow, hleft, hreq, hlist⟩
    · rcases pending_of_step hst hl with ⟨hl, -⟩ | ⟨hh, -⟩
      · obtain ⟨msg, data, hbuilt, hleft⟩ := ih.pending id httpMsg hl
        exact ⟨msg, data, hbuilt.mono grow, hleft⟩
      · generalize hp : s.pc = pc at hh
        cases pc with
        | sending queue request m =>
          cases hh
          obtain ⟨msg, data, hasks⟩ := ih.hand _ _ _ hp
          exact ⟨msg, data, hasks.built.mono grow, hasks.left⟩
        | _ => cases hh

end

/-- What the step `r` does with the messages of the calls, after the outputs `os`. -/
structure Routed (os : List (Out M)) (r : Rec (HyperServerProc M) (Ev M) (Out M)) : Prop where
  /-- a request asks for what its call asked, on a queue that offers the service -/
  dispatched : ∀ httpMsg request queue, .dispatched httpMsg request queue ∈ r.out →
    ∃ msg data, Asks os (tableAfter os) queue request httpMsg msg data
  /-- a call is refused when no queue offers its service, and it gets its data back -/
  refused : ∀ httpMsg a, .replied .unable httpMsg a ∈ r.out →
    ∃ msg data, Built os msg data ∧ httpMsg = msg.takeData.2 ∧
      a = msg.takeData.2.returnErrorToSender (some data) (.unableToReachService msg.service) ∧
      (tableAfter os).queuesOf msg.service = []
  /-- a timeout names the service, and gives no data back: the request took it -/
  timedOut : ∀ httpMsg a, .replied .timeout httpMsg a ∈ r.out →
    ∃ msg data, Built os msg data ∧ httpMsg = msg.takeData.2 ∧
      a = msg.takeData.2.returnErrorToSender none
        (.timeout msg.service r.pre.settings.serviceTimeout)

/-- **Routing**: in every run the calls are routed by the service table in use. -/
theorem calls_routed {urlIsSsl : Url → Bool} {adaptor : HyperServerAdaptor}
    {s : HyperServerProc M} {tr ta tb : List (Rec (HyperServerProc M) (Ev M) (Out M))}
    {r : Rec (HyperServerProc M) (Ev M) (Out M)}
    (hr : (serverMachine M urlIsSsl adaptor).Run tr s) (htr : tr = ta ++ r :: tb) :
    Routed (outs ta) r := by
  subst htr
  obtain ⟨hr₀, hst, -⟩ := hr.split
  obtain ⟨s₀, e, os, s₁⟩ := r
  have hst : s₀.step urlIsSsl adaptor e = some (s₁, os) := hst
  have htable : s₀.service = tableAfter (outs ta) := table_of_run hr₀
  have hsourced := sourced_of_run hr₀
  refine ⟨fun httpMsg request queue ho => ?_, fun httpMsg a ho => ?_, fun httpMsg a ho => ?_⟩
  · have hp : s₀.pc = .sending queue request httpMsg := by
      cases moves_of_step hst with
      | sent hp =>
        cases List.mem_singleton.1 ho
        exact hp
      | conn _ hq => cases plain_socket hq ho
      | processed _ _ hq => cases plain_completed hq ho
      | callAnswered => cases plain_completed (countRes_counts _) ho
      | _ => simp [HyperServerProc.leave] at ho
    rw [← htable]
    exact hsourced.hand _ _ _ hp
  · cases moves_of_step hst with
    | @refuse msg q sel _ hq hs hn =>
      cases List.mem_singleton.1 ho
      have hm : msg ∈ s₀.httpRx.buf := by
        rw [(Chan.recv_eq_some hq).1]
        exact List.mem_cons_self
      obtain ⟨data, hbuilt⟩ := data_of_run hr₀ (hsourced.whole msg (.queued hm))
      -- the message has its data, so it is `get_proc_service` that answered `None`
      have hsel : sel = none := hn.resolve_right (by rw [hbuilt.data]; simp)
      subst hsel
      rw [← htable]
      refine ⟨msg, data, hbuilt, rfl, by rw [hbuilt.data], ?_⟩
      simpa [ServiceTable.getProcService] using hs
    | conn _ hq => cases plain_socket hq ho
    | processed _ _ hq => cases plain_completed hq ho
    | callAnswered => cases plain_completed (countRes_counts _) ho
    | _ => simp [HyperServerProc.leave] at ho
  · cases reply_of_step hst ho with
    | @timeout id httpMsg _ hl =>
      obtain ⟨msg, data, hbuilt, hleft⟩ := hsourced.pending id httpMsg hl
      subst hleft
      exact ⟨msg, data, hbuilt, rfl, rfl⟩

section
variable {urlIsSsl : Url → Bool} {adaptor : HyperServerAdaptor} {s : HyperServerProc M}
  {tr : List (Rec (HyperServerProc M) (Ev M) (Out M))}
  (hr : (serverMachine M urlIsSsl adaptor).Run tr s)
include hr

/-- A call built one message. -/
theorem opened_unique {msg msg' : RequestMsg M} (h : .opened msg ∈ outs tr)
    (h' : .opened msg' ∈ outs tr) (hc : msg.responseQueue = msg'.responseQueue) : msg = msg' := by
  cases unique_of_tally_le_one (opened_le hr msg'.responseQueue) h h' (toCall_pos.2 hc)
    (toCall_pos.2 rfl)
  rfl

/-- An identifier is that of one request. -/
theorem request_unique {msg msg' request request' : RequestMsg M} {queue queue' : Nat}
    (h : .dispatched msg request queue ∈ outs tr)
    (h' : .dispatched msg' request' queue' ∈ outs tr) (hid : request.id = request'.id) :
    request = request' := by
  have hc : msg.responseQueue = msg'.responseQueue :=
    dispatched_unique hr ⟨_, _, _, h, hid, rfl⟩ ⟨_, _, _, h', rfl, rfl⟩
  cases unique_of_tally_le_one (dispatched_le hr msg'.responseQueue) h h' (toCall_pos.2 hc)
    (toCall_pos.2 rfl)
  rfl

/-- The request dispatched for a call asks for what its message asked. -/
theorem request_of_opened {msg httpMsg request : RequestMsg M} {queue : Nat}
    (hopen : .opened msg ∈ outs tr) (hd : .dispatched httpMsg request queue ∈ outs tr)
    (hc : httpMsg.responseQueue = msg.responseQueue) : ∃ data, msg.data = some data ∧
      request = RequestMsg.new request.id msg.service data serviceQueue := by
  obtain ⟨r, hm, ho⟩ := mem_outs.1 hd
  obtain ⟨ta, tb, htr⟩ := List.append_of_mem hm
  obtain ⟨msg', data, hasks⟩ := (calls_routed hr htr).dispatched _ _ _ ho
  have hopen' : .opened msg' ∈ outs tr := by
    rw [htr, outs_append]
    exact List.mem_append_left _ hasks.built.opened
  have heq : msg' = msg := opened_unique hr hopen' hopen (by rw [← hc, hasks.left]; rfl)
  exact ⟨data, heq ▸ hasks.built.data, heq ▸ hasks.request⟩

/-- What the loop took was sent to the main queue. -/
theorem internal_of_run : (∀ m ∈ s.internalRxQueue.buf, ∃ r ∈ tr, r.ev = .internal m) ∧
    ∀ m, .took m ∈ outs tr → ∃ r ∈ tr, r.ev = .internal m := by
  induction hr with
  | start hi =>
    obtain ⟨settings, queues, nextId, rfl⟩ := hi
    exact ⟨fun m hm => (by cases hm), fun m hm => (by cases hm)⟩
  | @next tr s s' e os hr hst ih =>
    have grow {m : InternalMsg M} (h : ∃ r ∈ tr, r.ev = .internal m) :
        ∃ r ∈ tr ++ [⟨s, e, os, s'⟩], r.ev = .internal m := by
      obtain ⟨r, hm, he⟩ := h
      exact ⟨r, List.mem_append_left _ hm, he⟩
    refine ⟨fun m hm => ?_, fun m hm => ?_⟩
    · rcases internal_of_step hst hm with hm | he
      · exact grow (ih.1 m hm)
      · exact ⟨_, List.mem_append_right _ List.mem_cons_self, he⟩
    · rw [outs_append, outs_single, List.mem_append] at hm
      rcases hm with hm | hm
      · exact grow (ih.2 m hm)
      · exact grow (ih.1 m (queued_of_took hst hm))

end

/-- The service moved to another queue since the call was made. -/
theorem movedService_routed : ∃ q s os, (serverMachine Nat plainHttp .default).exec plainServer
      (called "svc" ++ [.internal (.service [("svc", 6)]), .recv, .recvHttp (some 6)]) = some q ∧
      q.2.step plainHttp .default .sent = some (s, os) ∧ tableAfter (outs q.1) = [("svc", 6)] ∧
      (s.queues 6).buf.length = 1 ∧ Routed (outs q.1) ⟨q.2, .sent, os, s⟩ :=
  ⟨_, _, _, (Option.some_get rfl).symm, rfl, rfl, rfl,
    calls_routed (.next (Machine.run_get (init_server plainHttp .default) rfl) rfl) rfl⟩

end Server
