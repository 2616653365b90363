import ProsaHyper.Server.Proof.Routing

/-!
# What a call completes with

* `asked_of_run`: the handler of a call is the one that came with its request.
* `calls_answered`: a call completes with what the adaptor answered by itself, or with its own
  handler on the answer to its request, or with a 503 once its message was lost. The two branches of
  `wait_intern_resp` that answer 500 are never taken.
* `errors_told`: with `default_srv_error_response` in the handlers, the status says what happened.
-/

set_option autoImplicit false

namespace Server

open Prosa Http

variable {M : Type}

/-- The handler a call keeps while it waits. -/
def CallPc.handler? : CallPc M → Option (SrvRespHandler M)
  | .sending _ handler | .waiting handler => some handler
  | _ => none

/-- The call `c` asked the service `name` with `req`, in the message `id`, and answers with
`handler`. -/
def Asked (tr : List (Rec (HyperServerProc M) (Ev M) (Out M))) (c id : Nat) (name : String)
    (req : M) (handler : SrvRespHandler M) : Prop :=
  ∃ r ∈ tr, r.ev = .processed c (.srvReq name req handler) ∧
    .opened (RequestMsg.new id name req c) ∈ r.out

/-- The service `name` was on no queue when the call `c` was refused. -/
def Refused (tr : List (Rec (HyperServerProc M) (Ev M) (Out M))) (c : Nat) (name : String) : Prop :=
  (∀ id, ¬ Dispatched (outs tr) id c) ∧
    ∃ ta r tb, tr = ta ++ r :: tb ∧ (tableAfter (outs ta)).queuesOf name = []

/-- The timer of the request of the call `c` ran out before an answer was taken. -/
def TimedOut (tr : List (Rec (HyperServerProc M) (Ev M) (Out M))) (c : Nat) : Prop :=
  ∃ ta r tb id, tr = ta ++ r :: tb ∧ r.ev = .pull id ∧ OpenSince ta id c

/-- How the call `c` comes to what it completes with. -/
inductive Verdict (adaptor : HyperServerAdaptor)
    (tr : List (Rec (HyperServerProc M) (Ev M) (Out M))) (ms c : Nat) :
    Except HttpError Response → Prop
  | own {r : Rec (HyperServerProc M) (Ev M) (Out M)} {res : Response} : r ∈ tr →
      r.ev = .processed c (.httpResp res) → Verdict adaptor tr ms c (.ok res)
  | failed {r : Rec (HyperServerProc M) (Ev M) (Out M)} {err : HttpError} : r ∈ tr →
      r.ev = .processed c (.httpErr err) → Verdict adaptor tr ms c (.error err)
  | answered {id id' : Nat} {name : String} {req data : M} {handler : SrvRespHandler M} :
      Asked tr c id name req handler → Dispatched (outs tr) id' c →
      .took (.response ⟨id', some data⟩) ∈ outs tr →
      Verdict adaptor tr ms c (handler (.ok data))
  | reported {id : Nat} {name : String} {req : M} {handler : SrvRespHandler M} {err : ErrorMsg M} :
      Asked tr c id name req handler → Dispatched (outs tr) err.id c →
      .took (.error err) ∈ outs tr →
      Verdict adaptor tr ms c (handler (.error ⟨id, err.data, err.err⟩))
  | timedOut {id : Nat} {name : String} {req : M} {handler : SrvRespHandler M} :
      Asked tr c id name req handler → TimedOut tr c →
      Verdict adaptor tr ms c (handler (.error ⟨id, none, .timeout name ms⟩))
  | refused {id : Nat} {name : String} {req : M} {handler : SrvRespHandler M} :
      Asked tr c id name req handler → Refused tr c name →
      Verdict adaptor tr ms c (handler (.error ⟨id, some req, .unableToReachService name⟩))
  | lost {id : Nat} {name : String} {req : M} {handler : SrvRespHandler M} {msg : RequestMsg M} :
      Asked tr c id name req handler → .dropped msg ∈ outs tr → msg.responseQueue = c →
      Verdict adaptor tr ms c
        ((adaptor.responseBuilder 503).body ["Can't handle your request for now"])

/-- What the step `e` completes the call `c` with. -/
inductive Completes (adaptor : HyperServerAdaptor) (s : HyperServerProc M) (c : Nat) :
    Ev M → Except HttpError Response → Prop
  | own {res : Response} : Completes adaptor s c (.processed c (.httpResp res)) (.ok res)
  | failed {err : HttpError} : Completes adaptor s c (.processed c (.httpErr err)) (.error err)
  | waited {call : Call M} {handler : SrvRespHandler M} {m : Option (InternalMsg M)} :
      s.calls[c]? = some call → call.pc = .waiting handler → (s.replies c).recv = some m →
      Completes adaptor s c (.callAnswered c) (waitInternResp adaptor handler m)

section
variable {urlIsSsl : Url → Bool} {adaptor : HyperServerAdaptor} {s s' : HyperServerProc M}
  {e : Ev M} {os : List (Out M)} {c : Nat}

theorem getElem?_set_cases {α : Type} {l : List α} {i j : Nat} {x y : α}
    (h : (l.set i x)[j]? = some y) : (j = i ∧ y = x) ∨ l[j]? = some y := by
  by_cases hij : i = j
  · subst hij
    rw [List.getElem?_set_self (by
      by_contra hlt
      rw [List.getElem?_eq_none (by simpa using hlt)] at h
      cases h)] at h
    exact .inl ⟨rfl, (Option.some.inj h).symm⟩
  · rw [List.getElem?_set_ne hij] at h
    exact .inr h

/-- A call that has a handler had it before, or was just given it with its request. -/
theorem handler_of_step {call : Call M} {handler : SrvRespHandler M}
    (h : s.step urlIsSsl adaptor e = some (s', os)) (hc : s'.calls[c]? = some call)
    (hh : call.pc.handler? = some handler) :
    (∃ call₀, s.calls[c]? = some call₀ ∧ call₀.pc.handler? = some handler) ∨
      ∃ id name req, e = .processed c (.srvReq name req handler) ∧
        .opened (RequestMsg.new id name req c) ∈ os := by
  cases moves_of_step h with
  | @call i =>
    by_cases hlt : c < s.calls.length
    · rw [List.getElem?_append_left hlt] at hc
      exact .inl ⟨call, hc, hh⟩
    · have hmem := List.mem_of_getElem? (List.getElem?_append_right (Nat.le_of_not_lt hlt) ▸ hc)
      cases List.mem_singleton.1 hmem
      cases hh
  | @opened i call₀ name req handler' hc₀ hp =>
    rcases getElem?_set_cases hc with ⟨rfl, rfl⟩ | hc
    · cases hh
      exact .inr ⟨_, name, req, rfl, List.mem_cons_self⟩
    · exact .inl ⟨call, hc, hh⟩
  | processed | callAnswered | callCancelled | sendCancelled =>
    rcases getElem?_set_cases hc with ⟨rfl, rfl⟩ | hc
    · cases hh
    · exact .inl ⟨call, hc, hh⟩
  | callSent hc₀ hp | callSendFailed hc₀ hp =>
    rcases getElem?_set_cases hc with ⟨rfl, rfl⟩ | hc
    · exact .inl ⟨_, hc₀, by rw [hp]; exact hh⟩
    · exact .inl ⟨call, hc, hh⟩
  | _ => exact .inl ⟨call, hc, hh⟩

/-- **Every completion is one of `Completes`.** -/
theorem completes_of_step {res : Except HttpError Response}
    (h : s.step urlIsSsl adaptor e = some (s', os)) (ho : .completed c res ∈ os) :
    Completes adaptor s c e res := by
  have last {os : List (Out M)} {i : Nat} {res' : Except HttpError Response}
      (hq : ∀ o ∈ os, ∃ code version, o = .count code version)
      (ho : .completed c res ∈ os ++ [.completed i res']) : c = i ∧ res = res' := by
    rcases List.mem_append.1 ho with ho | ho
    · obtain ⟨_, _, heq⟩ := hq _ ho
      cases heq
    · cases List.mem_singleton.1 ho
      exact ⟨rfl, rfl⟩
  cases moves_of_step h with
  | @processed i call resp res' os' hc hp hq =>
    obtain ⟨rfl, rfl⟩ := last hq ho
    cases resp with
    | srvReq =>
      simp only [HyperServerProc.step, HyperServerProc.onProcessed, hc, hp, Option.some.injEq,
        Prod.mk.injEq] at h
      rw [← h.2] at ho
      cases List.mem_singleton.1 ho
    | httpResp res₁ =>
      simp only [HyperServerProc.step, HyperServerProc.onProcessed, hc, hp, Option.some.injEq,
        Prod.mk.injEq] at h
      rw [← h.2] at ho
      obtain ⟨-, rfl⟩ := last (countRes_counts _) ho
      exact .own
    | httpErr err =>
      simp only [HyperServerProc.step, HyperServerProc.onProcessed, hc, hp, Option.some.injEq,
        Prod.mk.injEq] at h
      rw [← h.2] at ho
      have heq : res = .error err := by simpa using ho
      subst heq
      exact .failed
  | callAnswered hc hp hm =>
    obtain ⟨rfl, rfl⟩ := last (countRes_counts _) ho
    exact .waited hc hp hm
  | conn _ hq =>
    obtain ⟨_, _, heq⟩ := hq _ ho
    cases heq
  | _ => simp [HyperServerProc.leave] at ho

/-- The timeout of the services is set once. -/
theorem step_serviceTimeout (h : s.step urlIsSsl adaptor e = some (s', os)) :
    s'.settings.serviceTimeout = s.settings.serviceTimeout := by
  cases moves_of_step h with
  | started _ heq => exact heq
  | _ => rfl

end

section
variable {urlIsSsl : Url → Bool} {adaptor : HyperServerAdaptor} {s : HyperServerProc M}
  {tr : List (Rec (HyperServerProc M) (Ev M) (Out M))} {c : Nat}

theorem serviceTimeout_of_run {s₀ : HyperServerProc M}
    (hr : ((serverMachine M urlIsSsl adaptor).startAt s₀).Run tr s) :
    s.settings.serviceTimeout = s₀.settings.serviceTimeout := by
  induction hr with
  | start hi => rw [show _ = s₀ from hi]
  | next _ hst ih => rw [step_serviceTimeout hst, ih]

theorem Asked.mono {tr' : List (Rec (HyperServerProc M) (Ev M) (Out M))} {id : Nat} {name : String}
    {req : M} {handler : SrvRespHandler M} (h : Asked tr c id name req handler)
    (hs : ∀ r ∈ tr, r ∈ tr') : Asked tr' c id name req handler := by
  obtain ⟨r, hm, hev, ho⟩ := h
  exact ⟨r, hs r hm, hev, ho⟩

theorem Dispatched.mono {os os' : List (Out M)} {id : Nat} (h : Dispatched os id c)
    (hs : ∀ o ∈ os, o ∈ os') : Dispatched os' id c := by
  obtain ⟨msg, request, queue, ho, hid, hc⟩ := h
  exact ⟨msg, request, queue, hs _ ho, hid, hc⟩

section
variable (hr : (serverMachine M urlIsSsl adaptor).Run tr s)
include hr

/-- **The handler of a call** came with its request. -/
theorem asked_of_run {call : Call M} {handler : SrvRespHandler M} (hc : s.calls[c]? = some call)
    (hh : call.pc.handler? = some handler) : ∃ id name req, Asked tr c id name req handler := by
  induction hr generalizing call with
  | start hi =>
    obtain ⟨settings, queues, nextId, rfl⟩ := hi
    simp [HyperServerProc.new] at hc
  | next _ hst ih =>
    rcases handler_of_step hst hc hh with ⟨call₀, hc, hh⟩ | ⟨id, name, req, he, ho⟩
    · obtain ⟨id, name, req, hask⟩ := ih hc hh
      exact ⟨id, name, req, hask.mono fun r hm => List.mem_append_left _ hm⟩
    · exact ⟨id, name, req, _, List.mem_append_right _ List.mem_cons_self, he, ho⟩

/-- A closed channel lost its sender. -/
theorem dropped_of_closed (h : s.replies c = .closed) :
    ∃ msg, .dropped msg ∈ outs tr ∧ msg.responseQueue = c := by
  induction hr with
  | start hi =>
    obtain ⟨settings, queues, nextId, rfl⟩ := hi
    cases h
  | next _ hst ih =>
    have hfate := fate_of_step c hst
    rw [h] at hfate
    simp only [outs_append, outs_single, List.mem_append]
    generalize hx : (Oneshot.closed : Oneshot M) = x at hfate
    cases hfate with
    | dropped _ _ hpos =>
      obtain ⟨o, ho, hf⟩ := tally_pos_iff.1 hpos
      cases o with
      | dropped msg => exact ⟨msg, .inr ho, toCall_pos.1 hf⟩
      | _ => cases hf
    | kept =>
      obtain ⟨msg, hm, hc⟩ := ih hx.symm
      exact ⟨msg, .inl hm, hc⟩
    | opened | replied => cases hx

/-- **What is sent to a call** is turned into its verdict by its handler. -/
theorem verdict_of_replied {ta tb : List (Rec (HyperServerProc M) (Ev M) (Out M))}
    {r : Rec (HyperServerProc M) (Ev M) (Out M)} (htr : tr = ta ++ r :: tb) {site : Site}
    {msg : RequestMsg M} {a : InternalMsg M} (ho : .replied site msg a ∈ r.out)
    (hc : msg.responseQueue = c) {id : Nat} {name : String} {req : M} {handler : SrvRespHandler M}
    (hask : Asked tr c id name req handler) :
    Verdict adaptor tr s.settings.serviceTimeout c (waitInternResp adaptor handler (some a)) := by
  have hpast : ∀ o ∈ outs ta, o ∈ outs tr := fun o ho => by
    rw [htr, outs_append]
    exact List.mem_append_left _ ho
  have hnow : ∀ o ∈ r.out, o ∈ outs tr := fun o ho =>
    mem_outs.2 ⟨r, by rw [htr]; exact List.mem_append_right _ List.mem_cons_self, ho⟩
  have hmsg : ∀ m, .opened m ∈ outs ta → m.responseQueue = c →
      m = RequestMsg.new id name req c := by
    obtain ⟨r', hm', -, ho'⟩ := hask
    exact fun m hm heq => opened_unique hr (hpast _ hm) (mem_outs.2 ⟨r', hm', ho'⟩) heq
  have hrouted := calls_routed hr htr
  obtain ⟨msg₀, hopen, hcall, hex⟩ := explained_of_run hr htr ho
  have hmsg₀ := hmsg msg₀ hopen (hcall.trans hc)
  rw [hc] at hex
  subst hmsg₀
  cases hex with
  | response htook hd => exact .answered hask (hd.mono hpast) (hnow _ htook)
  | error htook hd =>
    rw [RequestMsg.returnErrorToSender_taken]
    exact .reported hask (hd.mono hpast) (hnow _ htook)
  | @timeout id' data he _ hsince =>
    obtain ⟨msg', _, hbuilt, hleft, heq⟩ := hrouted.timedOut _ _ ho
    have hmsg' := hmsg msg' hbuilt.opened (by rw [← hc, hleft]; rfl)
    subst hmsg'
    rw [heq]
    have hms : s.settings.serviceTimeout = r.pre.settings.serviceTimeout := by
      obtain ⟨-, hst, hrest⟩ := (htr ▸ hr).split
      rw [serviceTimeout_of_run hrest, step_serviceTimeout hst]
    rw [← hms]
    exact .timedOut hask ⟨ta, r, tb, id', htr, he, hsince⟩
  | unable hn =>
    obtain ⟨msg', data, hbuilt, hleft, heq, hnone⟩ := hrouted.refused _ _ ho
    have hmsg' := hmsg msg' hbuilt.opened (by rw [← hc, hleft]; rfl)
    subst hmsg'
    cases hbuilt.data
    rw [heq]
    exact .refused hask ⟨hn, ta, r, tb, htr, hnone⟩

/-- **The verdict of a call**: in every run a call completes with what its adaptor answered, or
with its handler on the answer to its own request, or with a 503 when its message was lost. -/
theorem calls_answered {res : Except HttpError Response} (ho : .completed c res ∈ outs tr) :
    Verdict adaptor tr s.settings.serviceTimeout c res := by
  obtain ⟨r, hm, hmem⟩ := mem_outs.1 ho
  obtain ⟨ta, tb, htr⟩ := List.append_of_mem hm
  have hsplit := htr ▸ hr
  obtain ⟨hr₀, hst, -⟩ := hsplit.split
  have hpast : ∀ r ∈ ta, r ∈ tr := fun r hm => by
    rw [htr]
    exact List.mem_append_left _ hm
  generalize he : r.ev = e at hst
  have hcomp := completes_of_step hst hmem
  cases hcomp with
  | own => exact .own hm he
  | failed => exact .failed hm he
  | @waited call handler m hc hp hrecv =>
    obtain ⟨id, name, req, hask⟩ := asked_of_run hr₀ hc (by rw [hp]; rfl)
    have hask := hask.mono hpast
    have hout {o : Out M} (ho : o ∈ outs ta) : o ∈ outs tr := by
      rw [htr, outs_append]
      exact List.mem_append_left _ ho
    cases hrep : r.pre.replies c with
    | sent a =>
      obtain ⟨site, msg, hrepl, hmc⟩ := carried_of_run hr₀ hrep
      rw [hrep] at hrecv
      cases hrecv
      obtain ⟨r', hm', ho'⟩ := mem_outs.1 hrepl
      obtain ⟨ta', tb', htr'⟩ := List.append_of_mem (hpast r' hm')
      exact verdict_of_replied hr htr' ho' hmc hask
    | closed =>
      obtain ⟨msg, hdrop, hmc⟩ := dropped_of_closed hr₀ hrep
      rw [hrep] at hrecv
      cases hrecv
      exact .lost hask (hout hdrop) hmc
    | unborn | «open» =>
      rw [hrep] at hrecv
      cases hrecv

end

end

/-- What the response to the call `c` tells, when its handler tells errors with
`default_srv_error_response`. -/
inductive Told (tr : List (Rec (HyperServerProc M) (Ev M) (Out M))) (c : Nat) : Response → Prop
  | own {r : Rec (HyperServerProc M) (Ev M) (Out M)} {res : Response} : r ∈ tr →
      r.ev = .processed c (.httpResp res) → Told tr c res
  | answered {id id' : Nat} {name : String} {req data : M} {handler : SrvRespHandler M}
      {res : Response} : Asked tr c id name req handler → Dispatched (outs tr) id' c →
      .took (.response ⟨id', some data⟩) ∈ outs tr → handler (.ok data) = .ok res → Told tr c res
  | accepted {desc : String} {err : ErrorMsg M} {res : Response} : .took (.error err) ∈ outs tr →
      Dispatched (outs tr) err.id c → err.err = .noError desc → res.status = 202 → Told tr c res
  | unreachable {name : String} {res : Response} :
      (Refused tr c name ∨ ∃ err, .took (.error err) ∈ outs tr ∧ Dispatched (outs tr) err.id c ∧
        err.err = .unableToReachService name) →
      res.status = 503 → res.body = ["Can't reach service"] → Told tr c res
  | timedOut {res : Response} :
      (TimedOut tr c ∨ ∃ err name ms, .took (.error err) ∈ outs tr ∧
        Dispatched (outs tr) err.id c ∧ err.err = .timeout name ms) →
      res.status = 504 → res.body = [] → Told tr c res
  | protocolError {desc : String} {err : ErrorMsg M} {res : Response} :
      .took (.error err) ∈ outs tr → Dispatched (outs tr) err.id c →
      err.err = .protocolError desc → res.status = 502 → res.body = [] → Told tr c res
  | lost {msg : RequestMsg M} {res : Response} : .dropped msg ∈ outs tr → msg.responseQueue = c →
      res.status = 503 → res.body = ["Can't handle your request for now"] → Told tr c res

/-- The call is answered before its timer runs out. -/
theorem inTime_answered : ∃ q, (serverMachine Nat plainHttp .default).exec plainServer
      (called "svc" ++ [.recvHttp (some 5), .sent, .internal (.response ⟨1, some 9⟩), .recv,
        .callAnswered 0]) = some q ∧
      Verdict .default q.1 q.2.settings.serviceTimeout 0 (echo (.ok 9)) := by
  refine ⟨_, (Option.some_get rfl).symm, calls_answered (Machine.run_get (init_server _ _) rfl) ?_⟩
  have hlast : .completed 0 (echo (.ok 9)) ∈ (countRes (echo (.ok 9)) ++
      [.completed 0 (echo (.ok 9))] : List (Out Nat)) := List.mem_append_right _ List.mem_cons_self
  exact mem_outs.2 ⟨_, List.mem_of_getElem? (i := 13) rfl, hlast⟩

/-- The call times out. -/
def timesOut : List (Ev Nat) :=
  called "svc" ++ [.recvHttp (some 5), .sent, .elapse 1, .pull 1, .callAnswered 0]

end Server
