import ProsaHyper.Server.Proof.Stranded

/-!
# The counter of the server

`prosa_hyper_srv_count` is incremented in each branch of `process_call` on its own: the branch of a
service request skips the errors of its handler, and the version is that of the response object.

* `countStep_of_step`: the call a step completes, and how it counts it.
* `calls_counted_iff`: in a run every completed call is counted once, under its own labels, iff no
  handler answered with an error and no response has another version than its connection.
-/

set_option autoImplicit false

namespace Server

open Prosa Http

variable {M : Type}

/-- The version of the connection that the call `c` came on. -/
def callVersion (s : HyperServerProc M) (c : Nat) : Option String :=
  (s.calls[c]?.bind fun call => s.conns[call.conn]?).map Conn.version

/-- The labels of an increment of the counter. -/
def Out.count? : Out M → Option (Nat × Option String)
  | .count code version => some (code, version)
  | _ => none

/-- The call that is completed: the version of its connection, and what it returned. -/
def Out.completed? (s : HyperServerProc M) :
    Out M → Option (Option String × Except HttpError Response)
  | .completed c res => some (callVersion s c, res)
  | _ => none

section
variable (r : Rec (HyperServerProc M) (Ev M) (Out M))
  (tr : List (Rec (HyperServerProc M) (Ev M) (Out M)))

def counted : List (Nat × Option String) := r.out.filterMap Out.count?

def completed : List (Option String × Except HttpError Response) :=
  r.out.filterMap (Out.completed? r.pre)

/-- The increments of the counter in a run. -/
def increments : List (Nat × Option String) := tr.flatMap counted

/-- The calls completed in a run. -/
def completions : List (Option String × Except HttpError Response) := tr.flatMap completed

end

/-- An increment is the one of a completed call: if the call returned a response, the labels are the
status code of this response and the version of the connection. -/
def Carries (call : Option String × Except HttpError Response) (labels : Nat × Option String) :
    Prop :=
  ∀ res, call.2 = .ok res → labels = (res.status, call.1)

/-- A response of this version does not have the version of the connection of the call `c`. -/
def mislabels (s : HyperServerProc M) (c : Nat) (version : Version) : Bool :=
  some (hyperVersionStr version) != callVersion s c

/-- The version of the response that the adaptor gives to a service request: its handler's for data
or an error, else its builder's. `none`: the adaptor gives an error. -/
def givenVersion (adaptor : HyperServerAdaptor) (handler : SrvRespHandler M) :
    Option (InternalMsg M) → Option Version
  | some (.response ⟨_, some data⟩) => (handler (.ok data)).toOption.map Response.version
  | some (.error err) => (handler (.error err)).toOption.map Response.version
  | some _ => (adaptor.responseBuilder 500).toOption.map Response.version
  | none => (adaptor.responseBuilder 503).toOption.map Response.version

/-- `wait_intern_resp` passes on what the adaptor gives. -/
theorem version_waitInternResp (adaptor : HyperServerAdaptor) (handler : SrvRespHandler M)
    (m : Option (InternalMsg M)) :
    (waitInternResp adaptor handler m).toOption.map Response.version =
      givenVersion adaptor handler m := by
  cases m with
  | none => exact Builder.body_version _ _
  | some a =>
    cases a with
    | response msg =>
      obtain ⟨id, data⟩ := msg
      cases data with
      | some => rfl
      | none => exact Builder.body_version _ _
    | error => rfl
    | _ => exact Builder.body_version _ _

/-- The adaptor gives the call a response of another version than the connection, or, once the call
has made a service request, an error. -/
def miscounts (adaptor : HyperServerAdaptor) (s : HyperServerProc M) : Ev M → Bool
  | .processed c (.httpResp res) => mislabels s c res.version
  | .callAnswered c =>
    match s.calls[c]?.map Call.pc, (s.replies c).recv with
    | some (.waiting handler), some m => (givenVersion adaptor handler m).elim true (mislabels s c)
    | _, _ => false
  | _ => false

/-- How a step counts the call it completes. -/
inductive CountStep (adaptor : HyperServerAdaptor) (r : Rec (HyperServerProc M) (Ev M) (Out M)) :
    Prop
  | none : completed r = [] → counted r = [] → miscounts adaptor r.pre r.ev = false →
      CountStep adaptor r
  | response {c : Nat} {res : Response} : completed r = [(callVersion r.pre c, .ok res)] →
      counted r = [(res.status, some (hyperVersionStr res.version))] →
      miscounts adaptor r.pre r.ev = mislabels r.pre c res.version → CountStep adaptor r
  | httpErr {c : Nat} {err : HttpError} : completed r = [(callVersion r.pre c, .error err)] →
      counted r = [(503, Option.none)] → miscounts adaptor r.pre r.ev = false → CountStep adaptor r
  | handlerErr {c : Nat} {err : HttpError} : completed r = [(callVersion r.pre c, .error err)] →
      counted r = [] → miscounts adaptor r.pre r.ev = true → CountStep adaptor r

section
variable {urlIsSsl : Url → Bool} {adaptor : HyperServerAdaptor} {s s' : HyperServerProc M}
  {e : Ev M} {os : List (Out M)} {tr : List (Rec (HyperServerProc M) (Ev M) (Out M))}

/-- `process_http_request` returned. -/
theorem countStep_processed {c : Nat} {resp : HyperResp M}
    (h : s.onProcessed c resp = some (s', os)) :
    CountStep adaptor ⟨s, .processed c resp, os, s'⟩ := by
  unfold HyperServerProc.onProcessed at h
  split at h
  · cases h
  · split at h
    · cases resp with
      | srvReq => cases h; exact .none rfl rfl rfl
      | httpResp res => cases h; exact .response rfl rfl rfl
      | httpErr err => cases h; exact .httpErr rfl rfl rfl
    · cases h

/-- `wait_intern_resp` returned. -/
theorem countStep_answered {c : Nat} (h : s.onCallAnswered adaptor c = some (s', os)) :
    CountStep adaptor ⟨s, .callAnswered c, os, s'⟩ := by
  unfold HyperServerProc.onCallAnswered at h
  split at h
  · cases h
  · rename_i call hc
    split at h
    · rename_i handler hp
      obtain ⟨m, hm, he⟩ := Option.map_eq_some_iff.1 h
      cases he
      have hgiven := version_waitInternResp adaptor handler m
      cases hres : waitInternResp adaptor handler m with
      | ok res =>
        rw [hres] at hgiven
        exact .response rfl rfl (by simp [miscounts, hc, hp, hm, ← hgiven, Except.toOption])
      | error err =>
        rw [hres] at hgiven
        exact .handlerErr rfl rfl (by simp [miscounts, hc, hp, hm, ← hgiven, Except.toOption])
    · cases h

/-- No other step completes a call or counts one. -/
theorem uncounted_of_step (h : s.step urlIsSsl adaptor e = some (s', os))
    (hp : ∀ c resp, e ≠ .processed c resp) (ha : ∀ c, e ≠ .callAnswered c) :
    ∀ o ∈ os, o.count? = none ∧ ∀ t, o.completed? t = none := by
  have dropped {msgs : List (RequestMsg M)} :
      ∀ o ∈ msgs.map Out.dropped, o.count? = none ∧ ∀ t, o.completed? t = none := by
    intro o ho
    obtain ⟨msg, -, rfl⟩ := List.mem_map.1 ho
    exact ⟨rfl, fun _ => rfl⟩
  cases moves_of_step h with
  | processed | opened => exact absurd rfl (hp _ _)
  | callAnswered => exact absurd rfl (ha _)
  | startFailed | bindFailed | sendFailed | acceptFailed | procRemoveFailed => exact dropped
  | recvPanic | procRemoved =>
    refine List.forall_mem_cons.2 ⟨⟨rfl, fun _ => rfl⟩, dropped⟩
  | conn _ hs =>
    intro o ho
    obtain ⟨delta, version, rfl⟩ := hs o ho
    exact ⟨rfl, fun _ => rfl⟩
  | _ => simp [Out.count?, Out.completed?]

theorem countStep_of_step (h : s.step urlIsSsl adaptor e = some (s', os)) :
    CountStep adaptor ⟨s, e, os, s'⟩ := by
  cases e with
  | processed c resp => exact countStep_processed h
  | callAnswered c => exact countStep_answered h
  | _ =>
    have hno := uncounted_of_step h (by simp) (by simp)
    refine .none ?_ ?_ rfl
    · exact List.filterMap_eq_nil_iff.2 fun o ho => (hno o ho).2 s
    · exact List.filterMap_eq_nil_iff.2 fun o ho => (hno o ho).1

/-- A step counts the call it completes under its own labels iff it does not miscount. -/
theorem CountStep.carries_iff {r : Rec (HyperServerProc M) (Ev M) (Out M)}
    (h : CountStep adaptor r) : (counted r).length ≤ (completed r).length ∧
      (List.Forall₂ Carries (completed r) (counted r) ↔ miscounts adaptor r.pre r.ev = false) := by
  cases h with
  | none hcall hcount hm => simp [hcall, hcount, hm]
  | response hcall hcount hm =>
    rw [hcall, hcount, hm]
    simp [Carries, mislabels]
  | httpErr hcall hcount hm =>
    rw [hcall, hcount, hm]
    simp [Carries]
  | handlerErr hcall hcount hm => simp [hcall, hcount, hm]

/-- **The counter accounts for every call** of a run, once and under its own labels, iff the adaptor
answers no service request with an error, and no call with a response of another version than its
connection. -/
theorem calls_counted_iff (hr : (serverMachine M urlIsSsl adaptor).Run tr s) :
    List.Forall₂ Carries (completions tr) (increments tr) ↔
      Machine.Along (fun s e => miscounts adaptor s e = false) tr := by
  have step : ∀ r ∈ tr, CountStep adaptor r := by
    intro r hm
    obtain ⟨-, hst⟩ := hr.step_of_mem hm
    exact countStep_of_step hst
  rw [completions, increments, forall₂_flatMap_iff fun r hm => (step r hm).carries_iff.1]
  constructor
  · intro h r hm
    exact (step r hm).carries_iff.2.1 (h r hm)
  · intro h r hm
    exact (step r hm).carries_iff.2.2 (h r hm)

end

/-- A call over HTTP/2 that the adaptor answers itself, with a response of its builder. -/
def direct : List (Ev Nat) :=
  [.started (.ok ()), .bound (.ok ()), .accept (.ok ()), .handshaken 0 (.ok (some H2)), .call 0,
    .processed 0 (.httpResp ⟨404, .http11, [("server", productVersionHeader)], ["Not Found"]⟩)]

/-- A service request that is answered, and whose handler fails. -/
def handlerFails : List (Ev Nat) :=
  [.started (.ok ()), .bound (.ok ()), .internal (.service [("svc", 5)]), .recv, .accept (.ok ()),
    .handshaken 0 (.ok none), .call 0,
    .processed 0 (.srvReq "svc" 7 fun _ => .error (.http "invalid header value")), .callSent 0,
    .recvHttp (some 5), .sent, .internal (.response ⟨1, some 8⟩), .recv, .callAnswered 0]

/-- The first call is counted as one over HTTP/1.1, the second is not counted. -/
theorem direct_mislabelled : ∃ q q',
    (serverMachine Nat plainHttp .default).exec plainServer direct = some q ∧
      (serverMachine Nat plainHttp .default).Run q.1 q.2 ∧
      ¬ List.Forall₂ Carries (completions q.1) (increments q.1) ∧
      increments q.1 = [(404, some "HTTP/1.1")] ∧ q.2.conns = [⟨.serving, true⟩] ∧
      (serverMachine Nat plainHttp .default).exec plainServer handlerFails = some q' ∧
      (serverMachine Nat plainHttp .default).Run q'.1 q'.2 ∧
      ¬ List.Forall₂ Carries (completions q'.1) (increments q'.1) ∧
      (completions q'.1).length = 1 ∧ increments q'.1 = [] := by
  refine ⟨_, _, (Option.some_get rfl).symm, Machine.run_get (init_server _ _) rfl, fun h => ?_, rfl,
    rfl, (Option.some_get rfl).symm, Machine.run_get (init_server _ _) rfl, fun h => ?_, rfl, rfl⟩
  · cases h with
    | cons hcarries =>
      have hlabels : (404, some "HTTP/1.1") = (404, some "HTTP/2") := hcarries _ rfl
      simp at hlabels
  · have hlength := h.length_eq
    cases hlength

/-- A service request over HTTP/1 is answered with 200. -/
theorem answered_counted : ∃ q, (serverMachine Nat plainHttp .default).exec plainServer
      (called "svc" ++ [.recvHttp (some 5), .sent, .internal (.response ⟨1, some 8⟩), .recv,
        .callAnswered 0]) = some q ∧
      List.Forall₂ Carries (completions q.1) (increments q.1) ∧
      increments q.1 = [(200, some "HTTP/1.1")] := by
  refine ⟨_, (Option.some_get rfl).symm,
    (calls_counted_iff (Machine.run_get (init_server _ _) rfl)).2 ?_, rfl⟩
  exact Machine.along_of_none rfl

end Server
