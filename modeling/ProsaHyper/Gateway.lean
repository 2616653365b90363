import ProsaHyper.Client.Proof.Source
import ProsaHyper.Lib.Link
import ProsaHyper.Server.Proof.Verdict

/-!
# A server and a client on one bus

The server dispatches the requests of its HTTP calls, the client sends them to its backends, and the
bus carries the requests and the answers between them. `gateway` links the two processors: a request
that is dispatched reaches the queue of some socket of the client, an answer the main queue of the
server, each after any delay or never. Other processors send requests to the client too; only the
client answers those of the server.

* `relayed_of_run`: an answer the server takes was made by a socket of the client for the request of
  that very call.
* `calls_through`: what an HTTP call to the server completes with, all the way to the backend.
-/

set_option autoImplicit false

namespace ProsaHyper

open Prosa Http

variable {M Req : Type}

/-- The server on the bus: it sends requests and takes answers. -/
def serverPort (M : Type) :
    Port (Server.Ev M) (Server.Out M) Unit (RequestMsg M) (InternalMsg M) where
  emit
    | .dispatched _ request _ => some request
    | _ => none
  read _ m := .internal m
  free
    | .internal m => m.answers?.isNone
    | _ => true

/-- The client on the bus: its sockets take requests and answer them. -/
def clientPort (M Req : Type) :
    Port (Client.ProcEv M Req) (Client.ProcOut M Req) Nat (InternalMsg M) (RequestMsg M) where
  emit
    | .sock _ (.replied _ msg a) => if msg.responseQueue = Server.serviceQueue then some a else none
    | _ => none
  read i r := .sock i (.send (.request r))
  free
    | .sock _ (.send (.request r)) => r.responseQueue != Server.serviceQueue
    | _ => true

/-- The two processors on one bus. -/
def gateway (M Req : Type) (urlIsSsl : Url → Bool) (adaptor : Server.HyperServerAdaptor) :=
  link (Server.serverMachine M urlIsSsl adaptor) (Client.clientMachine M Req urlIsSsl)
    (serverPort M) (clientPort M Req)

/-- The histories of the two processors. -/
structure Histories (M Req : Type) where
  server : List (Rec (Server.HyperServerProc M) (Server.Ev M) (Server.Out M))
  client : List (Rec (Client.HyperClientProc M) (Client.ProcEv M Req) (Client.ProcOut M Req))

/-- The histories of the two processors in a run of both. -/
def histories (tr : List (Rec (Linked (Server.HyperServerProc M) (Client.HyperClientProc M)
      (RequestMsg M) (InternalMsg M)) (LinkEv (Server.Ev M) (Client.ProcEv M Req) Unit Nat)
      (Server.Out M ⊕ Client.ProcOut M Req))) : Histories M Req :=
  ⟨Link.lefts (serverPort M) tr, Link.rights (clientPort M Req) tr⟩

/-- Socket `i` of the client, now `x`, has the history `own`. -/
structure OwnRun (urlIsSsl : Url → Bool) (h : Histories M Req) (i : Nat)
    (own : List (Rec (Client.Sock M) (Client.Ev M Req) (Client.Out M Req))) (x : Client.Sock M) :
    Prop where
  run : (Client.socketMachine M Req).Run own x
  shown : ∀ r' ∈ own, ∃ r ∈ h.client, (Client.sockets M Req urlIsSsl).Shows i r r'

/-- Socket `i` of the client was at `x` when `e` happened, and answered `msg` with `a`. -/
structure AnsweredBy (urlIsSsl : Url → Bool) (settings : Client.HyperClientSettings)
    (h : Histories M Req) (i : Nat)
    (own : List (Rec (Client.Sock M) (Client.Ev M Req) (Client.Out M Req))) (x : Client.Sock M)
    (e : Client.Ev M Req) (site : Client.Site) (msg : RequestMsg M) (a : InternalMsg M) : Prop
    extends OwnRun urlIsSsl h i own x where
  configured : Client.Configured settings x
  here : ∃ r ∈ h.client, ∃ t, r.ev = .sock i e ∧ r.pre.clientSockets[i]? = some t ∧ t.sock = x ∧
    .sock i (.replied site msg a) ∈ r.out

/-- The call `c` was dispatched as `msg`, and no other request came to the socket with its id. -/
structure Relayed (h : Histories M Req) (c : Nat) (msg : RequestMsg M)
    (own : List (Rec (Client.Sock M) (Client.Ev M Req) (Client.Out M Req))) : Prop where
  dispatched : Server.Dispatched (outs h.server) msg.id c
  accepted : ∀ r, .accepted (.request r) ∈ outs own → r.id = msg.id → r = msg

/-- A queue accepts what is sent on it. -/
theorem send_of_accepted {urlIsSsl : Url → Bool} {h : Histories M Req} {i : Nat}
    {own : List (Rec (Client.Sock M) (Client.Ev M Req) (Client.Out M Req))} {x : Client.Sock M}
    (hown : OwnRun urlIsSsl h i own x) {m : InternalMsg M} (ho : .accepted m ∈ outs own) :
    ∃ r ∈ h.client, r.ev = .sock i (.send m) := by
  obtain ⟨r', hm', ho'⟩ := mem_outs.1 ho
  obtain ⟨r, hm, hlift, -⟩ := hown.shown r' hm'
  have answered {msg : RequestMsg M} {res : Except ServiceError M} :
      (.accepted m : Client.Out M Req) ≠ Client.answerReply msg res := by
    cases res <;> simp [Client.answerReply]
  have hsend : r'.ev = .send m := by
    generalize he : r'.ev = e
    have hst := (hown.run.step_of_mem hm').2
    rw [he] at hst
    cases Client.mem_step hst ho' with
    | accepted => rfl
    | responded _ _ heq => exact absurd heq answered
    | task _ ht =>
      cases ht with
      | responded _ heq => exact absurd heq answered
  refine ⟨r, hm, ?_⟩
  generalize he : r.ev = e at hlift
  cases e with
  | sock j e' =>
    cases hlift
    rw [← hsend]
  | _ => cases hlift

/-- An answer carries the id of the request it answers. -/
theorem answers?_of_answer {own : List (Rec (Client.Sock M) (Client.Ev M Req) (Client.Out M Req))}
    {x : Client.Sock M} {e : Client.Ev M Req} {site : Client.Site} {msg : RequestMsg M}
    {a : InternalMsg M} (h : Client.Answer own x e msg site a) : a.answers? = some msg.id := by
  cases h <;> rfl

/-- An answer is to a request the queue accepted. -/
theorem accepted_of_answer {own : List (Rec (Client.Sock M) (Client.Ev M Req) (Client.Out M Req))}
    {x : Client.Sock M} {e : Client.Ev M Req} {site : Client.Site} {msg : RequestMsg M}
    {a : InternalMsg M} (h : Client.Answer own x e msg site a) :
    ∃ r, .accepted (.request r) ∈ outs own ∧ r.takeData.2 = msg.takeData.2 := by
  have requested {d : M} (h : Client.Requested (outs own) msg d) :
      ∃ r, .accepted (.request r) ∈ outs own ∧ r.takeData.2 = msg.takeData.2 := by
    obtain ⟨r, hacc, -, rfl⟩ := h
    exact ⟨r, hacc, rfl⟩
  cases h with
  | response hres | responseErr hres => exact requested hres.requested
  | timeout hex => exact requested hex.requested
  | srvRequestErr hreq => exact requested hreq
  | noData hacc _ hmsg => exact ⟨_, hacc, by rw [hmsg]; rfl⟩
  | drain hacc => exact ⟨_, hacc, rfl⟩

/-- A socket accepts one request under an identifier. -/
theorem accepted_unique {own : List (Rec (Client.Sock M) (Client.Ev M Req) (Client.Out M Req))}
    {x : Client.Sock M} (hr : (Client.socketMachine M Req).Run own x) {r r' : RequestMsg M}
    (h : .accepted (.request r) ∈ outs own) (h' : .accepted (.request r') ∈ outs own)
    (hid : r.id = r'.id) : r = r' := by
  cases unique_of_tally_le_one (Client.accepted_le hr r'.id) h h' (Client.hit_pos.2 hid)
    (Client.hit_pos.2 rfl)
  rfl

/-! ## What comes of a call -/

/-- What came of the request `msg`, at the socket `x` when `e` happened; the result is what its
sender is told, an error with the data it gives back. Only an exchange gives data, and what was
refused is never sent: a request that is still in the queue when the socket closes goes back with
its data. -/
inductive Outcome (h : Histories M Req)
    (own : List (Rec (Client.Sock M) (Client.Ev M Req) (Client.Out M Req))) (x : Client.Sock M)
    (e : Client.Ev M Req) (msg : RequestMsg M) (req : M) :
    Except (Option M × ServiceError) M → Prop
  | exchanged {adaptor : Client.HyperClientAdaptor M Req} {resp : Except HyperError Response} :
      Client.Resolved own x.self.target.url msg req resp → e.responds adaptor →
      Outcome h own x e msg req ((adaptor.processHttpResponse resp).mapError fun err => (none, err))
  | late : Client.Exchanged own x.self.target.url msg req →
      Outcome h own x e msg req (.error (none, .timeout x.serviceName x.self.httpTimeout))
  | unprepared {adaptor : Client.HyperClientAdaptor M Req} {err : ServiceError} :
      e.prepares adaptor → adaptor.processSrvRequest req x.self.target.url = .error err →
      tally (Client.ProcOut.of (Client.sentOf msg.id)) (outs h.client) = 0 →
      Outcome h own x e msg req (.error (none, err))
  | closed : tally (Client.ProcOut.of (Client.sentOf msg.id)) (outs h.client) = 0 →
      Outcome h own x e msg req (.error (some req, .unableToReachService x.serviceName))

/-- The answer to `msg` that tells `result`. -/
def answer (msg : RequestMsg M) : Except (Option M × ServiceError) M → InternalMsg M
  | .ok data => msg.returnToSender data
  | .error (data, err) => .error ⟨msg.id, data, err⟩

/-- How the call `c` comes to what it completes with, with the client behind the server. -/
inductive Through (urlIsSsl : Url → Bool) (adaptor : Server.HyperServerAdaptor) (ms : Nat)
    (settings : Client.HyperClientSettings) (h : Histories M Req) (c : Nat) :
    Except HttpError Response → Prop
  | own {r : Rec (Server.HyperServerProc M) (Server.Ev M) (Server.Out M)} {res : Response} :
      r ∈ h.server → r.ev = .processed c (.httpResp res) →
      Through urlIsSsl adaptor ms settings h c (.ok res)
  | failed {r : Rec (Server.HyperServerProc M) (Server.Ev M) (Server.Out M)} {err : HttpError} :
      r ∈ h.server → r.ev = .processed c (.httpErr err) →
      Through urlIsSsl adaptor ms settings h c (.error err)
  | timedOut {id : Nat} {name : String} {req : M} {handler : Server.SrvRespHandler M} :
      Server.Asked h.server c id name req handler → Server.TimedOut h.server c →
      Through urlIsSsl adaptor ms settings h c (handler (.error ⟨id, none, .timeout name ms⟩))
  | refused {id : Nat} {name : String} {req : M} {handler : Server.SrvRespHandler M} :
      Server.Asked h.server c id name req handler → Server.Refused h.server c name →
      Through urlIsSsl adaptor ms settings h c
        (handler (.error ⟨id, some req, .unableToReachService name⟩))
  | lost {id : Nat} {name : String} {req : M} {handler : Server.SrvRespHandler M}
      {msg : RequestMsg M} : Server.Asked h.server c id name req handler →
      .dropped msg ∈ outs h.server → msg.responseQueue = c →
      Through urlIsSsl adaptor ms settings h c
        ((adaptor.responseBuilder 503).body ["Can't handle your request for now"])
  | relayed {id id' : Nat} {name : String} {req : M} {handler : Server.SrvRespHandler M} {i : Nat}
      {own : List (Rec (Client.Sock M) (Client.Ev M Req) (Client.Out M Req))} {x : Client.Sock M}
      {e : Client.Ev M Req} {site : Client.Site} {msg : RequestMsg M}
      {result : Except (Option M × ServiceError) M} :
      Server.Asked h.server c id name req handler →
      Relayed h c (RequestMsg.new id' name req Server.serviceQueue) own → msg.id = id' →
      AnsweredBy urlIsSsl settings h i own x e site msg (answer msg result) →
      Outcome h own x e msg req result →
      Through urlIsSsl adaptor ms settings h c
        (handler (result.mapError fun told => ⟨id, told.1, told.2⟩))

section
variable {urlIsSsl : Url → Bool} {adaptor : Server.HyperServerAdaptor}
  {s : Linked (Server.HyperServerProc M) (Client.HyperClientProc M) (RequestMsg M) (InternalMsg M)}
  {tr : List (Rec (Linked (Server.HyperServerProc M) (Client.HyperClientProc M)
      (RequestMsg M) (InternalMsg M)) (LinkEv (Server.Ev M) (Client.ProcEv M Req) Unit Nat)
      (Server.Out M ⊕ Client.ProcOut M Req))}
  (hr : (gateway M Req urlIsSsl adaptor).Run tr s)
include hr

/-- **An answer is relayed**: what the server takes for the request of a call was answered by a
socket of the client that was sent this request. -/
theorem relayed_of_run {c id id' : Nat} {name : String} {req : M}
    {handler : Server.SrvRespHandler M}
    (hask : Server.Asked (histories tr).server c id name req handler)
    (hdisp : Server.Dispatched (outs (histories tr).server) id' c) {m : InternalMsg M}
    (htook : .took m ∈ outs (histories tr).server) (hid : m.answers? = some id') :
    ∃ i own x e site msg, msg.id = id' ∧
      Relayed (histories tr) c (RequestMsg.new id' name req Server.serviceQueue) own ∧
      AnsweredBy urlIsSsl s.right.settings (histories tr) i own x e site msg m ∧
      Client.Answer own x e msg site m := by
  have hserver : (Server.serverMachine M urlIsSsl adaptor).Run (histories tr).server s.left :=
    Link.left_of_run hr
  have hclient : (Client.clientMachine M Req urlIsSsl).Run (histories tr).client s.right :=
    Link.right_of_run hr
  -- the server took it off the bus, where the client had put it
  obtain ⟨r, hm, hev⟩ := (Server.internal_of_run hserver).2 m htook
  have hout : ∃ o ∈ outs (histories tr).client, (clientPort M Req).emit o = some m := by
    rcases Link.left_read hr r hm with hfree | ⟨_, b, he, hb⟩
    · rw [hev, show (serverPort M).free (.internal m) = m.answers?.isNone from rfl, hid] at hfree
      cases hfree
    · rw [hev] at he
      cases he
      exact hb
  obtain ⟨o, ho, hemit⟩ := hout
  obtain ⟨i, site, msg, hq, rfl⟩ : ∃ i site msg, msg.responseQueue = Server.serviceQueue ∧
      o = .sock i (.replied site msg m) := by
    unfold clientPort at hemit
    dsimp only at hemit
    split at hemit
    · split at hemit
      · rename_i hq
        cases hemit
        exact ⟨_, _, _, hq, rfl⟩
      · cases hemit
    · cases hemit
  obtain ⟨rc, hmc, hoc⟩ := mem_outs.1 ho
  obtain ⟨ta, tb, htr⟩ := List.append_of_mem hmc
  obtain ⟨t, e, own, hex⟩ := Client.answers_explained hclient htr hoc
  have hown : OwnRun urlIsSsl (histories tr) i own t.sock := by
    refine ⟨hex.run, fun r' hr' => ?_⟩
    obtain ⟨r, hm, hshow⟩ := hex.shown r' hr'
    refine ⟨r, ?_, hshow⟩
    rw [show (histories tr).client = ta ++ rc :: tb from htr]
    exact List.mem_append_left _ hm
  have hconf : Client.Configured s.right.settings t.sock := by
    rw [Client.settings_of_mem hclient hmc]
    exact hex.configured
  have hmsg : msg.id = id' := by
    have := (answers?_of_answer hex.answer).symm.trans hid
    exact Option.some.inj this
  refine ⟨i, own, t.sock, e, site, msg, hmsg, ⟨hdisp, fun r hacc hrid => ?_⟩,
    ⟨hown, hconf, rc, hmc, t, hex.event, hex.here, rfl, hoc⟩, hex.answer⟩
  -- the request that was answered is the one the server dispatched for the call
  obtain ⟨r₀, hacc₀, heq⟩ := accepted_of_answer hex.answer
  obtain ⟨hid₀, -, hq₀⟩ := RequestMsg.takeData_eq heq
  have hr₀ : r = r₀ := accepted_unique hex.run hacc hacc₀ (by rw [hrid, hid₀, hmsg]; rfl)
  obtain ⟨rs, hms, hes⟩ := send_of_accepted hown hacc₀
  have hsent : ∃ o ∈ outs (histories tr).server, (serverPort M).emit o = some r₀ := by
    rcases Link.right_read hr rs hms with hfree | ⟨_, b, he, hb⟩
    · rw [hes, show (clientPort M Req).free (.sock i (.send (.request r₀))) =
        (r₀.responseQueue != Server.serviceQueue) from rfl, hq₀, hq] at hfree
      cases hfree
    · rw [hes] at he
      cases he
      exact hb
  obtain ⟨o, ho, hemit⟩ := hsent
  obtain ⟨httpMsg, queue, rfl⟩ : ∃ httpMsg queue, o = .dispatched httpMsg r₀ queue := by
    cases o with
    | dispatched httpMsg request queue =>
      cases hemit
      exact ⟨httpMsg, queue, rfl⟩
    | _ => cases hemit
  obtain ⟨httpMsg', request, queue', hmem, hreqid, hc⟩ := hdisp
  have hsame : r₀ = request :=
    Server.request_unique hserver ho hmem (by rw [hreqid, hid₀, hmsg])
  obtain ⟨ra, hma, -, hopen⟩ := hask
  obtain ⟨data, hdata, hrequest⟩ :=
    Server.request_of_opened hserver (mem_outs.2 ⟨ra, hma, hopen⟩) hmem hc
  cases hdata
  rw [hr₀, hsame, hrequest, hreqid]
  rfl


/-- What came of the request of a call, from the answer the server takes. -/
theorem outcome_of_run {c id id' : Nat} {name : String} {req : M}
    {handler : Server.SrvRespHandler M}
    (hask : Server.Asked (histories tr).server c id name req handler)
    (hdisp : Server.Dispatched (outs (histories tr).server) id' c) {m : InternalMsg M}
    (htook : .took m ∈ outs (histories tr).server) (hid : m.answers? = some id') :
    ∃ i own x e site msg result, msg.id = id' ∧
      Relayed (histories tr) c (RequestMsg.new id' name req Server.serviceQueue) own ∧
      AnsweredBy urlIsSsl s.right.settings (histories tr) i own x e site msg (answer msg result) ∧
      Outcome (histories tr) own x e msg req result ∧ m = answer msg result := by
  have hclient : (Client.clientMachine M Req urlIsSsl).Run (histories tr).client s.right :=
    Link.right_of_run hr
  obtain ⟨i, own, x, e, site, msg, hmsg, hrel, hby, hans⟩ := relayed_of_run hr hask hdisp htook hid
  -- the data came with the request of the call
  have hreq {d : M} (h : Client.Requested (outs own) msg d) : d = req := by
    obtain ⟨r, hacc, hd, rfl⟩ := h
    rw [hrel.accepted r hacc hmsg] at hd
    exact (Option.some.inj hd).symm
  have hunsent (hs : site = .noData ∨ site = .drain ∨ site = .srvRequestErr) :
      tally (Client.ProcOut.of (Client.sentOf msg.id)) (outs (histories tr).client) = 0 := by
    obtain ⟨r, hm, t, -, -, -, ho⟩ := hby.here
    exact Client.sent_of_refused hclient (mem_outs.2 ⟨r, hm, ho⟩) hs
  -- the message whose data was taken gives none back
  have taken {d : M} (h : Client.Requested (outs own) msg d) (err : ServiceError) :
      msg.returnErrorToSender none err = answer msg (.error (none, err)) := by
    obtain ⟨r, -, -, rfl⟩ := h
    exact RequestMsg.returnErrorToSender_taken r none err
  suffices h : ∃ result, Outcome (histories tr) own x e msg req result ∧ m = answer msg result by
    obtain ⟨result, hout, rfl⟩ := h
    exact ⟨i, own, x, e, site, msg, result, hmsg, hrel, hby, hout, rfl⟩
  cases hans with
  | @response d d' a resp hres he hok =>
    cases hreq hres.requested
    exact ⟨_, .exchanged hres he, by rw [hok]; rfl⟩
  | @responseErr d a resp err hres he herr =>
    cases hreq hres.requested
    exact ⟨_, .exchanged hres he, by rw [herr]; exact taken hres.requested err⟩
  | timeout hex =>
    cases hreq hex.requested
    exact ⟨_, .late hex, taken hex.requested _⟩
  | srvRequestErr hrequested he herr =>
    cases hreq hrequested
    exact ⟨_, .unprepared he herr (hunsent (.inr (.inr rfl))), taken hrequested _⟩
  | @noData r hacc hd heq =>
    rw [hrel.accepted r hacc (by rw [← hmsg, heq]; rfl)] at hd
    cases hd
  | drain hacc =>
    -- a drained message still has the data of the call
    have hdata : msg.data = some req := by
      rw [hrel.accepted msg hacc hmsg]
      rfl
    refine ⟨_, .closed (hunsent (.inr (.inl rfl))), ?_⟩
    simp [RequestMsg.returnErrorToSender, answer, hdata]

/-- **Calls go through**: in every run of both processors, whatever an HTTP call to the server
completes with was decided by the server, or is its handler on what a socket of the client made of
the very request of the call. -/
theorem calls_through {c : Nat} {res : Except HttpError Response}
    (ho : .completed c res ∈ outs (histories tr).server) :
    Through urlIsSsl adaptor s.left.settings.serviceTimeout s.right.settings (histories tr) c
      res := by
  have hserver : (Server.serverMachine M urlIsSsl adaptor).Run (histories tr).server s.left :=
    Link.left_of_run hr
  cases Server.calls_answered hserver ho with
  | own hm he => exact .own hm he
  | failed hm he => exact .failed hm he
  | timedOut hask htimed => exact .timedOut hask htimed
  | refused hask href => exact .refused hask href
  | lost hask hdrop hc => exact .lost hask hdrop hc
  | answered hask hdisp htook =>
    obtain ⟨i, own, x, e, site, msg, result, hid, hrel, hby, hout, ha⟩ :=
      outcome_of_run hr hask hdisp htook rfl
    cases result with
    | ok data =>
      cases ha
      exact .relayed hask hrel hid hby hout
    | error err => cases ha
  | @reported _ _ _ _ err hask hdisp htook =>
    obtain ⟨i, own, x, e, site, msg, result, hid, hrel, hby, hout, ha⟩ :=
      outcome_of_run hr hask hdisp htook rfl
    cases result with
    | ok data => cases ha
    | error err =>
      cases ha
      exact .relayed hask hrel hid hby hout

end

/-- A server and a client with one backend, with nothing on the bus. -/
def plainGateway : Linked (Server.HyperServerProc Nat) (Client.HyperClientProc Nat) (RequestMsg Nat)
    (InternalMsg Nat) :=
  ⟨Server.plainServer, Client.HyperClientProc.new Client.oneBackend, [], []⟩

theorem init_gateway : (gateway Nat Nat Server.plainHttp .default).init plainGateway :=
  ⟨Server.init_server _ _, Client.init_proc _ _, rfl, rfl⟩

/-- A call is answered by the backend. -/
def callsBackend : List (LinkEv (Server.Ev Nat) (Client.ProcEv Nat Nat) Unit Nat) :=
  (Server.called "svc").map .left ++ [.left (.recvHttp (some 5)), .left .sent] ++
    (.started (.ok ()) :: Client.registered.map (.sock 0)).map .right ++
    [.readRight 0 0, .right (.sock 0 (.recv Client.echo)),
      .right (.sock 0 (.response (.ok ⟨200, .http11, [], []⟩) 1)),
      .right (.sock 0 (.responded Client.echo)), .readLeft () 0, .left .recv,
      .left (.callAnswered 0)]

theorem callsBackend_through : ∃ q,
    (gateway Nat Nat Server.plainHttp .default).exec plainGateway callsBackend = some q ∧
      Through Server.plainHttp .default q.2.left.settings.serviceTimeout q.2.right.settings
        (histories q.1) 0 (Server.echo (.ok 0)) := by
  refine ⟨_, (Option.some_get rfl).symm, calls_through (Machine.run_get init_gateway rfl) ?_⟩
  have hlast : .completed 0 (Server.echo (.ok 0)) ∈ (Server.countRes (Server.echo (.ok 0)) ++
      [.completed 0 (Server.echo (.ok 0))] : List (Server.Out Nat)) :=
    List.mem_append_right _ List.mem_cons_self
  exact mem_outs.2 ⟨_, List.mem_of_getElem? (i := 13) rfl, hlast⟩

end ProsaHyper
