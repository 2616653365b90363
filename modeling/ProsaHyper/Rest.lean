import ProsaHyper.Client.Proof.Recover
import ProsaHyper.Gateway
import ProsaHyper.Lib.Budget
import ProsaHyper.Server.Proof.Drain

/-!
# The gateway comes to rest

A call lets the server dispatch one request, a request makes the client take some steps and give one
answer, and an answer makes the server take a step. Each is paid for by the one before, so the two
processors do not keep each other busy, whatever the bus does with their messages.

* `traffic`: the potential of the gateway; `gateway_steps_le`: the bound over a whole run.
* `gateway_drains`: left to itself the gateway comes to rest, in any order of its steps and of the
  deliveries. Then the calls that waited have their responses, also those whose request the client
  never answers because an adaptor waits for a body, and no answer is left to deliver.
-/

set_option autoImplicit false

namespace ProsaHyper

open Prosa Http

variable {M Req : Type}

/-- What an answer costs: its delivery, and the step of the server that takes it. -/
def answerPrice : Nat := 2

/-- What a request costs: its delivery, and the steps of a socket, each with an answer. -/
def requestPrice : Nat := 49

/-- Messages that outputs counted by `g` emit. -/
theorem tally_emit_le {ο α : Type} {f : ο → Option α} {g : ο → Nat} (n : Nat)
    (h : ∀ o a, f o = some a → 1 ≤ g o) (os : List ο) :
    tally (fun _ => n) (os.filterMap f) ≤ n * tally g os := by
  induction os with
  | nil => exact Nat.zero_le _
  | cons o os ih =>
    rw [tally_cons, Nat.mul_add]
    cases hf : f o with
    | none =>
      rw [List.filterMap_cons_none hf]
      exact Nat.le_trans ih (Nat.le_add_left _ _)
    | some a =>
      rw [List.filterMap_cons_some hf, tally_cons]
      exact Nat.add_le_add (Nat.le_mul_of_pos_right n (h o a hf)) ih

/-- The server pays for the requests it dispatches with the calls. -/
def serverBudget (urlIsSsl : Url → Bool) (adaptor : Server.HyperServerAdaptor) :
    Budget (Server.serverMachine M urlIsSsl adaptor) (serverPort M) fun _ => requestPrice where
  own := Server.Ev.own
  level s := s.level + requestPrice * s.requests
  gain e := e.gain + requestPrice * e.asks
  own_gain e he := by cases e <;> first | rfl | cases he
  pays s e s' os h := by
    have hlevel := Server.level_step h
    have hrequests := Nat.mul_le_mul_left requestPrice (Server.requests_step h)
    have hprice := tally_emit_le (f := (serverPort M).emit) (g := Server.Out.dispatches)
      requestPrice (fun o a ho => by cases o <;> first | exact Nat.le_refl _ | cases ho) os
    rw [Nat.mul_add, Nat.mul_add] at hrequests
    omega

theorem emits_answers {o : Client.ProcOut M Req} {a : InternalMsg M}
    (h : (clientPort M Req).emit o = some a) : 1 ≤ o.answers := by
  cases o with
  | sock i o =>
    cases o with
    | replied => exact Nat.le_refl 1
    | _ => cases h
  | _ => cases h

/-- The client pays for its answers with its own steps. -/
def clientBudget (M Req : Type) (urlIsSsl : Url → Bool) :
    Budget (Client.clientMachine M Req urlIsSsl) (clientPort M Req) fun _ => answerPrice where
  own := Client.ProcEv.own
  ready := Client.HyperClientProc.ready
  level s := 3 * s.level
  gain e := 3 * e.gain
  own_gain e he := by rw [Client.ProcEv.gain_of_own he]
  pays s e s' os h := by
    have hlevel := Client.proc_level_step h
    have hanswers := Client.proc_answers_step h
    have hprice := tally_emit_le (f := (clientPort M Req).emit) (g := Client.ProcOut.answers)
      answerPrice (fun o a ho => emits_answers ho) os
    simp only [answerPrice] at hprice ⊢
    omega

/-- The own steps of the gateway, and what they are paid with. -/
def traffic (M Req : Type) (urlIsSsl : Url → Bool) (adaptor : Server.HyperServerAdaptor) :
    Potential (gateway M Req urlIsSsl adaptor) :=
  (serverBudget urlIsSsl adaptor).linked (clientBudget M Req urlIsSsl)
    (fun _ _ => Nat.lt_succ_self 1) fun _ _ => Nat.lt_succ_self 48

/-- The events of the two processors, and of the bus between them. -/
abbrev GatewayEv (M Req : Type) := LinkEv (Server.Ev M) (Client.ProcEv M Req) Unit Nat

/-- The processors and the bus do something by themselves. -/
def GatewayEv.own (e : GatewayEv M Req) : Bool := LinkEv.own Server.Ev.own Client.ProcEv.own e

/-- The server is left to itself; the client's backends and its adaptor need not be. -/
def GatewayEv.settles : GatewayEv M Req → Bool
  | .left e => e.own
  | _ => true

/-- What the rest of the world brings to a processor. -/
def GatewayEv.gain (e : GatewayEv M Req) : Nat :=
  LinkEv.gain (fun e => e.gain + requestPrice * e.asks) (fun e => 3 * e.gain) e

section
variable {urlIsSsl : Url → Bool} {adaptor : Server.HyperServerAdaptor}
  {s : Linked (Server.HyperServerProc M) (Client.HyperClientProc M) (RequestMsg M) (InternalMsg M)}
  {tr : List (Rec (Linked (Server.HyperServerProc M) (Client.HyperClientProc M)
      (RequestMsg M) (InternalMsg M)) (GatewayEv M Req) (Server.Out M ⊕ Client.ProcOut M Req))}

theorem client_settings {s₀ : Linked (Server.HyperServerProc M) (Client.HyperClientProc M)
      (RequestMsg M) (InternalMsg M)}
    (hr : ((gateway M Req urlIsSsl adaptor).startAt s₀).Run tr s) :
    s.right.settings = s₀.right.settings := by
  refine hr.state_invariant (I := fun s => s.right.settings = s₀.right.settings)
    (fun s hs => congrArg (·.right.settings) hs) fun s e s' os hs hst => ?_
  rcases Link.right_of_step hst with ⟨-, hsame⟩ | ⟨e', os', -, hst', -⟩
  · rw [hsame, hs]
  · rw [Client.step_settings hst', hs]

/-- **No message storm.** In every run the own steps of the two processors and the deliveries of the
bus are paid for by the calls, the messages of other processors and the ends of connections. -/
theorem gateway_steps_le (hr : (gateway M Req urlIsSsl adaptor).Run tr s) :
    tr.countP (fun r => GatewayEv.own r.ev) + (traffic M Req urlIsSsl adaptor).level s ≤
      15 + 36 * (s.right.settings.backends.length * s.right.settings.minSocket) +
        tally (fun r => GatewayEv.gain r.ev) tr := by
  obtain ⟨⟨left, right, toRight, toLeft⟩, ⟨⟨settings, queues, nextId, hleft⟩, ⟨settings', hright⟩,
      hto, hfrom⟩, hrun, hle⟩ :=
    (traffic M Req urlIsSsl adaptor).amortized_run (fun _ he => Budget.gain_of_own _ _ he) hr
  cases hleft
  cases hright
  cases hto
  cases hfrom
  rw [client_settings hrun]
  refine Nat.le_trans hle (Nat.add_le_add_right ?_ _)
  show 3 + requestPrice * 0 + 3 * (4 + settings'.backends.length * (settings'.minSocket * 12)) ≤
    15 + 36 * (settings'.backends.length * settings'.minSocket)
  rw [← Nat.mul_assoc]
  omega

/-! ## At rest -/

/-- The main queue of the server is never closed. -/
theorem internalRx_open {s : Server.HyperServerProc M}
    {tr : List (Rec (Server.HyperServerProc M) (Server.Ev M) (Server.Out M))}
    (hr : (Server.serverMachine M urlIsSsl adaptor).Run tr s) :
    s.internalRxQueue.rx = true ∧ s.internalRxQueue.cap = 2048 := by
  refine hr.state_invariant
    (I := fun s => s.internalRxQueue.rx = true ∧ s.internalRxQueue.cap = 2048) ?_
    fun s e s' os hs hst => ?_
  · rintro s ⟨settings, queues, nextId, rfl⟩
    exact ⟨rfl, rfl⟩
  · have received {m : InternalMsg M} {q : Chan (InternalMsg M)}
        (hq : s.internalRxQueue.recv = some (m, q)) : q.rx = true ∧ q.cap = 2048 :=
      ⟨(Chan.recv_eq_some hq).2.1.trans hs.1, (Chan.recv_eq_some hq).2.2.2.trans hs.2⟩
    cases Server.moves_of_step hst with
    | internal hq =>
      obtain ⟨-, -, -, hrx, -, hcap⟩ := Chan.send_eq_some hq
      exact ⟨hrx, hcap.trans hs.2⟩
    | recvPanic _ hq | recvStale _ hq | recvData _ hq | recvNoData _ hq | recvError _ hq
    | recvService _ hq | recvShutdown _ hq => exact received hq
    | _ => exact hs

/-- An answer on the bus is delivered to a server that waits in its loop. -/
theorem delivered_of_rests (hr : (gateway M Req urlIsSsl adaptor).Run tr s)
    (hrest : (traffic M Req urlIsSsl adaptor).Rests s) (hb : s.left.internalRxQueue.buf = []) :
    s.toLeft = [] := by
  by_contra hne
  obtain ⟨a, l, hl⟩ := List.exists_cons_of_ne_nil hne
  obtain ⟨hrx, hcap⟩ := internalRx_open (Link.left_of_run hr)
  have hst : (gateway M Req urlIsSsl adaptor).step s (.readLeft () 0) = none :=
    hrest _ ⟨rfl, rfl⟩
  simp [gateway, link, hl, serverPort, Server.serverMachine, Server.HyperServerProc.step, Chan.send,
    hrx, hcap, hb] at hst

/-- With nothing left to the gateway, nothing is left to either processor. -/
theorem processors_of_rests (hrest : (traffic M Req urlIsSsl adaptor).Rests s) :
    (Server.drainage urlIsSsl adaptor).Rests s.left ∧
      (Client.recovery M Req urlIsSsl).Rests s.right := by
  refine ⟨fun e he => ?_, fun e he => ?_⟩
  · have hfree : (serverPort M).free e = true := by
      cases e with
      | internal => cases he.1
      | _ => rfl
    have hst : (gateway M Req urlIsSsl adaptor).step s (.left e) = none := hrest _ he
    simpa only [gateway, link, hfree, if_true, Option.map_eq_none_iff] using hst
  · have hfree : (clientPort M Req).free e = true := by
      cases e with
      | sock i e =>
        cases e with
        | send => cases he.1
        | _ => rfl
      | _ => rfl
    have hst : (gateway M Req urlIsSsl adaptor).step s (.right e) = none := hrest _ he
    simpa only [gateway, link, hfree, if_true, Option.map_eq_none_iff] using hst

/-- A call that waits goes on to wait, or has its response. -/
theorem step_way {s s' : Linked (Server.HyperServerProc M) (Client.HyperClientProc M)
      (RequestMsg M) (InternalMsg M)} {e : GatewayEv M Req}
    {os : List (Server.Out M ⊕ Client.ProcOut M Req)} {c : Nat} (hs : Server.OnItsWay c s.left)
    (he : GatewayEv.settles e = true)
    (h : (gateway M Req urlIsSsl adaptor).step s e = some (s', os)) :
    Server.OnItsWay c s'.left := by
  cases Link.moves_of_step h with
  | left _ hst => exact Server.step_onItsWay hs he hst
  | right | readRight => exact hs
  | @readLeft _ _ b x os _ hst =>
    have hst : s.left.step urlIsSsl adaptor (.internal b) = some (x, os) := hst
    cases Server.moves_of_step hst with
    | internal => exact hs
    | conn he' => cases he'

/-- What the gateway left to itself in `s` comes to in `t`, after the history `tr`. -/
structure GatewayRested (urlIsSsl : Url → Bool)
    (tr : List (Rec (Linked (Server.HyperServerProc M) (Client.HyperClientProc M)
      (RequestMsg M) (InternalMsg M)) (GatewayEv M Req) (Server.Out M ⊕ Client.ProcOut M Req)))
    (s t : Linked (Server.HyperServerProc M) (Client.HyperClientProc M) (RequestMsg M)
      (InternalMsg M)) : Prop where
  server : Server.Rested s.left t.left
  client : Client.PoolRested urlIsSsl (histories tr).client t.right
  delivered : t.left.internalRxQueue.buf = [] → t.toLeft = []

/-- Left to itself after the run `tr`, the gateway comes to rest, whichever of its steps it takes
first and in whichever order the bus delivers. What a rest is does not depend on what the backends
and the adaptor of the client did before it. -/
structure GatewayDrains (urlIsSsl : Url → Bool) (adaptor : Server.HyperServerAdaptor)
    (tr : List (Rec (Linked (Server.HyperServerProc M) (Client.HyperClientProc M)
      (RequestMsg M) (InternalMsg M)) (GatewayEv M Req) (Server.Out M ⊕ Client.ProcOut M Req)))
    (s : Linked (Server.HyperServerProc M) (Client.HyperClientProc M) (RequestMsg M)
      (InternalMsg M)) : Prop where
  bounded : ∀ tr' t, ((gateway M Req urlIsSsl adaptor).startAt s).Run tr' t →
    (∀ r ∈ tr', GatewayEv.own r.ev = true) → tr'.length ≤ (traffic M Req urlIsSsl adaptor).level s
  rests : ∃ tr' t, ((gateway M Req urlIsSsl adaptor).startAt s).Run tr' t ∧
    Machine.Along (traffic M Req urlIsSsl adaptor).Goes tr' ∧
      (traffic M Req urlIsSsl adaptor).Rests t
  rested : ∀ tr' t, ((gateway M Req urlIsSsl adaptor).startAt s).Run tr' t →
    (∀ r ∈ tr', GatewayEv.settles r.ev = true) → (traffic M Req urlIsSsl adaptor).Rests t →
      GatewayRested urlIsSsl (tr ++ tr') s t

/-- **The gateway drains**, after any run. -/
theorem gateway_drains (hr : (gateway M Req urlIsSsl adaptor).Run tr s) :
    GatewayDrains urlIsSsl adaptor tr s where
  bounded _ _ := (traffic M Req urlIsSsl adaptor).bounded
  rests := (traffic M Req urlIsSsl adaptor).comes_to_rest s
  rested tr' t hr' ho hrest := by
    have hrun := hr.append hr'
    obtain ⟨hleft, hright⟩ := processors_of_rests hrest
    refine ⟨Server.rested (Link.left_of_run hrun) hleft fun c call hc hw => ?_,
      Client.pool_of_rests (Link.right_of_run hrun) hright, delivered_of_rests hrun hrest⟩
    exact Machine.Leads.invariant (C := fun e => GatewayEv.settles e = true)
      (I := fun s => Server.OnItsWay c s.left) (fun _ _ _ _ hs he hst => step_way hs he hst)
      ⟨tr', hr', ho⟩ ⟨call, hc, .inl hw⟩

end

/-- A call is dispatched, and its request waits on the bus. -/
def dispatches : List (GatewayEv Nat Nat) :=
  (Server.called "svc").map .left ++ [.left (.recvHttp (some 5)), .left .sent] ++
    (.started (.ok ()) :: Client.registered.map (.sock 0)).map .right

theorem dispatches_own_steps : ∃ q,
    (gateway Nat Nat Server.plainHttp .default).exec plainGateway dispatches = some q ∧
      q.1.countP (fun r => GatewayEv.own r.ev) = 11 ∧ q.2.toRight.length = 1 ∧
      q.1.countP (fun r => GatewayEv.own r.ev) +
        (traffic Nat Nat Server.plainHttp .default).level q.2 ≤
          15 + 36 * (q.2.right.settings.backends.length * q.2.right.settings.minSocket) +
            tally (fun r => GatewayEv.gain r.ev) q.1 :=
  ⟨_, (Option.some_get rfl).symm, rfl, rfl, gateway_steps_le (Machine.run_get init_gateway rfl)⟩

theorem dispatches_drains : ∃ q,
    (gateway Nat Nat Server.plainHttp .default).exec plainGateway dispatches = some q ∧
      q.2.left.calls.map (·.pc.inWait) = [true] ∧
      GatewayDrains Server.plainHttp .default q.1 q.2 :=
  ⟨_, (Option.some_get rfl).symm, rfl, gateway_drains (Machine.run_get init_gateway rfl)⟩

end ProsaHyper
