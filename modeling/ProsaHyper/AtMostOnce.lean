import ProsaHyper.Client.Proof.Books
import ProsaHyper.Server.Proof.Correlated

/-!
# At most once, on both sides

A call gives rise to at most one request on a service queue, and a request to at most one request to
a backend. Whoever is told `UnableToReachService` by the processors themselves may ask again: what
was refused is never on a queue, and never sent.
-/

set_option autoImplicit false

namespace ProsaHyper

open Prosa Http

variable {M Req : Type}

/-- Nothing is sent twice in the run `tr` of a server and the run `tr'` of a client, and what they
refuse is not sent at all. Other errors that say `UnableToReachService` are passed on: by the server
from a service, by the client from its adaptor, as its answer to an exchange. -/
structure AtMostOnce (tr : List (Rec (Server.HyperServerProc M) (Server.Ev M) (Server.Out M)))
    (tr' : List (Rec (Client.HyperClientProc M) (Client.ProcEv M Req) (Client.ProcOut M Req))) :
    Prop where
  dispatched : ∀ c, tally (Server.dispatchedOf c) (outs tr) ≤ 1
  sent : ∀ id, tally (Client.ProcOut.of (Client.sentOf id)) (outs tr') ≤ 1
  refused : ∀ r ∈ tr, ∀ site msg id data name,
    .replied site msg (.error ⟨id, data, .unableToReachService name⟩) ∈ r.out →
    tally (Server.dispatchedOf msg.responseQueue) (outs tr) = 0 ∨
      ∃ err, .took (.error err) ∈ r.out ∧ err.err = .unableToReachService name
  unsent : ∀ r ∈ tr', ∀ i site msg id data name,
    .sock i (.replied site msg (.error ⟨id, data, .unableToReachService name⟩)) ∈ r.out →
    tally (Client.ProcOut.of (Client.sentOf msg.id)) (outs tr') = 0 ∨
      ∃ e adaptor resp, r.ev = .sock i e ∧ e.responds adaptor ∧
        adaptor.processHttpResponse resp = .error (.unableToReachService name)

/-- **At most once.** -/
theorem sent_at_most_once {urlIsSsl : Url → Bool} {adaptor : Server.HyperServerAdaptor}
    {s : Server.HyperServerProc M} {s' : Client.HyperClientProc M}
    {tr : List (Rec (Server.HyperServerProc M) (Server.Ev M) (Server.Out M))}
    {tr' : List (Rec (Client.HyperClientProc M) (Client.ProcEv M Req) (Client.ProcOut M Req))}
    (hr : (Server.serverMachine M urlIsSsl adaptor).Run tr s)
    (hr' : (Client.clientMachine M Req urlIsSsl).Run tr' s') : AtMostOnce tr tr' where
  dispatched := Server.dispatched_le hr
  sent := Client.sent_total_le hr'
  refused r hm site msg id data name ho := by
    refine (Server.undispatched_of_unable hr hm ho).imp_left fun hn => ?_
    rw [tally_eq_zero]
    intro o hmem
    by_contra hne
    cases o with
    | dispatched msg' request queue =>
      have hc := Server.toCall_pos.1 (Nat.pos_of_ne_zero hne)
      exact hn request.id ⟨msg', request, queue, hmem, rfl, hc⟩
    | _ => exact hne rfl
  unsent r hm i site msg id data name ho := Client.unsent_of_unable hr' hm ho

/-- Request 7 is enqueued behind the shutdown of a socket. -/
def shutBefore : List (Client.ProcEv Nat Nat) :=
  .started (.ok ()) :: Client.registered.map (.sock 0) ++
    [.sock 0 (.send .shutdown), .sock 0 (.send (.request ⟨7, "svc", some 1, 0⟩)),
      .sock 0 (.recv Client.echo), .sock 0 (.procQueueRemoved true), .sock 0 .tryRecv]

/-- A server refuses a call and a client refuses a request. -/
theorem refused_at_most_once : ∃ q q',
    (Server.serverMachine Nat Server.plainHttp .default).exec Server.plainServer
        (Server.called "other" ++ [.recvHttp none]) = some q ∧
      (Client.clientMachine Nat Nat Server.plainHttp).exec
        (Client.HyperClientProc.new Client.oneBackend) shutBefore = some q' ∧
      tally (Server.refusedOf 0) (outs q.1) = 1 ∧
      tally (Client.ProcOut.of (Client.unsentReplyOf 7)) (outs q'.1) = 1 ∧ AtMostOnce q.1 q'.1 :=
  ⟨_, _, (Option.some_get rfl).symm, (Option.some_get rfl).symm, rfl, rfl,
    sent_at_most_once (Machine.run_get (Server.init_server _ _) rfl)
      (Machine.run_get (Client.init_proc _ _) rfl)⟩

end ProsaHyper
