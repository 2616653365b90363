import ProsaHyper.Client.Proof.Sessions
import ProsaHyper.Client.Proof.Terminate
import ProsaHyper.Server.Proof.Terminate

/-!
# The adaptors after `terminate`

Both processors call `terminate` when they take their `Shutdown`, and stop none of their tasks by
it: these finish what they do, and their calls of the adaptor come after `terminate`.
-/

set_option autoImplicit false

namespace ProsaHyper

open Prosa Http

variable {M Req : Type}

/-- The steps after `terminate`, in the run `tr` of a server and the run `tr'` of a client: the
processors start no task any more, and the adaptors are called by the tasks there are. -/
structure CallsAfterTerminate
    (tr : List (Rec (Server.HyperServerProc M) (Server.Ev M) (Server.Out M)))
    (tr' : List (Rec (Client.HyperClientProc M) (Client.ProcEv M Req) (Client.ProcOut M Req))) :
    Prop where
  server : Machine.Since (fun r₀ => .terminate ∈ r₀.out)
    (fun r₀ r => Server.LateStep r₀.post r) tr
  client : Machine.Since (fun r₀ => .terminate ∈ r₀.out)
    (fun r₀ r => Client.LateStep r₀.post r) tr'

/-- **The adaptor calls after `terminate`**, in any run of both processors. -/
theorem calls_after_terminate {urlIsSsl : Url → Bool} {adaptor : Server.HyperServerAdaptor}
    {s : Server.HyperServerProc M} {s' : Client.HyperClientProc M}
    {tr : List (Rec (Server.HyperServerProc M) (Server.Ev M) (Server.Out M))}
    {tr' : List (Rec (Client.HyperClientProc M) (Client.ProcEv M Req) (Client.ProcOut M Req))}
    (hr : (Server.serverMachine M urlIsSsl adaptor).Run tr s)
    (hr' : (Client.clientMachine M Req urlIsSsl).Run tr' s') : CallsAfterTerminate tr tr' :=
  ⟨Server.late_of_run hr, Client.late_of_run hr'⟩

/-- A server has returned, and a client sends a request on its connection. -/
def requestAfter : List (Server.Ev Nat) :=
  [.started (.ok ()), .bound (.ok ()), .accept (.ok ()), .handshaken 0 (.ok none),
    .internal .shutdown, .recv, .procRemoved true, .call 0]

/-- A call is answered, and its task resumed only after the `Shutdown`. -/
def handlerAfter : List (Server.Ev Nat) :=
  Server.called "svc" ++ [.recvHttp (some 5), .sent, .internal (.response ⟨1, some 8⟩), .recv,
    .internal .shutdown, .recv, .callAnswered 0]

/-- A client has taken its `Shutdown`, and the loop of a socket takes a request and its response. -/
def loopAfter : List (Client.ProcEv Nat Nat) :=
  .started (.ok ()) :: Client.registered.map (.sock 0) ++
    [.sock 0 (.send (.request ⟨7, "svc", some 1, 0⟩)), .internal .shutdown, .recv,
      .sock 0 (.recv Client.echo), .sock 0 (.response (.ok ⟨200, .http11, [], []⟩) 1)]

/-- A client has returned, and an exchange over HTTP/2 is started. -/
def taskAfter : List (Client.ProcEv Nat Nat) :=
  .started (.ok ()) :: Client.registeredH2.map (.sock 0) ++
    [.sock 0 (.send (.request ⟨7, "svc", some 1, 0⟩)), .sock 0 (.recv Client.echo),
      .internal .shutdown, .recv, .procRemoved true, .returned,
      .sock 0 (.task 0 (.start Client.echo)),
      .sock 0 (.task 0 (.response (.ok ⟨200, .http2, [], []⟩) 1))]

theorem tasks_call_after_terminate : ∃ q₁ q₂ q₃ q₄,
    (Server.serverMachine Nat Server.plainHttp .default).exec Server.plainServer requestAfter =
        some q₁ ∧ (Server.serverMachine Nat Server.plainHttp .default).Run q₁.1 q₁.2 ∧
      ¬ Server.SilentAfterTerminate q₁.1 ∧
    (Server.serverMachine Nat Server.plainHttp .default).exec Server.plainServer handlerAfter =
        some q₂ ∧ (Server.serverMachine Nat Server.plainHttp .default).Run q₂.1 q₂.2 ∧
      ¬ Server.SilentAfterTerminate q₂.1 ∧
    (Client.clientMachine Nat Nat Client.noSsl).exec (.new Client.oneBackend) loopAfter =
        some q₃ ∧ (Client.clientMachine Nat Nat Client.noSsl).Run q₃.1 q₃.2 ∧
      ¬ Client.SilentAfterTerminate q₃.1 ∧
    (Client.clientMachine Nat Nat Client.allSsl).exec (.new Client.tlsBackend) taskAfter =
        some q₄ ∧ (Client.clientMachine Nat Nat Client.allSsl).Run q₄.1 q₄.2 ∧
      ¬ Client.SilentAfterTerminate q₄.1 := by
  refine ⟨_, _, _, _,
    (Option.some_get rfl).symm, Machine.run_get (Server.init_server _ _) rfl, fun h => ?_,
    (Option.some_get rfl).symm, Machine.run_get (Server.init_server _ _) rfl, fun h => ?_,
    (Option.some_get rfl).symm, Machine.run_get (Client.init_proc _ _) rfl, fun h => ?_,
    (Option.some_get rfl).symm, Machine.run_get (Client.init_proc _ _) rfl, fun h => ?_⟩
  · have hcall := h.at (i := 5) (j := 7) rfl rfl (by decide) (.tail _ (.head _))
    cases hcall
  · have hcall := h.at (i := 14) (j := 15) rfl rfl (by decide) (.tail _ (.head _))
    cases hcall
  · have hcall := h.at (i := 7) (j := 8) rfl rfl (by decide) (.head _)
    cases hcall
  · have hcall := h.at (i := 8) (j := 11) rfl rfl (by decide) (.head _)
    cases hcall

theorem taskAfter_late : ∃ q q',
    (Server.serverMachine Nat Client.allSsl .default).exec Server.plainServer requestAfter =
        some q ∧
      (Client.clientMachine Nat Nat Client.allSsl).exec (.new Client.tlsBackend) taskAfter =
        some q' ∧ CallsAfterTerminate q.1 q'.1 :=
  ⟨_, _, (Option.some_get rfl).symm, (Option.some_get rfl).symm,
    calls_after_terminate (Machine.run_get (Server.init_server _ _) rfl)
      (Machine.run_get (Client.init_proc _ _) rfl)⟩

end ProsaHyper
