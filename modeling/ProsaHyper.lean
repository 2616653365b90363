import ProsaHyper.Lib.Run
import ProsaHyper.Lib.Potential
import ProsaHyper.Lib.Protocol
import ProsaHyper.Lib.Link
import ProsaHyper.Lib.Depot
import ProsaHyper.Lib.Budget
import ProsaHyper.Lib.Custody
import ProsaHyper.Lib.Pool
import ProsaHyper.Lib.Chan
import ProsaHyper.Prosa.Msg
import ProsaHyper.Prosa.Bus
import ProsaHyper.Prosa.Io
import ProsaHyper.Http
import ProsaHyper.Prosa.Pending
import ProsaHyper.Client.Socket
import ProsaHyper.Client.Exit
import ProsaHyper.Client.Http1
import ProsaHyper.Client.H2
import ProsaHyper.Client.Step
import ProsaHyper.Client.Proc
import ProsaHyper.Client.Proof.Cases
import ProsaHyper.Client.Proof.Balance
import ProsaHyper.Client.Proof.Runs
import ProsaHyper.Client.Proof.Answered
import ProsaHyper.Client.Proof.Retire
import ProsaHyper.Client.Proof.Order
import ProsaHyper.Client.Proof.Agree
import ProsaHyper.Client.Proof.Tasks
import ProsaHyper.Client.Proof.Body
import ProsaHyper.Client.Proof.Pool
import ProsaHyper.Client.Proof.Sessions
import ProsaHyper.Client.Proof.Ids
import ProsaHyper.Client.Proof.Timers
import ProsaHyper.Client.Proof.Clean
import ProsaHyper.Client.Proof.Ready
import ProsaHyper.Client.Proof.Final
import ProsaHyper.Client.Proof.Terminate
import ProsaHyper.Client.Proof.Books
import ProsaHyper.Client.Proof.Ending
import ProsaHyper.Client.Proof.Drain
import ProsaHyper.Client.Proof.Life
import ProsaHyper.Client.Proof.Source
import ProsaHyper.Client.Proof.Meters
import ProsaHyper.Client.Proof.Cause
import ProsaHyper.Client.Proof.Recover
import ProsaHyper.Server.Adaptor
import ProsaHyper.Server.Service
import ProsaHyper.Server.Proc
import ProsaHyper.Server.Proof.Cases
import ProsaHyper.Server.Proof.Balance
import ProsaHyper.Server.Proof.Stranded
import ProsaHyper.Server.Proof.Metrics
import ProsaHyper.Server.Proof.Listener
import ProsaHyper.Server.Proof.Terminate
import ProsaHyper.Server.Proof.Origin
import ProsaHyper.Server.Proof.Contained
import ProsaHyper.Server.Proof.Faults
import ProsaHyper.Server.Proof.Correlated
import ProsaHyper.Server.Proof.Blocked
import ProsaHyper.Server.Proof.Drain
import ProsaHyper.Server.Proof.Life
import ProsaHyper.Server.Proof.Routing
import ProsaHyper.Server.Proof.Verdict
import ProsaHyper.Server.Proof.Order
import ProsaHyper.Server.Proof.Meters
import ProsaHyper.Server.Proof.Cause
import ProsaHyper.AtMostOnce
import ProsaHyper.Gateway
import ProsaHyper.Rest
import ProsaHyper.Terminate
