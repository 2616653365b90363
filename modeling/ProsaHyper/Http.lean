import ProsaHyper.Prosa.Bus
import ProsaHyper.Prosa.Io

/-!
# HTTP values and errors

The part of `http`, `hyper` and `lib.rs` both processors use: protocol versions and their labels,
responses, and the errors. A body is the list of its frames.
-/

set_option autoImplicit false

namespace Http

open Prosa

/-- The ALPN name of HTTP/2. -/
def H2 : String := "h2"

/-- `PRODUCT_VERSION_HEADER`, on a Unix target. -/
def productVersionHeader : String := "prosa-hyper/0.3.1 (Unix)"

inductive Version
  | http09
  | http10
  | http11
  | http2
  | http3
  deriving DecidableEq, Repr

/-- `hyper_version_str`. -/
def hyperVersionStr : Version → String
  | .http11 => "HTTP/1.1"
  | .http2 => "HTTP/2"
  | .http3 => "HTTP/3"
  | _ => "Unknown"

structure Response where
  status : Nat
  version : Version
  headers : List (String × String)
  body : List String
  deriving DecidableEq, Repr

/-- What a reader of the body is given: each frame, and then the end. -/
def Response.parts (r : Response) : Nat := r.body.length + 1

/-- `hyper::Error`. `canceled`: the request was not sent. -/
inductive HyperError
  | canceled
  | other (desc : String)
  deriving DecidableEq, Repr

/-- `HttpError`. -/
inductive HttpError
  | hyper (e : HyperError)
  | http (desc : String)
  deriving DecidableEq, Repr

/-- `HyperProcError`. -/
inductive HyperProcError
  | io (desc : String)
  | hyper (e : HyperError) (addr : TargetText)
  | internalBus (e : BusError)
  | other (desc : String)
  deriving DecidableEq, Repr

/-- What `internal_run` fails with, a `Box<dyn ProcError>`: `?` boxes the error it meets as it is.
`send`: the `SendError` of a queue, with the message it gives back; `adaptor`: what the adaptor's
`new` failed with. -/
inductive ProcError (M : Type)
  | hyper (e : HyperProcError)
  | bus (e : BusError)
  | io (desc : String)
  | send (m : InternalMsg M)
  | adaptor (desc : String)
  deriving DecidableEq, Repr

end Http
