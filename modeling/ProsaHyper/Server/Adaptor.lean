import ProsaHyper.Http

/-!
# The server adaptor

`server/adaptor.rs` and the types of `lib.rs` an adaptor answers with. What an adaptor answers to a
request and what its handlers do is left open; what the processor asks of it by itself is
`response_builder`.
-/

set_option autoImplicit false

namespace Server

open Prosa Http

variable {M : Type}

/-- `SrvRespHandler`, applied to the adaptor. -/
abbrev SrvRespHandler (M : Type) := Except (ErrorMsg M) M → Except HttpError Response

/-- `HyperResp`. -/
inductive HyperResp (M : Type)
  | srvReq (name : String) (msg : M) (handler : SrvRespHandler M)
  | httpResp (res : Response)
  | httpErr (err : HttpError)

/-- `http::response::Builder`: the response without its body, or the error met. -/
abbrev Builder := Except String Response

/-- `Builder::body`. -/
def Builder.body (b : Builder) (body : List String) : Except HttpError Response :=
  match b with
  | .ok res => .ok { res with body }
  | .error desc => .error (.http desc)

/-- `HyperServerAdaptor`. `status` is the contract of an adaptor that overrides `response_builder`:
what it starts has the status code it was asked for, as what the trait starts has. -/
structure HyperServerAdaptor where
  responseBuilder : Nat → Builder
  status : ∀ code res, responseBuilder code = .ok res → res.status = code

/-- The body `response_builder` has in the trait. A status code has three digits. -/
def defaultResponseBuilder (statusCode : Nat) : Builder :=
  if 100 ≤ statusCode ∧ statusCode < 1000 then
    .ok ⟨statusCode, .http11, [("server", productVersionHeader)], []⟩
  else .error "invalid status code"

/-- An adaptor that keeps the default `response_builder`. -/
def HyperServerAdaptor.default : HyperServerAdaptor where
  responseBuilder := defaultResponseBuilder
  status _ _ h := by
    unfold defaultResponseBuilder at h
    split at h <;> cases h
    rfl

/-- `default_srv_error_response`. -/
def defaultSrvErrorResponse (err : ErrorMsg M) (responseBuilder : Nat → Builder) :
    Except HttpError Response :=
  match err.err with
  | .noError _ => (responseBuilder 202).body []
  | .unableToReachService _ => (responseBuilder 503).body ["Can't reach service"]
  | .timeout _ _ => (responseBuilder 504).body []
  | .protocolError _ => (responseBuilder 502).body []

theorem Builder.body_status {adaptor : HyperServerAdaptor} {code : Nat} {body : List String}
    {res : Response} (h : (adaptor.responseBuilder code).body body = .ok res) :
    res.status = code ∧ res.body = body := by
  unfold Builder.body at h
  split at h
  · rename_i r hr
    have hs := adaptor.status _ _ hr
    cases h
    exact ⟨hs, rfl⟩
  · cases h

theorem Builder.body_version (b : Builder) (body : List String) :
    (b.body body).toOption.map Response.version = b.toOption.map Response.version := by
  cases b with
  | ok => rfl
  | error => rfl

end Server
