import ProsaHyper.Lib.Run

/-!
# Protocols

A protocol says in which order actions can happen to one token: the place the token starts at, and
the place an action takes it to, if it can happen there. A machine follows it when the actions shown
by its outputs can happen in their order.

* `Protocol.after`: the place after some actions.
* `Protocol.of_run`: each step takes the place of its state before to the one after, so a run does.
-/

set_option autoImplicit false

/-- The places of a token, and the actions that can happen there. -/
structure Protocol (π α : Type) where
  start : π
  act : π → α → Option π

namespace Protocol

variable {π α : Type} (P : Protocol π α)

/-- The place the actions `as` take `p` to, if they can happen in this order. -/
def go (p : π) (as : List α) : Option π := as.foldlM P.act p

/-- The place after the actions `as`. -/
def after (as : List α) : Option π := P.go P.start as

@[simp] theorem go_nil (p : π) : P.go p [] = some p := rfl

@[simp] theorem go_single (p : π) (a : α) : P.go p [a] = P.act p a := by
  simp [go]

theorem go_cons_eq_some {p q : π} {a : α} {as : List α} :
    P.go p (a :: as) = some q ↔ ∃ r, P.act p a = some r ∧ P.go r as = some q := by
  rw [go, List.foldlM_cons]
  exact Option.bind_eq_some_iff

theorem go_append {p q : π} {as bs : List α} (h : P.go p as = some q) :
    P.go p (as ++ bs) = P.go q bs := by
  have hfold : as.foldlM P.act p = some q := h
  rw [go, List.foldlM_append, hfold]
  rfl

/-- **Following a protocol.** Where the actions of a step lead from the place of the state before
to the place of the state after, the actions of a run lead to the place of its state. -/
theorem of_run {σ ε ο : Type} {S : Machine σ ε ο} (place : σ → π) {acts : List ο → List α}
    (hnil : acts [] = []) (happ : ∀ os os', acts (os ++ os') = acts os ++ acts os')
    (h0 : ∀ s, S.init s → place s = P.start)
    (hs : ∀ tr s e s' os, S.Run tr s → S.step s e = some (s', os) →
      P.go (place s) (acts os) = some (place s'))
    {tr : List (Rec σ ε ο)} {s : σ} (hr : S.Run tr s) :
    P.after (acts (outs tr)) = some (place s) := by
  induction hr with
  | start hi => rw [outs_nil, hnil, h0 _ hi]; rfl
  | next hr hst ih =>
    rw [outs_append, outs_single, happ, after, P.go_append ih]
    exact hs _ _ _ _ _ hr hst

end Protocol
