import ProsaHyper.Lib.Link
import ProsaHyper.Lib.Potential

/-!
# Budgets

A budget is a potential that pays for the messages its machine sends as well. Two linked machines
whose budgets agree, so that a message costs its sender more than it brings to its receiver, have a
potential together: messages do not go round between them for ever.

* `Budget.linked`: the potential of two linked machines. What is on the wire is paid for.
-/

set_option autoImplicit false

/-- A potential that pays `price a` for a message `a`. -/
structure Budget {σ ε ο ρ α β : Type} (S : Machine σ ε ο) (p : Port ε ο ρ α β) (price : α → Nat)
    where
  own : ε → Bool
  ready : σ → ε → Bool := fun _ _ => true
  level : σ → Nat
  gain : ε → Nat
  own_gain : ∀ e, own e = true → gain e = 0
  pays : ∀ s e s' os, S.step s e = some (s', os) →
    level s' + tally price (os.filterMap p.emit) + (own e).toNat ≤ level s + gain e

theorem tally_eraseIdx {α : Type} {f : α → Nat} {l : List α} {k : Nat} {a : α}
    (h : l[k]? = some a) : tally f (l.eraseIdx k) + f a = tally f l := by
  induction l generalizing k with
  | nil => cases h
  | cons b l ih =>
    cases k with
    | zero =>
      cases h
      exact Nat.add_comm _ _
    | succ k =>
      have hl := ih (List.getElem?_cons_succ ▸ h)
      rw [List.eraseIdx_cons_succ, tally_cons, tally_cons]
      omega

section
variable {σ ε ο σ' ε' ο' ρ ρ' α β : Type}

/-- The own steps of two linked machines: theirs, and those of the wire. -/
def LinkEv.own (f : ε → Bool) (g : ε' → Bool) : LinkEv ε ε' ρ ρ' → Bool
  | .left e => f e
  | .right e => g e
  | .readLeft _ _ | .readRight _ _ => true

/-- An own step of a linked machine is held up as its own, and the wire is not. -/
def LinkEv.ready (f : σ → ε → Bool) (g : σ' → ε' → Bool) (s : Linked σ σ' α β) :
    LinkEv ε ε' ρ ρ' → Bool
  | .left e => f s.left e
  | .right e => g s.right e
  | .readLeft _ _ | .readRight _ _ => true

/-- What the rest of the world brings to two linked machines. -/
def LinkEv.gain (f : ε → Nat) (g : ε' → Nat) : LinkEv ε ε' ρ ρ' → Nat
  | .left e => f e
  | .right e => g e
  | .readLeft _ _ | .readRight _ _ => 0

namespace Budget

variable {A : Machine σ ε ο} {B : Machine σ' ε' ο'} {p : Port ε ο ρ α β} {q : Port ε' ο' ρ' β α}
  {price : α → Nat} {price' : β → Nat} (P : Budget A p price) (Q : Budget B q price')

/-- What is left to two linked machines, and on the wire. -/
def total (s : Linked σ σ' α β) : Nat :=
  P.level s.left + Q.level s.right + tally price s.toRight + tally price' s.toLeft

/-- A message that is read leaves the wire with what it was paid for. -/
theorem total_step (hleft : ∀ d b, P.gain (p.read d b) < price' b)
    (hright : ∀ d a, Q.gain (q.read d a) < price a) {s s' : Linked σ σ' α β}
    {e : LinkEv ε ε' ρ ρ'} {os : List (ο ⊕ ο')} (h : (link A B p q).step s e = some (s', os)) :
    P.total Q s' + (e.own P.own Q.own).toNat ≤ P.total Q s + e.gain P.gain Q.gain := by
  cases Link.moves_of_step h with
  | left _ hst =>
    have hpays := P.pays _ _ _ _ hst
    simp only [total, tally_append, LinkEv.own, LinkEv.gain]
    omega
  | right _ hst =>
    have hpays := Q.pays _ _ _ _ hst
    simp only [total, tally_append, LinkEv.own, LinkEv.gain]
    omega
  | @readLeft d _ b _ _ hb hst =>
    have hpays := P.pays _ _ _ _ hst
    have herase := tally_eraseIdx (f := price') hb
    have hread := hleft d b
    simp only [total, tally_append, LinkEv.own, LinkEv.gain, Bool.toNat_true]
    omega
  | @readRight d _ a _ _ ha hst =>
    have hpays := Q.pays _ _ _ _ hst
    have herase := tally_eraseIdx (f := price) ha
    have hread := hright d a
    simp only [total, tally_append, LinkEv.own, LinkEv.gain, Bool.toNat_true]
    omega

theorem gain_of_own {e : LinkEv ε ε' ρ ρ'} (he : e.own P.own Q.own = true) :
    e.gain P.gain Q.gain = 0 := by
  cases e with
  | left e => exact P.own_gain e he
  | right e => exact Q.own_gain e he
  | readLeft | readRight => rfl

/-- **The potential of two linked machines.** -/
def linked (hleft : ∀ d b, P.gain (p.read d b) < price' b)
    (hright : ∀ d a, Q.gain (q.read d a) < price a) : Potential (link A B p q) where
  own := LinkEv.own P.own Q.own
  ready := LinkEv.ready P.ready Q.ready
  level := P.total Q
  gain := LinkEv.gain P.gain Q.gain
  spend s e s' os h he := by
    have hstep := P.total_step Q hleft hright h
    rw [he, P.gain_of_own Q he, Bool.toNat_true] at hstep
    exact hstep
  bring s e s' os h _ :=
    Nat.le_trans (Nat.le_add_right _ _) (P.total_step Q hleft hright h)

end Budget

end
