import ProsaHyper.Lib.Run

/-!
# Custody of tokens

A machine has custody of tokens when its outputs say which tokens it takes, settles and loses, and
every step balances: what is held after it, with what the step settled and lost, is what was held
before, with what the step took. Tokens are counted, so a token that is held twice or settled
twice shows.

* `Custody.balance`: the same over a whole run.
* `Custody.settled_once_iff`, `Custody.all_settled_iff`: a token taken once and held no more was
  settled exactly once iff it was never lost; the same for all tokens.
-/

set_option autoImplicit false

/-- What the outputs do to tokens, what a state holds, and the balance of every step. -/
structure Custody {σ ε ο : Type} (S : Machine σ ε ο) (τ : Type) where
  held : σ → τ → Nat
  taken : τ → ο → Nat
  settled : τ → ο → Nat
  lost : τ → ο → Nat
  held_init : ∀ s, S.init s → ∀ t, held s t = 0
  held_step : ∀ s e s' os, S.step s e = some (s', os) → ∀ t,
    held s' t + tally (settled t) os + tally (lost t) os = held s t + tally (taken t) os

namespace Custody

variable {σ ε ο τ : Type} {S : Machine σ ε ο} (C : Custody S τ) {tr : List (Rec σ ε ο)} {s : σ}

/-- **Balance of a run**: every token taken is held, settled or lost. -/
theorem balance (hr : S.Run tr s) (t : τ) :
    C.held s t + tally (C.settled t) (outs tr) + tally (C.lost t) (outs tr) =
      tally (C.taken t) (outs tr) := by
  induction hr with
  | start hi => simp [C.held_init _ hi]
  | next hr hst ih =>
    have := C.held_step _ _ _ _ hst t
    simp only [outs_append, outs_single, tally_append]
    omega

theorem settled_le (hr : S.Run tr s) (t : τ) :
    tally (C.settled t) (outs tr) ≤ tally (C.taken t) (outs tr) := by
  have := C.balance hr t; omega

theorem lost_le (hr : S.Run tr s) (t : τ) :
    tally (C.lost t) (outs tr) ≤ tally (C.taken t) (outs tr) := by
  have := C.balance hr t; omega

/-- A token taken once, and held no more, was settled exactly once iff it was never lost. -/
theorem settled_once_iff (hr : S.Run tr s) {t : τ} (h1 : tally (C.taken t) (outs tr) = 1)
    (h0 : C.held s t = 0) :
    tally (C.settled t) (outs tr) = 1 ↔ tally (C.lost t) (outs tr) = 0 := by
  have := C.balance hr t; omega

/-- With no token held and none taken twice, all were settled exactly once iff none was lost. -/
theorem all_settled_iff (hr : S.Run tr s) (h0 : ∀ t, C.held s t = 0)
    (h1 : ∀ t, tally (C.taken t) (outs tr) ≤ 1) :
    (∀ t, 0 < tally (C.taken t) (outs tr) → tally (C.settled t) (outs tr) = 1) ↔
      ∀ t, tally (C.lost t) (outs tr) = 0 := by
  constructor
  · intro h t
    by_cases ht : 0 < tally (C.taken t) (outs tr)
    · exact (C.settled_once_iff hr (Nat.le_antisymm (h1 t) ht) (h0 t)).1 (h t ht)
    · have := C.balance hr t
      omega
  · intro h t ht
    exact (C.settled_once_iff hr (Nat.le_antisymm (h1 t) ht) (h0 t)).2 (h t)

/-- A token taken at most once is settled or lost, not both. -/
theorem settled_or_lost (hr : S.Run tr s) {t : τ} (h1 : tally (C.taken t) (outs tr) ≤ 1)
    (hl : 0 < tally (C.lost t) (outs tr)) : tally (C.settled t) (outs tr) = 0 := by
  have := C.balance hr t; omega

end Custody
