import Mathlib.Algebra.BigOperators.Group.List.Basic
import Mathlib.Algebra.FreeMonoid.Basic
import ProsaHyper.Lib.Run

/-!
# Depots

A depot is a place of a machine that holds something; a step puts something behind it and takes
something from its front. What is held, put and taken are elements of an additive monoid: numbers
count, and words, where the sum is not commutative, keep the order too.

* `Depot.balance`: over a run, what was put is what was taken and then what is held.
* `Depot.fifo`: words leave a place in the order they came.
-/

set_option autoImplicit false

/-- A place, what each step puts there and takes away, and the balance of a step. -/
structure Depot {σ ε ο : Type} (S : Machine σ ε ο) (μ : Type) [AddMonoid μ] where
  held : σ → μ
  put : Rec σ ε ο → μ
  taken : Rec σ ε ο → μ
  held_init : ∀ s, S.init s → held s = 0
  held_step : ∀ tr s e s' os, S.Run tr s → S.step s e = some (s', os) →
    held s + put ⟨s, e, os, s'⟩ = taken ⟨s, e, os, s'⟩ + held s'

namespace Depot

variable {σ ε ο : Type} {S : Machine σ ε ο} {tr : List (Rec σ ε ο)} {s : σ}

/-- The total over a history, in order. -/
def total {μ : Type} [AddMonoid μ] (f : Rec σ ε ο → μ) (tr : List (Rec σ ε ο)) : μ := (tr.map f).sum

@[simp] theorem total_append {μ : Type} [AddMonoid μ] (f : Rec σ ε ο → μ)
    (tr tr' : List (Rec σ ε ο)) : total f (tr ++ tr') = total f tr + total f tr' := by
  simp [total]

@[simp] theorem total_single {μ : Type} [AddMonoid μ] (f : Rec σ ε ο → μ) (r : Rec σ ε ο) :
    total f [r] = f r := by
  simp [total]

/-- **Balance of a run.** -/
theorem balance {μ : Type} [AddMonoid μ] (D : Depot S μ) (hr : S.Run tr s) :
    total D.put tr = total D.taken tr + D.held s := by
  induction hr with
  | start hi => simp [total, D.held_init _ hi]
  | @next tr s s' e os hr hst ih =>
    calc total D.put (tr ++ [⟨s, e, os, s'⟩])
        = total D.taken tr + (D.held s + D.put ⟨s, e, os, s'⟩) := by
          rw [total_append, total_single, ih, add_assoc]
      _ = total D.taken (tr ++ [⟨s, e, os, s'⟩]) + D.held s' := by
          rw [D.held_step _ _ _ _ _ hr hst, total_append, total_single, add_assoc]

/-- A measure of the outputs of each step is a measure of all outputs. -/
theorem total_out {μ : Type} [AddMonoid μ] (g : ο → μ) (tr : List (Rec σ ε ο)) :
    total (fun r => (r.out.map g).sum) tr = ((outs tr).map g).sum := by
  induction tr with
  | nil => rfl
  | cons r tr ih =>
    rw [← List.singleton_append, total_append, total_single, outs_append, outs_single,
      List.map_append, List.sum_append, ih]

/-! ## Numbers -/

theorem total_nat (f : Rec σ ε ο → Nat) (tr : List (Rec σ ε ο)) : total f tr = tally f tr := rfl

theorem tally_out (f : ο → Nat) (tr : List (Rec σ ε ο)) :
    tally (fun r => tally f r.out) tr = tally f (outs tr) :=
  total_out f tr

/-! ## Words -/

section
variable {α : Type}

/-- The total of words is the list of what the steps say. -/
theorem toList_total (f : Rec σ ε ο → List α) (tr : List (Rec σ ε ο)) :
    (total (fun r => FreeAddMonoid.ofList (f r)) tr).toList = tr.flatMap f := by
  induction tr with
  | nil => rfl
  | cons r tr ih =>
    rw [show total (fun r => FreeAddMonoid.ofList (f r)) (r :: tr) =
      FreeAddMonoid.ofList (f r) + total (fun r => FreeAddMonoid.ofList (f r)) tr from
        List.sum_cons, FreeAddMonoid.toList_add, ih]
    rfl

/-- A place that holds a list. -/
def ofLists (held : σ → List α) (put taken : Rec σ ε ο → List α)
    (h0 : ∀ s, S.init s → held s = [])
    (hs : ∀ tr s e s' os, S.Run tr s → S.step s e = some (s', os) →
      held s ++ put ⟨s, e, os, s'⟩ = taken ⟨s, e, os, s'⟩ ++ held s') :
    Depot S (FreeAddMonoid α) where
  held s := FreeAddMonoid.ofList (held s)
  put r := FreeAddMonoid.ofList (put r)
  taken r := FreeAddMonoid.ofList (taken r)
  held_init s hi := by rw [h0 s hi]; rfl
  held_step tr s e s' os hr hst := by
    rw [← FreeAddMonoid.ofList_append, hs tr s e s' os hr hst, FreeAddMonoid.ofList_append]

variable {held : σ → List α} {put taken : Rec σ ε ο → List α}
  (h0 : ∀ s, S.init s → held s = [])
  (hs : ∀ tr s e s' os, S.Run tr s → S.step s e = some (s', os) →
    held s ++ put ⟨s, e, os, s'⟩ = taken ⟨s, e, os, s'⟩ ++ held s')
include h0 hs

/-- **First in, first out**: what was put is what was taken, followed by what is held. -/
theorem fifo (hr : S.Run tr s) : tr.flatMap put = tr.flatMap taken ++ held s := by
  have hb := congrArg FreeAddMonoid.toList ((ofLists held put taken h0 hs).balance hr)
  rw [FreeAddMonoid.toList_add] at hb
  rw [← toList_total put, ← toList_total taken]
  exact hb

end

end Depot
