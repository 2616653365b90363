import ProsaHyper.Lib.Run

/-!
# Potentials

A machine takes steps of its own, and steps that come from outside. A potential is a number that
each own step lowers and that a step from outside raises by what it brings, so that the own steps of
a run are paid for by what came from outside. An own step that may be held up from outside is not
`ready`: it counts where it is taken, but no state waits for it.

* `Potential.amortized`: the own steps of a run, by what came from outside.
* `Potential.bounded`: with nothing from outside, a run is no longer than the level it starts at.
* `Potential.comes_to_rest`: own steps lead to a state where none is ready.
-/

set_option autoImplicit false

/-- The own steps of a machine, and the level they lower. -/
structure Potential {σ ε ο : Type} (S : Machine σ ε ο) where
  own : ε → Bool
  ready : σ → ε → Bool := fun _ _ => true
  level : σ → Nat
  gain : ε → Nat
  spend : ∀ s e s' os, S.step s e = some (s', os) → own e = true → level s' < level s
  bring : ∀ s e s' os, S.step s e = some (s', os) → own e = false → level s' ≤ level s + gain e

namespace Potential

variable {σ ε ο : Type} {S : Machine σ ε ο} (P : Potential S) {tr : List (Rec σ ε ο)} {s s' : σ}

/-- The number of own steps. -/
def owns (tr : List (Rec σ ε ο)) : Nat := tr.countP fun r => P.own r.ev

/-- What the steps from outside brought. -/
def brought (tr : List (Rec σ ε ο)) : Nat :=
  tally (fun r => if P.own r.ev then 0 else P.gain r.ev) tr

/-- **Amortized bound.** What came from outside pays for the own steps. -/
theorem amortized (hr : (S.startAt s).Run tr s') :
    P.owns tr + P.level s' ≤ P.level s + P.brought tr := by
  induction hr with
  | start hi =>
    cases hi
    exact Nat.le_of_eq (Nat.add_comm _ _)
  | @next tr s₁ s₂ e os _ hst ih =>
    have howns : P.owns (tr ++ [⟨s₁, e, os, s₂⟩]) = P.owns tr + if P.own e then 1 else 0 := by
      simp [owns, List.countP_append, List.countP_cons]
    have hbrought : P.brought (tr ++ [⟨s₁, e, os, s₂⟩]) =
        P.brought tr + if P.own e then 0 else P.gain e := by
      simp [brought]
    rw [howns, hbrought]
    cases he : P.own e with
    | true =>
      have hlt := P.spend _ _ _ _ hst he
      simp only [if_true]
      omega
    | false =>
      have hle := P.bring _ _ _ _ hst he
      simp only [Bool.false_eq_true, if_false]
      omega

/-- The amortized bound over a whole run, where an own step brings nothing. -/
theorem amortized_run (hgain : ∀ e, P.own e = true → P.gain e = 0) (hr : S.Run tr s) :
    ∃ s₀, S.init s₀ ∧ (S.startAt s₀).Run tr s ∧
      P.owns tr + P.level s ≤ P.level s₀ + tally (fun r => P.gain r.ev) tr := by
  obtain ⟨s₀, h0, hr⟩ := hr.from_init
  have hbrought : P.brought tr = tally (fun r => P.gain r.ev) tr := by
    refine tally_congr fun r _ => ?_
    cases he : P.own r.ev with
    | true => simp [hgain _ he]
    | false => simp
  exact ⟨s₀, h0, hr, hbrought ▸ P.amortized hr⟩

/-- With nothing from outside, a run is no longer than the level it starts at. -/
theorem bounded (hr : (S.startAt s).Run tr s') (ho : ∀ r ∈ tr, P.own r.ev = true) :
    tr.length ≤ P.level s := by
  have hsum := P.amortized hr
  have howns : P.owns tr = tr.length := List.countP_eq_length.2 ho
  have hbrought : P.brought tr = 0 := tally_eq_zero.2 fun r hm => by simp [ho r hm]
  omega

/-- The step is the machine's own, and nothing holds it up. -/
def Goes (s : σ) (e : ε) : Prop := P.own e = true ∧ P.ready s e = true

/-- No own step goes. -/
def Rests (s : σ) : Prop := ∀ e, P.Goes s e → S.step s e = none

/-- **Own steps come to rest.** -/
theorem comes_to_rest (s : σ) :
    ∃ tr t, (S.startAt s).Run tr t ∧ Machine.Along P.Goes tr ∧ P.Rests t := by
  induction hn : P.level s using Nat.strongRecOn generalizing s with
  | ind n ih =>
    by_cases hrest : P.Rests s
    · exact ⟨[], s, .start rfl, Machine.along_nil, hrest⟩
    · simp only [Rests, not_forall] at hrest
      obtain ⟨e, he, hst⟩ := hrest
      obtain ⟨⟨s', os⟩, hq⟩ := Option.ne_none_iff_exists'.1 hst
      have hlt := P.spend _ _ _ _ hq he.1
      obtain ⟨tr, t, hr, hgoes, ht⟩ := ih _ (hn ▸ hlt) s' rfl
      have hfirst : (S.startAt s).Run [⟨s, e, os, s'⟩] s' := .single hq
      exact ⟨_, t, Machine.Run.append hfirst hr,
        Machine.along_append.2 ⟨Machine.along_single.2 he, hgoes⟩, ht⟩

theorem leads_to_rest (s : σ) : ∃ t, S.Leads (fun e => P.own e = true) s t ∧ P.Rests t := by
  obtain ⟨tr, t, hr, hgoes, ht⟩ := P.comes_to_rest s
  exact ⟨t, ⟨tr, hr, fun r hm => (hgoes r hm).1⟩, ht⟩

end Potential
