import Mathlib.Algebra.GroupWithZero.Nat
import Mathlib.Data.List.Basic
import Mathlib.Data.List.Forall2
import Mathlib.Data.List.Induction
import Mathlib.Tactic.SplitIfs

/-!
# Machines and their runs

A `Machine` is a set of initial states with a partial step function: the outputs and the next
state on an event, `none` where the event cannot happen. A `Run` keeps the whole history, one
`Rec` a step, so that a property can speak of the steps taken and not only of the last state.

* `Run.invariant`, `Run.state_invariant`, `Run.step_invariant`: what a step preserves, a run does;
  `Run.along_invariant`: a run whose steps meet a condition.
* `Run.caused_iff`: an effect shown sooner or later by a run, and the steps that cause it.
* `tally`: the total of a measure over a list of outputs.
* `forall₂_flatMap_iff`: two logs that match entry by entry.
* `exec`: the machine on a list of events; `run_get` makes a run of it.
* `Run.since`: what holds of all steps after one of a kind.
* `Run.append`, `Run.split`: a run continued from a reached state, and cut at one of its steps.
* `Run.entered`: the step that brings a condition about.
* `Leads`: a state is reached from another by steps of a kind.
-/

set_option autoImplicit false

/-- Initial states and a partial, output-producing step function. -/
structure Machine (σ ε ο : Type) where
  init : σ → Prop
  step : σ → ε → Option (σ × List ο)

/-- One step of a run: the state before, the event, the outputs, the state after. -/
structure Rec (σ ε ο : Type) where
  pre : σ
  ev : ε
  out : List ο
  post : σ

/-- The outputs of a history, oldest first. -/
def outs {σ ε ο : Type} (tr : List (Rec σ ε ο)) : List ο := tr.flatMap Rec.out

/-- The total of `f` over the outputs `os`. -/
def tally {ο : Type} (f : ο → Nat) (os : List ο) : Nat := (os.map f).sum

section
variable {σ ε ο : Type}

@[simp] theorem outs_nil : outs ([] : List (Rec σ ε ο)) = [] := rfl

@[simp] theorem outs_append (tr tr' : List (Rec σ ε ο)) :
    outs (tr ++ tr') = outs tr ++ outs tr' := by
  simp [outs]

@[simp] theorem outs_single (r : Rec σ ε ο) : outs [r] = r.out := by simp [outs]

theorem mem_outs {tr : List (Rec σ ε ο)} {o : ο} : o ∈ outs tr ↔ ∃ r ∈ tr, o ∈ r.out := by
  simp [outs]

variable {f g : ο → Nat}

@[simp] theorem tally_nil : tally f [] = 0 := rfl

@[simp] theorem tally_cons (o : ο) (os : List ο) : tally f (o :: os) = f o + tally f os := by
  simp [tally]

@[simp] theorem tally_append (os os' : List ο) :
    tally f (os ++ os') = tally f os + tally f os' := by
  simp [tally]

theorem tally_add (os : List ο) : tally (fun o => f o + g o) os = tally f os + tally g os := by
  induction os with
  | nil => rfl
  | cons o os ih => simp only [tally_cons, ih]; omega

theorem tally_le {os : List ο} (h : ∀ o ∈ os, f o ≤ g o) : tally f os ≤ tally g os := by
  induction os with
  | nil => exact Nat.le_refl _
  | cons o os ih =>
    have ho := h o List.mem_cons_self
    have ht := ih fun o' ho' => h o' (List.mem_cons_of_mem _ ho')
    simp only [tally_cons]
    omega

theorem tally_lt {os : List ο} (h : ∀ o ∈ os, f o ≤ g o) {o : ο} (ho : o ∈ os) (hlt : f o < g o) :
    tally f os < tally g os := by
  obtain ⟨l₁, l₂, rfl⟩ := List.append_of_mem ho
  have h1 : tally f l₁ ≤ tally g l₁ := tally_le fun o' ho' => h o' (by simp [ho'])
  have h2 : tally f l₂ ≤ tally g l₂ := tally_le fun o' ho' => h o' (by simp [ho'])
  simp only [tally_append, tally_cons]
  omega

theorem tally_sublist {os os' : List ο} (h : List.Sublist os os') : tally f os ≤ tally f os' := by
  induction h with
  | slnil => exact Nat.le_refl _
  | cons o _ ih => rw [tally_cons]; omega
  | cons_cons o _ ih => rw [tally_cons, tally_cons]; omega

theorem tally_congr {os : List ο} (h : ∀ o ∈ os, f o = g o) : tally f os = tally g os :=
  congrArg List.sum (List.map_congr_left h)

@[simp] theorem tally_zero (os : List ο) : tally (fun _ => 0) os = 0 := by simp [tally]

theorem tally_map {α : Type} (h : α → ο) (l : List α) :
    tally f (l.map h) = tally (fun a => f (h a)) l := by
  simp only [tally, List.map_map, Function.comp_def]

@[simp] theorem tally_replicate (n : Nat) (o : ο) : tally f (List.replicate n o) = n * f o := by
  simp [tally]

theorem tally_flatMap {α : Type} (h : α → List ο) (l : List α) :
    tally f (l.flatMap h) = tally (fun a => tally f (h a)) l := by
  induction l with
  | nil => rfl
  | cons a l ih => simp [ih]

/-- The number of outputs that show `a`. -/
theorem count_filterMap {α : Type} [DecidableEq α] (h : ο → Option α) (a : α) (os : List ο) :
    (os.filterMap h).count a = tally (fun o => if h o = some a then 1 else 0) os := by
  induction os with
  | nil => rfl
  | cons o os ih =>
    rw [List.filterMap_cons, tally_cons, ← ih]
    cases ho : h o with
    | none => simp
    | some b => by_cases hb : b = a <;> simp [hb, Nat.add_comm]

theorem forall₂_append_iff {β γ : Type} {R : β → γ → Prop} {l₁ l₂ : List β} {m₁ m₂ : List γ}
    (h : l₁.length = m₁.length) :
    List.Forall₂ R (l₁ ++ l₂) (m₁ ++ m₂) ↔ List.Forall₂ R l₁ m₁ ∧ List.Forall₂ R l₂ m₂ := by
  induction l₁ generalizing m₁ with
  | nil =>
    rw [List.eq_nil_of_length_eq_zero h.symm]
    simp
  | cons b l₁ ih =>
    cases m₁ with
    | nil => cases h
    | cons c m₁ =>
      simp only [List.cons_append, List.forall₂_cons, ih (Nat.succ.inj h), and_assoc]

/-- **Two logs.** Where no entry of `l` adds more to the second log than to the first, the logs
match entry by entry iff what each entry of `l` adds does. -/
theorem forall₂_flatMap_iff {α β γ : Type} {R : β → γ → Prop} {f : α → List β} {g : α → List γ}
    {l : List α} (h : ∀ a ∈ l, (g a).length ≤ (f a).length) :
    List.Forall₂ R (l.flatMap f) (l.flatMap g) ↔ ∀ a ∈ l, List.Forall₂ R (f a) (g a) := by
  induction l with
  | nil => simp
  | cons a l ih =>
    have hle := h a List.mem_cons_self
    have hrest : ∀ a' ∈ l, (g a').length ≤ (f a').length :=
      fun a' ha => h a' (List.mem_cons_of_mem _ ha)
    have hsum : (l.flatMap g).length ≤ (l.flatMap f).length := by
      rw [List.length_flatMap, List.length_flatMap]
      exact tally_le hrest
    rw [List.flatMap_cons, List.flatMap_cons, List.forall_mem_cons, ← ih hrest]
    constructor
    · intro hm
      have hlen := hm.length_eq
      simp only [List.length_append] at hlen
      exact (forall₂_append_iff (by omega)).1 hm
    · intro hm
      exact (forall₂_append_iff hm.1.length_eq).2 hm

/-- A measure of one position of a list. -/
theorem tally_zipIdx {α : Type} (i k n : Nat) (l : List α) :
    tally (fun p : α × Nat => if p.2 = i then k else 0) (l.zipIdx n) =
      if n ≤ i ∧ i < n + l.length then k else 0 := by
  induction l generalizing n with
  | nil =>
    rw [if_neg (by simp only [List.length_nil]; omega)]
    rfl
  | cons a l ih =>
    simp only [List.zipIdx_cons, tally_cons, ih, List.length_cons]
    split_ifs <;> omega

/-- A list with one of its elements replaced. -/
theorem getElem?_set_some {α : Type} {l : List α} {i : Nat} {a : α} (h : l[i]? = some a) (b : α)
    (j : Nat) : (l.set i b)[j]? = if i = j then some b else l[j]? := by
  rw [List.getElem?_set]
  by_cases hij : i = j
  · simp [hij, hij ▸ (List.getElem?_eq_some_iff.1 h).1]
  · simp [hij]

theorem getElem?_set_self_some {α : Type} {l : List α} {i : Nat} {a : α} (h : l[i]? = some a)
    (b : α) : (l.set i b)[i]? = some b := by
  rw [getElem?_set_some h, if_pos rfl]

theorem map_set_of_eq {α β : Type} {f : α → β} {l : List α} {i : Nat} {a b : α}
    (h : l[i]? = some a) (hf : f b = f a) : (l.set i b).map f = l.map f := by
  obtain ⟨hlt, rfl⟩ := List.getElem?_eq_some_iff.1 h
  rw [List.map_set, hf, ← List.getElem_map (f := f) (h := by simpa), List.set_getElem_self]

theorem tally_set {os : List ο} {i : Nat} {o : ο} (h : os[i]? = some o) (o' : ο) :
    tally f (os.set i o') + f o = tally f os + f o' := by
  induction os generalizing i with
  | nil => simp at h
  | cons p os ih =>
    cases i with
    | zero =>
      simp only [List.getElem?_cons_zero, Option.some.injEq] at h
      subst h
      simp only [List.set_cons_zero, tally_cons]
      omega
    | succ i =>
      have := ih (by simpa using h)
      simp only [List.set_cons_succ, tally_cons]
      omega

theorem tally_eq_zero {os : List ο} : tally f os = 0 ↔ ∀ o ∈ os, f o = 0 := by
  induction os with
  | nil => simp
  | cons o os ih => simp [ih]

theorem le_tally {os : List ο} {o : ο} (h : o ∈ os) : f o ≤ tally f os := by
  induction os with
  | nil => cases h
  | cons o' os ih =>
    rw [tally_cons]
    rcases List.mem_cons.1 h with rfl | h
    · omega
    · have := ih h; omega

theorem tally_pos_iff {os : List ο} : 0 < tally f os ↔ ∃ o ∈ os, 0 < f o := by
  constructor
  · intro h
    by_contra hc
    have hz : ∀ o ∈ os, f o = 0 := fun o ho => by
      by_contra hne
      exact hc ⟨o, ho, Nat.pos_of_ne_zero hne⟩
    rw [tally_eq_zero.2 hz] at h
    exact Nat.lt_irrefl _ h
  · rintro ⟨o, ho, h⟩
    exact Nat.lt_of_lt_of_le h (le_tally ho)

/-- A measure with total at most one is positive at one position only. -/
theorem eq_of_tally_le_one {os : List ο} (h : tally f os ≤ 1) {i j : Nat} {a b : ο}
    (hi : os[i]? = some a) (hj : os[j]? = some b) (ha : 0 < f a) (hb : 0 < f b) : i = j := by
  induction os generalizing i j with
  | nil => simp at hi
  | cons o os ih =>
    rw [tally_cons] at h
    cases i with
    | zero =>
      cases j with
      | zero => rfl
      | succ j =>
        have hle : f b ≤ tally f os := le_tally (List.mem_of_getElem? (by simpa using hj))
        simp only [List.getElem?_cons_zero, Option.some.injEq] at hi
        subst hi
        omega
    | succ i =>
      cases j with
      | zero =>
        have hle : f a ≤ tally f os := le_tally (List.mem_of_getElem? (by simpa using hi))
        simp only [List.getElem?_cons_zero, Option.some.injEq] at hj
        subst hj
        omega
      | succ j =>
        have hij : i = j := ih (by omega) (by simpa using hi) (by simpa using hj)
        rw [hij]

/-- Two outputs a measure with total at most one counts are the same. -/
theorem unique_of_tally_le_one {os : List ο} (h : tally f os ≤ 1) {a b : ο} (ha : a ∈ os)
    (hb : b ∈ os) (hpa : 0 < f a) (hpb : 0 < f b) : a = b := by
  obtain ⟨i, hi⟩ := List.mem_iff_getElem?.1 ha
  obtain ⟨j, hj⟩ := List.mem_iff_getElem?.1 hb
  rw [eq_of_tally_le_one h hi hj hpa hpb, hj] at hi
  exact (Option.some.inj hi).symm

/-- A measure that is the sum of others up to positivity. -/
theorem tally_pos_iff_exists {ι : Type} {F : ι → ο → Nat} (h : ∀ o, 0 < f o ↔ ∃ i, 0 < F i o)
    (os : List ο) : 0 < tally f os ↔ ∃ i, 0 < tally (F i) os := by
  simp only [tally_pos_iff, h]
  exact ⟨fun ⟨o, ho, i, hi⟩ => ⟨i, o, ho, hi⟩, fun ⟨i, o, ho, hi⟩ => ⟨o, ho, i, hi⟩⟩

end

namespace Machine

variable {σ ε ο : Type}

/-- `S.Run tr s`: the history `tr` leads from an initial state to `s`. -/
inductive Run (S : Machine σ ε ο) : List (Rec σ ε ο) → σ → Prop
  | start {s : σ} : S.init s → Run S [] s
  | next {tr : List (Rec σ ε ο)} {s s' : σ} {e : ε} {os : List ο} :
      Run S tr s → S.step s e = some (s', os) → Run S (tr ++ [⟨s, e, os, s'⟩]) s'

/-- Every step of the history meets `C`, a condition on the state before and the event. -/
def Along (C : σ → ε → Prop) (tr : List (Rec σ ε ο)) : Prop := ∀ r ∈ tr, C r.pre r.ev

/-- The same machine started at `s₀`. -/
def startAt (S : Machine σ ε ο) (s₀ : σ) : Machine σ ε ο where
  init := fun s => s = s₀
  step := S.step

variable {S : Machine σ ε ο}

theorem along_append {C : σ → ε → Prop} {tr tr' : List (Rec σ ε ο)} :
    Along C (tr ++ tr') ↔ Along C tr ∧ Along C tr' := by
  simp only [Along, List.mem_append, or_imp, forall_and]

@[simp] theorem along_nil {C : σ → ε → Prop} : Along C ([] : List (Rec σ ε ο)) := by simp [Along]

@[simp] theorem along_single {C : σ → ε → Prop} {r : Rec σ ε ο} : Along C [r] ↔ C r.pre r.ev := by
  simp [Along]

/-- **Invariant rule** on histories: what holds at the start and is preserved by each step of a
run holds of the whole run. -/
theorem Run.invariant {I : List (Rec σ ε ο) → σ → Prop} (h0 : ∀ s, S.init s → I [] s)
    (hs : ∀ tr s e s' os, S.Run tr s → I tr s → S.step s e = some (s', os) →
      I (tr ++ [⟨s, e, os, s'⟩]) s') {tr : List (Rec σ ε ο)} {s : σ} (hr : S.Run tr s) :
    I tr s := by
  induction hr with
  | start hi => exact h0 _ hi
  | next hr hst ih => exact hs _ _ _ _ _ hr ih hst

/-- **Invariant rule** on states. -/
theorem Run.state_invariant {I : σ → Prop} (h0 : ∀ s, S.init s → I s)
    (hs : ∀ s e s' os, I s → S.step s e = some (s', os) → I s') {tr : List (Rec σ ε ο)} {s : σ}
    (hr : S.Run tr s) : I s :=
  hr.invariant (I := fun _ s => I s) h0 fun _ _ _ _ _ _ hI hst => hs _ _ _ _ hI hst

/-- Every step of a run is a step of the machine from a state reached by an earlier part. -/
theorem Run.step_of_mem {tr : List (Rec σ ε ο)} {s : σ} (hr : S.Run tr s) {r : Rec σ ε ο}
    (hm : r ∈ tr) : (∃ tr₀, S.Run tr₀ r.pre) ∧ S.step r.pre r.ev = some (r.post, r.out) := by
  induction hr with
  | start => cases hm
  | next hr hst ih =>
    rcases List.mem_append.1 hm with h | h
    · exact ih h
    · cases List.mem_singleton.1 h
      exact ⟨⟨_, hr⟩, hst⟩

/-- **Invariant rule** for the runs all of whose steps meet `C`. -/
theorem Run.along_invariant {C : σ → ε → Prop} {I : List (Rec σ ε ο) → σ → Prop}
    (h0 : ∀ s, S.init s → I [] s)
    (hs : ∀ tr s e s' os, S.Run tr s → I tr s → C s e → S.step s e = some (s', os) →
      I (tr ++ [⟨s, e, os, s'⟩]) s') {tr : List (Rec σ ε ο)} {s : σ} (hr : S.Run tr s)
    (hc : Along C tr) : I tr s := by
  induction hr with
  | start hi => exact h0 _ hi
  | next hr hst ih =>
    obtain ⟨hc, hlast⟩ := along_append.1 hc
    exact hs _ _ _ _ _ hr (ih hc) (along_single.1 hlast) hst

/-- A step of such a run comes after a run of the kind. -/
theorem Run.along_of_mem {C : σ → ε → Prop} {tr : List (Rec σ ε ο)} {s : σ} (hr : S.Run tr s)
    (hc : Along C tr) {r : Rec σ ε ο} (hm : r ∈ tr) :
    ∃ ta, S.Run ta r.pre ∧ Along C ta ∧ S.step r.pre r.ev = some (r.post, r.out) := by
  induction hr with
  | start => cases hm
  | next hr hst ih =>
    obtain ⟨hc, -⟩ := along_append.1 hc
    rcases List.mem_append.1 hm with hm | hm
    · exact ih hc hm
    · cases List.mem_singleton.1 hm
      exact ⟨_, hr, hc, hst⟩

/-- **Invariant rule** on the steps of a run. -/
theorem Run.step_invariant {I : σ → Prop} (h0 : ∀ s, S.init s → I s)
    (hs : ∀ s e s' os, I s → S.step s e = some (s', os) → I s') {tr : List (Rec σ ε ο)} {s : σ}
    (hr : S.Run tr s) {r : Rec σ ε ο} (hm : r ∈ tr) :
    I r.pre ∧ S.step r.pre r.ev = some (r.post, r.out) := by
  obtain ⟨⟨_, hr₀⟩, hst⟩ := hr.step_of_mem hm
  exact ⟨hr₀.state_invariant h0 hs, hst⟩

theorem run_concat {tr : List (Rec σ ε ο)} {r : Rec σ ε ο} {s : σ} :
    S.Run (tr ++ [r]) s ↔
      S.Run tr r.pre ∧ S.step r.pre r.ev = some (r.post, r.out) ∧ s = r.post := by
  constructor
  · intro hr
    generalize hl : tr ++ [r] = l at hr
    cases hr with
    | start => simp at hl
    | next hr hst =>
      obtain ⟨rfl, hrec⟩ := List.append_inj' hl rfl
      cases hrec
      exact ⟨hr, hst, rfl⟩
  · rintro ⟨hr, hst, rfl⟩
    exact hr.next hst

/-- A run around one of its steps. -/
theorem Run.split {tr tr' : List (Rec σ ε ο)} {r : Rec σ ε ο} {s : σ}
    (hr : S.Run (tr ++ r :: tr') s) : S.Run tr r.pre ∧
      S.step r.pre r.ev = some (r.post, r.out) ∧ (S.startAt r.post).Run tr' s := by
  induction tr' using List.reverseRecOn generalizing s with
  | nil =>
    obtain ⟨h, hst, rfl⟩ := run_concat.1 hr
    exact ⟨h, hst, .start rfl⟩
  | append_singleton tr' r' ih =>
    rw [← List.cons_append, ← List.append_assoc] at hr
    obtain ⟨h, hst, rfl⟩ := run_concat.1 hr
    obtain ⟨h₀, hst₀, h₁⟩ := ih h
    exact ⟨h₀, hst₀, (run_concat (S := S.startAt r.post)).2 ⟨h₁, hst, rfl⟩⟩

/-- A run continued from the state it reached. -/
theorem Run.append {tr tr' : List (Rec σ ε ο)} {s s' : σ} (hr : S.Run tr s)
    (hc : (S.startAt s).Run tr' s') : S.Run (tr ++ tr') s' := by
  induction hc with
  | start hi => cases hi; simpa using hr
  | next _ hst ih => rw [← List.append_assoc]; exact ih.next hst

/-- A run starts at an initial state. -/
theorem Run.from_init {tr : List (Rec σ ε ο)} {s : σ} (hr : S.Run tr s) :
    ∃ s₀, S.init s₀ ∧ (S.startAt s₀).Run tr s := by
  induction hr with
  | start hi => exact ⟨_, hi, .start rfl⟩
  | next _ hst ih =>
    obtain ⟨s₀, hi, hr⟩ := ih
    exact ⟨s₀, hi, hr.next hst⟩

/-- A run that leads to a state with `P` has a step that brings `P` about. -/
theorem Run.entered {P : σ → Prop} (h0 : ∀ s, S.init s → ¬ P s) {tr : List (Rec σ ε ο)} {s : σ}
    (hr : S.Run tr s) (hp : P s) : ∃ ta r tb, tr = ta ++ r :: tb ∧ S.Run ta r.pre ∧
      S.step r.pre r.ev = some (r.post, r.out) ∧ ¬ P r.pre ∧ P r.post := by
  induction hr with
  | start hi => exact absurd hp (h0 _ hi)
  | @next tr s s' e os hr hst ih =>
    by_cases hs : P s
    · obtain ⟨ta, r, tb, rfl, h⟩ := ih hs
      exact ⟨ta, r, tb ++ [⟨s, e, os, s'⟩], by simp, h⟩
    · exact ⟨tr, ⟨s, e, os, s'⟩, [], rfl, hr, hst, hs, hp⟩

/-- Every step `r` after a step `r₀` that meets `P` meets `Q r₀ r`. -/
def Since (P : Rec σ ε ο → Prop) (Q : Rec σ ε ο → Rec σ ε ο → Prop) (tr : List (Rec σ ε ο)) :
    Prop :=
  ∀ ta r₀ tb, tr = ta ++ r₀ :: tb → P r₀ → ∀ r ∈ tb, Q r₀ r

theorem Since.at {P : Rec σ ε ο → Prop} {Q : Rec σ ε ο → Rec σ ε ο → Prop} {tr : List (Rec σ ε ο)}
    (h : Since P Q tr) {i j : Nat} {r₀ r : Rec σ ε ο} (hi : tr[i]? = some r₀)
    (hj : tr[j]? = some r) (hij : i < j) (hp : P r₀) : Q r₀ r := by
  obtain ⟨hlt, rfl⟩ := List.getElem?_eq_some_iff.1 hi
  have hsplit : tr = tr.take i ++ tr[i] :: tr.drop (i + 1) := by
    rw [← List.drop_eq_getElem_cons hlt, List.take_append_drop]
  have hrest : (tr.drop (i + 1))[j - (i + 1)]? = some r := by
    rw [List.getElem?_drop, Nat.add_sub_cancel' hij]
    exact hj
  exact h _ _ _ hsplit hp r (List.mem_of_getElem? hrest)

/-- **Aftermath rule.** A step that meets `P` leads to a state `s₀` with `I s₀ s₀`, later steps keep
`I s₀`, and each of them meets `Q`. -/
theorem Run.since {P : Rec σ ε ο → Prop} {I : σ → σ → Prop} {Q : Rec σ ε ο → Rec σ ε ο → Prop}
    (h0 : ∀ tr r, S.Run (tr ++ [r]) r.post → P r → I r.post r.post)
    (hs : ∀ s₀ s e s' os, I s₀ s → S.step s e = some (s', os) → I s₀ s')
    (hq : ∀ r₀ r, I r₀.post r.pre → S.step r.pre r.ev = some (r.post, r.out) → Q r₀ r)
    {tr : List (Rec σ ε ο)} {s : σ} (hr : S.Run tr s) : Since P Q tr := by
  intro ta r₀ tb htr hp r hm
  subst htr
  obtain ⟨hr₀, hst, hrest⟩ := hr.split
  have hstart : ∀ t, (S.startAt r₀.post).init t → I r₀.post t := by
    intro t ht
    cases ht
    exact h0 ta r₀ (hr₀.next hst) hp
  obtain ⟨hI, hst'⟩ := hrest.step_invariant hstart (hs r₀.post) hm
  exact hq r₀ r hI hst'

/-- `S.Leads C s t`: some steps whose events meet `C` lead from `s` to `t`. -/
def Leads (S : Machine σ ε ο) (C : ε → Prop) (s t : σ) : Prop :=
  ∃ tr, (S.startAt s).Run tr t ∧ ∀ r ∈ tr, C r.ev

theorem Leads.refl {C : ε → Prop} (s : σ) : S.Leads C s s := ⟨[], .start rfl, by simp⟩

theorem Leads.trans {C : ε → Prop} {s t u : σ} (h : S.Leads C s t) (h' : S.Leads C t u) :
    S.Leads C s u := by
  obtain ⟨tr, hr, hc⟩ := h
  obtain ⟨tr', hr', hc'⟩ := h'
  refine ⟨tr ++ tr', Run.append (S := S.startAt s) hr hr', fun r hm => ?_⟩
  rcases List.mem_append.1 hm with hm | hm
  · exact hc r hm
  · exact hc' r hm

theorem Run.single {s t : σ} {e : ε} {os : List ο} (h : S.step s e = some (t, os)) :
    (S.startAt s).Run [⟨s, e, os, t⟩] t :=
  .next (S := S.startAt s) (.start rfl) h

theorem Leads.step {C : ε → Prop} {s t : σ} {e : ε} {os : List ο} (h : S.step s e = some (t, os))
    (he : C e) : S.Leads C s t :=
  ⟨_, Run.single h, by simpa using he⟩

theorem Leads.invariant {C : ε → Prop} {I : σ → Prop}
    (hs : ∀ s e s' os, I s → C e → S.step s e = some (s', os) → I s') {s t : σ}
    (h : S.Leads C s t) (hI : I s) : I t := by
  obtain ⟨tr, hr, hc⟩ := h
  induction hr with
  | start hi => cases hi; exact hI
  | next _ hst ih =>
    refine hs _ _ _ _ (ih fun r hm => hc r (List.mem_append_left _ hm)) ?_ hst
    exact hc _ (List.mem_append_right _ (List.mem_singleton.2 rfl))

theorem along_not_iff {C : σ → ε → Prop} {tr : List (Rec σ ε ο)} :
    Along (fun s e => ¬ C s e) tr ↔ ¬ ∃ r ∈ tr, C r.pre r.ev := by
  simp [Along]

/-- **Cause and effect.** `C` is the cause, `B` the states where its effect is still to come and `f`
counts the effect. Where every step from `B` stays in it or shows the effect, and only a cause leads
there, a run has shown the effect or is in `B` iff one of its steps was a cause. The rule is for
runs that stay in `A`. -/
theorem Run.caused_iff {A B : σ → Prop} {f : ο → Nat} {C : σ → ε → Prop}
    (h0 : ∀ s, S.init s → ¬ B s)
    (hs : ∀ tr s e s' os, S.Run tr s → S.step s e = some (s', os) → A s' →
      A s ∧ (0 < tally f os ∨ B s' ↔ B s ∨ C s e))
    {tr : List (Rec σ ε ο)} {s : σ} (hr : S.Run tr s) (ha : A s) :
    0 < tally f (outs tr) ∨ B s ↔ ∃ r ∈ tr, C r.pre r.ev := by
  induction hr with
  | start hi => simp [h0 _ hi]
  | @next tr s s' e os hr hst ih =>
    obtain ⟨ha', hstep⟩ := hs _ _ _ _ _ hr hst ha
    have ih := ih ha'
    have hsum : 0 < tally f (outs tr) + tally f os ↔ 0 < tally f (outs tr) ∨ 0 < tally f os := by
      omega
    simp only [outs_append, outs_single, tally_append, hsum, List.mem_append, List.mem_singleton,
      or_and_right, exists_or, exists_eq_left]
    rw [or_assoc, hstep, ← or_assoc, ih]

/-- The machine on the events `es`, oldest first; `none` if one of them cannot happen. -/
def exec (S : Machine σ ε ο) : σ → List ε → Option (List (Rec σ ε ο) × σ)
  | s, [] => some ([], s)
  | s, e :: es =>
    match S.step s e with
    | none => none
    | some (s', os) => (S.exec s' es).map fun q => (⟨s, e, os, s'⟩ :: q.1, q.2)

theorem exec_run {s s' : σ} {es : List ε} {l tr : List (Rec σ ε ο)} (h0 : S.Run l s)
    (h : S.exec s es = some (tr, s')) : S.Run (l ++ tr) s' := by
  induction es generalizing s l tr with
  | nil =>
    simp only [exec, Option.some.injEq, Prod.mk.injEq] at h
    obtain ⟨rfl, rfl⟩ := h
    simpa using h0
  | cons e es ih =>
    simp only [exec] at h
    split at h
    · cases h
    · rename_i s₁ os hst
      obtain ⟨q, hq, he⟩ := Option.map_eq_some_iff.1 h
      cases he
      have := ih (h0.next hst) hq
      simpa using this

theorem exec_evs {s s' : σ} {es : List ε} {tr : List (Rec σ ε ο)}
    (h : S.exec s es = some (tr, s')) : tr.map Rec.ev = es := by
  induction es generalizing s tr with
  | nil =>
    simp only [exec, Option.some.injEq, Prod.mk.injEq] at h
    obtain ⟨rfl, -⟩ := h
    rfl
  | cons e es ih =>
    simp only [exec] at h
    split at h
    · cases h
    · obtain ⟨q, hq, he⟩ := Option.map_eq_some_iff.1 h
      cases he
      rw [List.map_cons, ih hq]

/-- A condition met by the events alone is met along their run. -/
theorem along_exec {C : σ → ε → Prop} {s : σ} {es : List ε} {q : List (Rec σ ε ο) × σ}
    (h : S.exec s es = some q) (hC : ∀ e ∈ es, ∀ s, C s e) : Along C q.1 := by
  intro r hr
  refine hC r.ev ?_ r.pre
  rw [← exec_evs h]
  exact List.mem_map_of_mem hr

/-- A condition that the records of a run can be tested for. -/
theorem along_of_all {C : σ → ε → Bool} {tr : List (Rec σ ε ο)}
    (h : tr.all (fun r => C r.pre r.ev) = true) : Along (fun s e => C s e = true) tr :=
  fun r hr => List.all_eq_true.1 h r hr

theorem along_of_none {C : σ → ε → Bool} {tr : List (Rec σ ε ο)}
    (h : tr.any (fun r => C r.pre r.ev) = false) : Along (fun s e => C s e = false) tr := by
  intro r hr
  simpa using List.any_eq_false.1 h r hr

/-- The run on the events `es`, all of which can happen. -/
theorem run_get {s : σ} {es : List ε} (h0 : S.init s) (h : (S.exec s es).isSome = true) :
    S.Run ((S.exec s es).get h).1 ((S.exec s es).get h).2 :=
  exec_run (l := []) (.start h0) (Option.some_get h).symm

end Machine
