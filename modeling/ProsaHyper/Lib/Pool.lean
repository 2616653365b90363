import ProsaHyper.Lib.Custody

/-!
# A machine that hosts a pool of machines

`Hosts P S`: the states of `P` carry a list of components that run `S`. A step of `P` is either a
step of one component, whose outputs it shows, or a step that only adds components in an initial
state.

* `Hosts.project`: each component of a reachable state has a run of its own, made of the steps of
  `P` that moved it.
* `Hosts.custody`: a custody of the component machine is one of the host, summed over the pool.
-/

set_option autoImplicit false

/-- `P` hosts a pool of components that run `S`: `lift` says which component an event moves and
how, `view` which component an output comes from. -/
structure Hosts {α E O σ ε ο : Type} (P : Machine α E O) (S : Machine σ ε ο) where
  comps : α → List σ
  lift : E → Option (Nat × ε)
  view : O → Option (Nat × ο)
  start : ∀ s, P.init s → ∀ x ∈ comps s, S.init x
  moves : ∀ s e s' os i e', P.step s e = some (s', os) → lift e = some (i, e') →
    ∃ x x' os', (comps s)[i]? = some x ∧ S.step x e' = some (x', os') ∧
      comps s' = (comps s).set i x' ∧ os.filterMap view = os'.map (i, ·)
  grows : ∀ s e s' os, P.step s e = some (s', os) → lift e = none →
    ∃ new, comps s' = comps s ++ new ∧ (∀ x ∈ new, S.init x) ∧ os.filterMap view = []

namespace Hosts

variable {α E O σ ε ο τ : Type} {P : Machine α E O} {S : Machine σ ε ο} (H : Hosts P S)

/-- The outputs of component `i`. -/
def own (i : Nat) (os : List O) : List ο :=
  (os.filterMap H.view).filterMap fun q => if q.1 = i then some q.2 else none

@[simp] theorem own_append (i : Nat) (os os' : List O) :
    H.own i (os ++ os') = H.own i os ++ H.own i os' := by
  simp [own]

theorem own_of_map {i j : Nat} {os : List O} {os' : List ο}
    (h : os.filterMap H.view = os'.map (j, ·)) : H.own i os = if j = i then os' else [] := by
  unfold own
  rw [h, List.filterMap_map]
  by_cases hji : j = i <;> simp [hji]

theorem own_of_nil {i : Nat} {os : List O} (h : os.filterMap H.view = []) : H.own i os = [] := by
  unfold own
  rw [h]
  rfl

/-- Where only component `i` shows what `f` sees, the host shows it as that component does. -/
theorem filterMap_own {α' : Type} {f : ο → Option α'} {i : Nat} {os : List O}
    (h : ∀ j, j ≠ i → (H.own j os).filterMap f = []) :
    (os.filterMap H.view).filterMap (fun q => f q.2) = (H.own i os).filterMap f := by
  have hnone : ∀ q ∈ os.filterMap H.view, q.1 ≠ i → f q.2 = none := fun q hq hqi =>
    List.filterMap_eq_nil_iff.1 (h q.1 hqi) q.2 (List.mem_filterMap.2 ⟨q, hq, if_pos rfl⟩)
  unfold own
  generalize os.filterMap H.view = l at hnone
  rw [List.filterMap_filterMap]
  refine List.filterMap_congr fun q hq => ?_
  by_cases hqi : q.1 = i
  · rw [if_pos hqi]
    rfl
  · rw [if_neg hqi, hnone q hq hqi]
    rfl

theorem comps_length_le {s s' : α} {e : E} {os : List O} (h : P.step s e = some (s', os)) :
    (H.comps s).length ≤ (H.comps s').length := by
  cases hl : H.lift e with
  | some q =>
    obtain ⟨x, x', os', -, -, hc, -⟩ := H.moves _ _ _ _ q.1 q.2 h hl
    exact Nat.le_of_eq (by rw [hc, List.length_set])
  | none =>
    obtain ⟨new, hc, -, -⟩ := H.grows _ _ _ _ h hl
    rw [hc, List.length_append]
    omega

/-- A component that does not exist yet has shown nothing. -/
theorem own_of_length_le {tr : List (Rec α E O)} {s : α} (hr : P.Run tr s) {i : Nat}
    (hi : (H.comps s).length ≤ i) : H.own i (outs tr) = [] := by
  induction hr with
  | start => rfl
  | @next tr s s' e os hr hst ih =>
    have hle := H.comps_length_le hst
    have ih := ih (Nat.le_trans hle hi)
    simp only [outs_append, outs_single, own_append, ih, List.nil_append]
    cases hl : H.lift e with
    | some q =>
      obtain ⟨x, x', os', hx, -, -, hv⟩ := H.moves _ _ _ _ q.1 q.2 hst hl
      have := (List.getElem?_eq_some_iff.1 hx).1
      rw [H.own_of_map hv, if_neg (by omega)]
    | none =>
      obtain ⟨new, -, -, hv⟩ := H.grows _ _ _ _ hst hl
      exact H.own_of_nil hv

/-- A step of the host that is the step `r'` of component `i`. -/
def Shows (i : Nat) (r : Rec α E O) (r' : Rec σ ε ο) : Prop :=
  H.lift r.ev = some (i, r'.ev) ∧ (H.comps r.pre)[i]? = some r'.pre ∧
    (H.comps r.post)[i]? = some r'.post ∧ r.out.filterMap H.view = r'.out.map (i, ·)

/-- **Projection**: every component of a reachable state has its own run, whose steps are steps of
the host and whose outputs are the host's outputs of that component. -/
theorem project {tr : List (Rec α E O)} {s : α} (hr : P.Run tr s) {i : Nat} {x : σ}
    (hx : (H.comps s)[i]? = some x) :
    ∃ tr', S.Run tr' x ∧ outs tr' = H.own i (outs tr) ∧ ∀ r' ∈ tr', ∃ r ∈ tr, H.Shows i r r' := by
  induction hr generalizing x with
  | start hi =>
    exact ⟨[], .start (H.start _ hi _ (List.mem_of_getElem? hx)), rfl, by simp⟩
  | @next tr s s' e os hr hst ih =>
    have keep : ∀ {tr' : List (Rec σ ε ο)}, (∀ r' ∈ tr', ∃ r ∈ tr, H.Shows i r r') →
        ∀ r' ∈ tr', ∃ r ∈ tr ++ [⟨s, e, os, s'⟩], H.Shows i r r' := by
      intro tr' h r' hr'
      obtain ⟨r, hm, hs⟩ := h r' hr'
      exact ⟨r, List.mem_append_left _ hm, hs⟩
    cases hl : H.lift e with
    | some q =>
      obtain ⟨j, e'⟩ := q
      obtain ⟨y, y', os', hy, hstep, hc, hv⟩ := H.moves _ _ _ _ _ _ hst hl
      have hj : j < (H.comps s).length := (List.getElem?_eq_some_iff.1 hy).1
      rw [hc] at hx
      by_cases hji : j = i
      · subst hji
        rw [List.getElem?_set_self hj, Option.some.injEq] at hx
        subst hx
        obtain ⟨tr', hr', ho, hs⟩ := ih hy
        refine ⟨tr' ++ [⟨y, e', os', y'⟩], hr'.next hstep, ?_, ?_⟩
        · simp [ho, H.own_of_map hv]
        · intro r' hm
          rcases List.mem_append.1 hm with hm | hm
          · exact keep hs r' hm
          · cases List.mem_singleton.1 hm
            refine ⟨_, List.mem_append_right _ (List.mem_singleton.2 rfl), hl, hy, ?_, hv⟩
            show (H.comps s')[j]? = some y'
            rw [hc, List.getElem?_set_self hj]
      · rw [List.getElem?_set_ne hji] at hx
        obtain ⟨tr', hr', ho, hs⟩ := ih hx
        exact ⟨tr', hr', by simp [ho, H.own_of_map hv, hji], keep hs⟩
    | none =>
      obtain ⟨new, hc, hnew, hv⟩ := H.grows _ _ _ _ hst hl
      rw [hc] at hx
      by_cases hlt : i < (H.comps s).length
      · rw [List.getElem?_append_left hlt] at hx
        obtain ⟨tr', hr', ho, hs⟩ := ih hx
        exact ⟨tr', hr', by simp [ho, H.own_of_nil hv], keep hs⟩
      · rw [List.getElem?_append_right (Nat.le_of_not_lt hlt)] at hx
        have hnx : x ∈ new := List.mem_of_getElem? hx
        refine ⟨[], .start (hnew x hnx), ?_, by simp⟩
        simp [H.own_of_length_le hr (Nat.le_of_not_lt hlt), H.own_of_nil hv]

/-- What a measure of component outputs says of an output of the host. -/
def through (f : ο → Nat) (o : O) : Nat :=
  match H.view o with
  | some q => f q.2
  | none => 0

theorem tally_through (f : ο → Nat) (os : List O) :
    tally (H.through f) os = tally f ((os.filterMap H.view).map (·.2)) := by
  induction os with
  | nil => rfl
  | cons o os ih =>
    simp only [tally_cons, ih, through, List.filterMap_cons]
    cases H.view o <;> simp

/-- A custody of the components is one of the host. -/
def custody (C : Custody S τ) : Custody P τ where
  held s t := tally (C.held · t) (H.comps s)
  taken t := H.through (C.taken t)
  settled t := H.through (C.settled t)
  lost t := H.through (C.lost t)
  held_init s hi t := tally_eq_zero.2 fun x hx => C.held_init x (H.start s hi x hx) t
  held_step s e s' os hst t := by
    simp only [tally_through]
    cases hl : H.lift e with
    | some q =>
      obtain ⟨x, x', os', hx, hstep, hc, hv⟩ := H.moves _ _ _ _ q.1 q.2 hst hl
      have hset := tally_set (f := (C.held · t)) hx x'
      have hbal := C.held_step _ _ _ _ hstep t
      simp only [hc, hv, List.map_map, Function.comp_def, List.map_id']
      omega
    | none =>
      obtain ⟨new, hc, hnew, hv⟩ := H.grows _ _ _ _ hst hl
      have hz : tally (C.held · t) new = 0 :=
        tally_eq_zero.2 fun x hx => C.held_init x (hnew x hx) t
      simp [hc, hv, hz]

end Hosts
