import ProsaHyper.Lib.Run

/-!
# Two machines that exchange messages

Each machine has a `Port`: which outputs put a message on the wire for the other one, which event
takes a message off the wire, and which events the rest of the world may cause. `link` runs both in
any interleaving. A message stays on the wire until it is taken, in any order, and once.

* `Link.left_of_run`, `Link.right_of_run`: each machine has a run of its own.
* `Link.left_read`, `Link.right_read`: what a machine took off the wire, the other one put there.
-/

set_option autoImplicit false

/-- What a machine with the events `ε` and the outputs `ο` sends (`α`) and takes (`β`); `ρ` is what
else an event says that takes a message. -/
structure Port (ε ο ρ α β : Type) where
  emit : ο → Option α
  read : ρ → β → ε
  free : ε → Bool

/-- The states of two machines and the messages on the wire. -/
structure Linked (σ σ' α β : Type) where
  left : σ
  right : σ'
  toRight : List α
  toLeft : List β

/-- An event of one machine, caused by the rest of the world or by the `k`-th message for it. -/
inductive LinkEv (ε ε' ρ ρ' : Type)
  | left (e : ε)
  | right (e : ε')
  | readLeft (d : ρ) (k : Nat)
  | readRight (d : ρ') (k : Nat)

section
variable {σ ε ο σ' ε' ο' ρ ρ' α β : Type}

/-- The two machines side by side. -/
def link (A : Machine σ ε ο) (B : Machine σ' ε' ο') (p : Port ε ο ρ α β) (q : Port ε' ο' ρ' β α) :
    Machine (Linked σ σ' α β) (LinkEv ε ε' ρ ρ') (ο ⊕ ο') where
  init s := A.init s.left ∧ B.init s.right ∧ s.toRight = [] ∧ s.toLeft = []
  step s
    | .left e =>
      if p.free e then
        (A.step s.left e).map fun r =>
          ({ s with left := r.1, toRight := s.toRight ++ r.2.filterMap p.emit }, r.2.map .inl)
      else none
    | .right e =>
      if q.free e then
        (B.step s.right e).map fun r =>
          ({ s with right := r.1, toLeft := s.toLeft ++ r.2.filterMap q.emit }, r.2.map .inr)
      else none
    | .readLeft d k =>
      match s.toLeft[k]? with
      | none => none
      | some b =>
        (A.step s.left (p.read d b)).map fun r =>
          ({ s with
              left := r.1
              toLeft := s.toLeft.eraseIdx k
              toRight := s.toRight ++ r.2.filterMap p.emit }, r.2.map .inl)
    | .readRight d k =>
      match s.toRight[k]? with
      | none => none
      | some a =>
        (B.step s.right (q.read d a)).map fun r =>
          ({ s with
              right := r.1
              toRight := s.toRight.eraseIdx k
              toLeft := s.toLeft ++ r.2.filterMap q.emit }, r.2.map .inr)

namespace Link

variable {A : Machine σ ε ο} {B : Machine σ' ε' ο'} {p : Port ε ο ρ α β} {q : Port ε' ο' ρ' β α}

/-- The steps of a link. -/
inductive Moves (A : Machine σ ε ο) (B : Machine σ' ε' ο') (p : Port ε ο ρ α β)
    (q : Port ε' ο' ρ' β α) (s : Linked σ σ' α β) :
    LinkEv ε ε' ρ ρ' → Linked σ σ' α β → List (ο ⊕ ο') → Prop
  | left {e : ε} {x : σ} {os : List ο} : p.free e = true → A.step s.left e = some (x, os) →
      Moves A B p q s (.left e)
        { s with left := x, toRight := s.toRight ++ os.filterMap p.emit } (os.map .inl)
  | right {e : ε'} {y : σ'} {os : List ο'} : q.free e = true → B.step s.right e = some (y, os) →
      Moves A B p q s (.right e)
        { s with right := y, toLeft := s.toLeft ++ os.filterMap q.emit } (os.map .inr)
  | readLeft {d : ρ} {k : Nat} {b : β} {x : σ} {os : List ο} : s.toLeft[k]? = some b →
      A.step s.left (p.read d b) = some (x, os) → Moves A B p q s (.readLeft d k)
        { s with
          left := x
          toLeft := s.toLeft.eraseIdx k
          toRight := s.toRight ++ os.filterMap p.emit } (os.map .inl)
  | readRight {d : ρ'} {k : Nat} {a : α} {y : σ'} {os : List ο'} : s.toRight[k]? = some a →
      B.step s.right (q.read d a) = some (y, os) → Moves A B p q s (.readRight d k)
        { s with
          right := y
          toRight := s.toRight.eraseIdx k
          toLeft := s.toLeft ++ os.filterMap q.emit } (os.map .inr)

/-- **Every step is one of `Moves`.** -/
theorem moves_of_step {s s' : Linked σ σ' α β} {e : LinkEv ε ε' ρ ρ'} {os : List (ο ⊕ ο')}
    (h : (link A B p q).step s e = some (s', os)) : Moves A B p q s e s' os := by
  cases e with
  | left e =>
    simp only [link] at h
    split at h
    · rename_i hf
      obtain ⟨⟨x, os⟩, hst, heq⟩ := Option.map_eq_some_iff.1 h
      cases heq
      exact .left hf hst
    · cases h
  | right e =>
    simp only [link] at h
    split at h
    · rename_i hf
      obtain ⟨⟨y, os⟩, hst, heq⟩ := Option.map_eq_some_iff.1 h
      cases heq
      exact .right hf hst
    · cases h
  | readLeft d k =>
    simp only [link] at h
    split at h
    · cases h
    · rename_i b hb
      obtain ⟨⟨x, os⟩, hst, heq⟩ := Option.map_eq_some_iff.1 h
      cases heq
      exact .readLeft hb hst
  | readRight d k =>
    simp only [link] at h
    split at h
    · cases h
    · rename_i a ha
      obtain ⟨⟨y, os⟩, hst, heq⟩ := Option.map_eq_some_iff.1 h
      cases heq
      exact .readRight ha hst

/-! ## The machines on their own -/

/-- The history of the left machine. -/
def lefts (p : Port ε ο ρ α β) (tr : List (Rec (Linked σ σ' α β) (LinkEv ε ε' ρ ρ') (ο ⊕ ο'))) :
    List (Rec σ ε ο) :=
  tr.filterMap fun r =>
    match r.ev with
    | .left e => some ⟨r.pre.left, e, r.out.filterMap Sum.getLeft?, r.post.left⟩
    | .readLeft d k => (r.pre.toLeft[k]?).map fun b =>
        ⟨r.pre.left, p.read d b, r.out.filterMap Sum.getLeft?, r.post.left⟩
    | _ => none

/-- The history of the right machine. -/
def rights (q : Port ε' ο' ρ' β α)
    (tr : List (Rec (Linked σ σ' α β) (LinkEv ε ε' ρ ρ') (ο ⊕ ο'))) : List (Rec σ' ε' ο') :=
  tr.filterMap fun r =>
    match r.ev with
    | .right e => some ⟨r.pre.right, e, r.out.filterMap Sum.getRight?, r.post.right⟩
    | .readRight d k => (r.pre.toRight[k]?).map fun a =>
        ⟨r.pre.right, q.read d a, r.out.filterMap Sum.getRight?, r.post.right⟩
    | _ => none

@[simp] theorem lefts_append (tr tr' : List (Rec (Linked σ σ' α β) (LinkEv ε ε' ρ ρ') (ο ⊕ ο'))) :
    lefts p (tr ++ tr') = lefts p tr ++ lefts p tr' :=
  List.filterMap_append

@[simp] theorem rights_append
    (tr tr' : List (Rec (Linked σ σ' α β) (LinkEv ε ε' ρ ρ') (ο ⊕ ο'))) :
    rights q (tr ++ tr') = rights q tr ++ rights q tr' :=
  List.filterMap_append

@[simp] theorem filterMap_getLeft? (os : List ο) :
    os.filterMap ((Sum.getLeft? : ο ⊕ ο' → Option ο) ∘ .inl) = os := by
  simp [Function.comp_def]

@[simp] theorem filterMap_getRight? (os : List ο') :
    os.filterMap ((Sum.getRight? : ο ⊕ ο' → Option ο') ∘ .inr) = os := by
  simp [Function.comp_def]

section
variable {s s' : Linked σ σ' α β} {e : LinkEv ε ε' ρ ρ'} {os : List (ο ⊕ ο')}

/-- What a step of the link is to the left machine: nothing, or a step of its own. -/
theorem left_of_step (h : (link A B p q).step s e = some (s', os)) :
    (lefts p [⟨s, e, os, s'⟩] = [] ∧ s'.left = s.left) ∨
      ∃ e' os', lefts p [⟨s, e, os, s'⟩] = [⟨s.left, e', os', s'.left⟩] ∧
        A.step s.left e' = some (s'.left, os') ∧
        (p.free e' = true ∨ ∃ d, ∃ b ∈ s.toLeft, e' = p.read d b) := by
  cases moves_of_step h with
  | @left e x os hf hst => exact .inr ⟨e, os, by simp [lefts], hst, .inl hf⟩
  | @readLeft d k b x os hb hst =>
    exact .inr ⟨p.read d b, os, by simp [lefts, hb], hst, .inr ⟨d, b, List.mem_of_getElem? hb, rfl⟩⟩
  | right | readRight => exact .inl ⟨rfl, rfl⟩

theorem right_of_step (h : (link A B p q).step s e = some (s', os)) :
    (rights q [⟨s, e, os, s'⟩] = [] ∧ s'.right = s.right) ∨
      ∃ e' os', rights q [⟨s, e, os, s'⟩] = [⟨s.right, e', os', s'.right⟩] ∧
        B.step s.right e' = some (s'.right, os') ∧
        (q.free e' = true ∨ ∃ d, ∃ a ∈ s.toRight, e' = q.read d a) := by
  cases moves_of_step h with
  | @right e y os hf hst => exact .inr ⟨e, os, by simp [rights], hst, .inl hf⟩
  | @readRight d k a y os ha hst =>
    exact .inr ⟨q.read d a, os, by simp [rights, ha], hst,
      .inr ⟨d, a, List.mem_of_getElem? ha, rfl⟩⟩
  | left | readLeft => exact .inl ⟨rfl, rfl⟩

/-- What is on the wire was there before, or was just put there. -/
theorem wire_of_step (h : (link A B p q).step s e = some (s', os)) :
    (∀ a ∈ s'.toRight, a ∈ s.toRight ∨ ∃ o ∈ outs (lefts p [⟨s, e, os, s'⟩]), p.emit o = some a) ∧
      ∀ b ∈ s'.toLeft, b ∈ s.toLeft ∨
        ∃ o ∈ outs (rights q [⟨s, e, os, s'⟩]), q.emit o = some b := by
  cases moves_of_step h with
  | @left e x os hf hst =>
    refine ⟨fun a ha => ?_, fun b hb => .inl hb⟩
    simpa [lefts] using ha
  | @right e y os hf hst =>
    refine ⟨fun a ha => .inl ha, fun b hb => ?_⟩
    simpa [rights] using hb
  | @readLeft d k b x os hb hst =>
    refine ⟨fun a ha => ?_, fun b hb => .inl (List.mem_of_mem_eraseIdx hb)⟩
    simpa [lefts, hb] using ha
  | @readRight d k a y os ha hst =>
    refine ⟨fun a ha => .inl (List.mem_of_mem_eraseIdx ha), fun b hb => ?_⟩
    simpa [rights, ha] using hb

end

section
variable {s : Linked σ σ' α β} {tr : List (Rec (Linked σ σ' α β) (LinkEv ε ε' ρ ρ') (ο ⊕ ο'))}
  (hr : (link A B p q).Run tr s)
include hr

/-- **The left machine runs on its own.** -/
theorem left_of_run : A.Run (lefts p tr) s.left := by
  induction hr with
  | start hi => exact .start hi.1
  | next hr hst ih =>
    rw [lefts_append]
    rcases left_of_step hst with ⟨hnil, hsame⟩ | ⟨e', os', hone, hst', -⟩
    · rw [hnil, List.append_nil, hsame]
      exact ih
    · rw [hone]
      exact ih.next hst'

/-- **The right machine runs on its own.** -/
theorem right_of_run : B.Run (rights q tr) s.right := by
  induction hr with
  | start hi => exact .start hi.2.1
  | next hr hst ih =>
    rw [rights_append]
    rcases right_of_step hst with ⟨hnil, hsame⟩ | ⟨e', os', hone, hst', -⟩
    · rw [hnil, List.append_nil, hsame]
      exact ih
    · rw [hone]
      exact ih.next hst'

theorem wire_of_run : (∀ a ∈ s.toRight, ∃ o ∈ outs (lefts p tr), p.emit o = some a) ∧
    ∀ b ∈ s.toLeft, ∃ o ∈ outs (rights q tr), q.emit o = some b := by
  induction hr with
  | start hi => simp [hi.2.2.1, hi.2.2.2]
  | next hr hst ih =>
    obtain ⟨hright, hleft⟩ := wire_of_step hst
    simp only [lefts_append, rights_append, outs_append, List.mem_append]
    refine ⟨fun a ha => ?_, fun b hb => ?_⟩
    · rcases hright a ha with ha | ⟨o, ho, he⟩
      · obtain ⟨o, ho, he⟩ := ih.1 a ha
        exact ⟨o, .inl ho, he⟩
      · exact ⟨o, .inr ho, he⟩
    · rcases hleft b hb with hb | ⟨o, ho, he⟩
      · obtain ⟨o, ho, he⟩ := ih.2 b hb
        exact ⟨o, .inl ho, he⟩
      · exact ⟨o, .inr ho, he⟩

/-- **What the left machine takes off the wire**, the right one put there. -/
theorem left_read : ∀ r ∈ lefts p tr, p.free r.ev = true ∨
    ∃ d b, r.ev = p.read d b ∧ ∃ o ∈ outs (rights q tr), q.emit o = some b := by
  induction hr with
  | start => simp [lefts]
  | next hr hst ih =>
    intro r hm
    rw [lefts_append, List.mem_append] at hm
    simp only [rights_append, outs_append, List.mem_append]
    rcases hm with hm | hm
    · rcases ih r hm with hf | ⟨d, b, he, o, ho, hb⟩
      · exact .inl hf
      · exact .inr ⟨d, b, he, o, .inl ho, hb⟩
    · rcases left_of_step hst with ⟨hnil, -⟩ | ⟨e', os', hone, -, hf | ⟨d, b, hb, rfl⟩⟩
      · rw [hnil] at hm
        cases hm
      · rw [hone] at hm
        cases List.mem_singleton.1 hm
        exact .inl hf
      · rw [hone] at hm
        cases List.mem_singleton.1 hm
        obtain ⟨o, ho, he⟩ := (wire_of_run hr).2 b hb
        exact .inr ⟨d, b, rfl, o, .inl ho, he⟩

/-- **What the right machine takes off the wire**, the left one put there. -/
theorem right_read : ∀ r ∈ rights q tr, q.free r.ev = true ∨
    ∃ d a, r.ev = q.read d a ∧ ∃ o ∈ outs (lefts p tr), p.emit o = some a := by
  induction hr with
  | start => simp [rights]
  | next hr hst ih =>
    intro r hm
    rw [rights_append, List.mem_append] at hm
    simp only [lefts_append, outs_append, List.mem_append]
    rcases hm with hm | hm
    · rcases ih r hm with hf | ⟨d, a, he, o, ho, ha⟩
      · exact .inl hf
      · exact .inr ⟨d, a, he, o, .inl ho, ha⟩
    · rcases right_of_step hst with ⟨hnil, -⟩ | ⟨e', os', hone, -, hf | ⟨d, a, ha, rfl⟩⟩
      · rw [hnil] at hm
        cases hm
      · rw [hone] at hm
        cases List.mem_singleton.1 hm
        exact .inl hf
      · rw [hone] at hm
        cases List.mem_singleton.1 hm
        obtain ⟨o, ho, he⟩ := (wire_of_run hr).1 a ha
        exact .inr ⟨d, a, rfl, o, .inl ho, he⟩

end

end Link

end
