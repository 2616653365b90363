import ProsaHyper.Lib.Run

/-!
# A bounded channel with one receiver

`Chan α`: the messages queued, oldest first, the capacity, whether the receiver exists and
whether some sender exists. A channel never holds more than its capacity, and one without a
receiver holds nothing: both are fields, so every operation re-establishes them.

* `send`: a message is queued if the receiver exists and there is room.
* `recv`: the oldest message.
* `dropRx`, `dropTx`: the receiver is dropped with what is queued; the last sender is dropped.
-/

set_option autoImplicit false

/-- A bounded channel. -/
structure Chan (α : Type) where
  buf : List α
  cap : Nat
  rx : Bool
  tx : Bool
  bound : buf.length ≤ cap
  closed : rx = false → buf = []

namespace Chan

variable {α : Type}

/-- An empty channel of capacity `n`; `tx`: a sender has been handed out. -/
def new (n : Nat) (tx : Bool) : Chan α where
  buf := []
  cap := n
  rx := true
  tx := tx
  bound := Nat.zero_le _
  closed := fun _ => rfl

/-- A send that does not wait: `none` when the receiver is gone or the channel is full. -/
def send (c : Chan α) (a : α) : Option (Chan α) :=
  if h : c.rx = true ∧ c.buf.length < c.cap then
    some { c with
      buf := c.buf ++ [a]
      bound := by rw [List.length_append, List.length_singleton]; exact h.2
      closed := fun hr => absurd h.1 (by simp [hr]) }
  else none

/-- The oldest message and the rest of the channel. -/
def recv (c : Chan α) : Option (α × Chan α) :=
  match h : c.buf with
  | [] => none
  | a :: l => some (a, { c with
      buf := l
      bound := by have := c.bound; rw [h, List.length_cons] at this; omega
      closed := fun hr => by have := c.closed hr; rw [h] at this; cases this })

/-- The receiver is dropped, with the messages still queued. -/
def dropRx (c : Chan α) : Chan α where
  buf := []
  cap := c.cap
  rx := false
  tx := c.tx
  bound := Nat.zero_le _
  closed := fun _ => rfl

/-- A sender is handed out (`true`) or the last one dropped (`false`). -/
def setTx (c : Chan α) (b : Bool) : Chan α := { c with tx := b }

@[simp] theorem new_buf (n : Nat) (tx : Bool) : (new n tx : Chan α).buf = [] := rfl
@[simp] theorem new_rx (n : Nat) (tx : Bool) : (new n tx : Chan α).rx = true := rfl
@[simp] theorem dropRx_buf (c : Chan α) : c.dropRx.buf = [] := rfl
@[simp] theorem dropRx_rx (c : Chan α) : c.dropRx.rx = false := rfl
@[simp] theorem setTx_buf (c : Chan α) (b : Bool) : (c.setTx b).buf = c.buf := rfl
@[simp] theorem setTx_rx (c : Chan α) (b : Bool) : (c.setTx b).rx = c.rx := rfl
@[simp] theorem setTx_tx (c : Chan α) (b : Bool) : (c.setTx b).tx = b := rfl

theorem send_eq_some {c c' : Chan α} {a : α} (h : c.send a = some c') :
    c.rx = true ∧ c.buf.length < c.cap ∧ c'.buf = c.buf ++ [a] ∧ c'.rx = true ∧ c'.tx = c.tx ∧
      c'.cap = c.cap := by
  unfold send at h
  split at h
  · rename_i hc
    cases h
    exact ⟨hc.1, hc.2, rfl, hc.1, rfl, rfl⟩
  · cases h

theorem recv_eq_some {c c' : Chan α} {a : α} (h : c.recv = some (a, c')) :
    c.buf = a :: c'.buf ∧ c'.rx = c.rx ∧ c'.tx = c.tx ∧ c'.cap = c.cap := by
  unfold recv at h
  split at h
  · cases h
  · rename_i b l hb
    cases h
    exact ⟨hb, rfl, rfl, rfl⟩

theorem recv_eq_none {c : Chan α} : c.recv = none ↔ c.buf = [] := by
  unfold recv
  split
  · rename_i h; simp [h]
  · rename_i h; simp [h]

theorem recv_cons {c : Chan α} {a : α} {l : List α} (h : c.buf = a :: l) :
    ∃ c', c.recv = some (a, c') ∧ c'.buf = l ∧ c'.rx = c.rx ∧ c'.tx = c.tx ∧ c'.cap = c.cap := by
  cases hr : c.recv with
  | none => rw [recv_eq_none.1 hr] at h; cases h
  | some q =>
    obtain ⟨b, c'⟩ := q
    obtain ⟨hb, h1, h2, h3⟩ := recv_eq_some hr
    rw [h, List.cons.injEq] at hb
    obtain ⟨rfl, rfl⟩ := hb
    exact ⟨c', rfl, rfl, h1, h2, h3⟩

/-- A measure of what is queued, as a message is taken and sent. -/
theorem tally_recv {f : α → Nat} {c c' : Chan α} {a : α} (h : c.recv = some (a, c')) :
    tally f c.buf = f a + tally f c'.buf := by
  rw [(recv_eq_some h).1, tally_cons]

theorem tally_send {f : α → Nat} {c c' : Chan α} {a : α} (h : c.send a = some c') :
    tally f c'.buf = tally f c.buf + f a := by
  rw [(send_eq_some h).2.2.1]
  simp

end Chan
