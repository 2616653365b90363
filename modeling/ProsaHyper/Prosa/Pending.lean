import Mathlib.Data.List.AList
import ProsaHyper.Lib.Run

/-!
# Pending messages with a timer

`prosa::event::pending::PendingMsgs`: a map from identifiers to messages, each pushed with a timer.
`pull_msg` takes a message by its identifier, `pull` one whose timer ran out. Time is left open: a
timer runs out in a step of its own, `elapse`.

* `count`: the total of a measure over the pending messages; `count_push` and `count_erase` say how
  it changes.
* `load`: the steps that are left until every message is pulled by its timer.
-/

set_option autoImplicit false

namespace Prosa

/-- The pending messages, and the identifiers of those whose timer ran out. -/
structure PendingMsgs (T : Type) where
  msgs : AList fun _ : Nat => T
  expired : List Nat

namespace PendingMsgs

variable {T : Type}

def empty : PendingMsgs T := ⟨∅, []⟩

def isEmpty (p : PendingMsgs T) : Bool := p.msgs.entries.isEmpty

/-- The messages without their identifiers. -/
def all (p : PendingMsgs T) : List T := p.msgs.entries.map (·.2)

/-- `push_with_id`. -/
def pushWithId (p : PendingMsgs T) (id : Nat) (msg : T) : PendingMsgs T :=
  { p with msgs := p.msgs.insert id msg }

/-- The entry `id` is removed with its timer. -/
def erase (p : PendingMsgs T) (id : Nat) : PendingMsgs T :=
  ⟨p.msgs.erase id, p.expired.filter (· != id)⟩

/-- `pull_msg`. -/
def pullMsg (p : PendingMsgs T) (id : Nat) : Option (T × PendingMsgs T) :=
  (p.msgs.lookup id).map fun msg => (msg, p.erase id)

/-- The timer of the entry `id` runs out. -/
def elapse (p : PendingMsgs T) (id : Nat) : Option (PendingMsgs T) :=
  if id ∈ p.msgs ∧ id ∉ p.expired then some { p with expired := id :: p.expired } else none

/-- `pull`, when it answers the entry `id`. -/
def pull (p : PendingMsgs T) (id : Nat) : Option (T × PendingMsgs T) :=
  if id ∈ p.expired then p.pullMsg id else none

/-- The total of `f` over the pending messages. -/
def count (f : T → Nat) (p : PendingMsgs T) : Nat := tally f p.all

/-- The steps left: an entry is pulled, once its timer ran out. -/
def load (p : PendingMsgs T) : Nat :=
  tally (fun m => if m.1 ∈ p.expired then 1 else 2) p.msgs.entries

section
variable {p p' : PendingMsgs T} {id id' : Nat} {msg : T}

@[simp] theorem all_empty : (empty : PendingMsgs T).all = [] := rfl
@[simp] theorem msgs_erase : (p.erase id).msgs = p.msgs.erase id := rfl
@[simp] theorem msgs_pushWithId : (p.pushWithId id msg).msgs = p.msgs.insert id msg := rfl

theorem pullMsg_eq_some {msg : T} :
    p.pullMsg id = some (msg, p') ↔ p.msgs.lookup id = some msg ∧ p' = p.erase id := by
  simp only [pullMsg, Option.map_eq_some_iff, Prod.mk.injEq]
  constructor
  · rintro ⟨m, hm, rfl, rfl⟩
    exact ⟨hm, rfl⟩
  · rintro ⟨hm, rfl⟩
    exact ⟨msg, hm, rfl, rfl⟩

theorem pullMsg_eq_none : p.pullMsg id = none ↔ id ∉ p.msgs := by
  rw [pullMsg, Option.map_eq_none_iff, AList.lookup_eq_none]

theorem pull_eq_some {msg : T} : p.pull id = some (msg, p') ↔
    id ∈ p.expired ∧ p.msgs.lookup id = some msg ∧ p' = p.erase id := by
  unfold pull
  split <;> rename_i h <;> simp [h, pullMsg_eq_some]

theorem elapse_eq_some : p.elapse id = some p' ↔
    (id ∈ p.msgs ∧ id ∉ p.expired) ∧ p' = { p with expired := id :: p.expired } := by
  unfold elapse
  split <;> rename_i h <;> simp [h, eq_comm]

/-- A message pushed under a fresh identifier counts once more. -/
theorem count_push (msg : T) (f : T → Nat) (h : id ∉ p.msgs) :
    (p.pushWithId id msg).count f = f msg + p.count f := by
  rw [count, all, msgs_pushWithId, AList.entries_insert_of_notMem h]
  rfl

/-- A removed message no longer counts. -/
theorem count_erase (f : T → Nat) (h : p.msgs.lookup id = some msg) :
    f msg + (p.erase id).count f = p.count f := by
  have hk : id ∈ p.msgs.entries.keys :=
    AList.mem_keys.1 (AList.lookup_isSome.1 (by rw [h]; rfl))
  obtain ⟨b, l₁, l₂, hn, he, hk⟩ := List.exists_of_kerase hk
  have hb : b = msg := by
    have hl : p.msgs.entries.dlookup id = some b :=
      (List.mem_dlookup_iff p.msgs.nodupKeys).2 (by rw [he]; simp)
    rw [AList.lookup, hl] at h
    exact Option.some.inj h
  have hl : (p.erase id).msgs.entries = l₁ ++ l₂ := hk
  rw [count, count, all, all, hl, he]
  simp only [List.map_append, List.map_cons, tally_append, tally_cons, hb]
  omega

@[simp] theorem load_empty : (empty : PendingMsgs T).load = 0 := rfl

theorem load_push (p : PendingMsgs T) (id : Nat) (msg : T) :
    (p.pushWithId id msg).load ≤ p.load + 2 := by
  have hent : (p.pushWithId id msg).msgs.entries = ⟨id, msg⟩ :: p.msgs.entries.kerase id := rfl
  have hle : tally (fun m : Sigma fun _ : Nat => T => if m.1 ∈ p.expired then 1 else 2)
      (p.msgs.entries.kerase id) ≤ p.load := tally_sublist (List.kerase_sublist id _)
  rw [load, hent, tally_cons]
  have hone : (if id ∈ p.expired then 1 else 2) ≤ 2 := by split <;> omega
  exact Nat.le_trans (Nat.add_le_add hone hle) (Nat.le_of_eq (Nat.add_comm _ _))

theorem load_erase (h : id ∈ p.msgs) : (p.erase id).load < p.load := by
  obtain ⟨b, l₁, l₂, hn, he, hk⟩ := List.exists_of_kerase (AList.mem_keys.1 h)
  have hn₂ : id ∉ l₂.keys := by
    have hnd := p.msgs.nodupKeys
    rw [he, List.NodupKeys, List.keys_append, List.keys_cons] at hnd
    exact (List.nodup_cons.1 (List.nodup_append.1 hnd).2.1).1
  have keep : ∀ l : List (Sigma fun _ : Nat => T), id ∉ l.keys →
      tally (fun m => if m.1 ∈ (p.erase id).expired then 1 else 2) l =
        tally (fun m => if m.1 ∈ p.expired then 1 else 2) l := by
    intro l hl
    refine tally_congr fun m hm => ?_
    have hne : m.1 ≠ id := fun hid => hl (hid ▸ List.mem_keys_of_mem hm)
    simp [erase, hne]
  have hent : (p.erase id).msgs.entries = l₁ ++ l₂ := hk
  rw [load, load, hent, he, tally_append, tally_append, tally_cons, keep l₁ hn, keep l₂ hn₂]
  split <;> omega

theorem load_elapse (h : p.elapse id = some p') : p'.load < p.load := by
  obtain ⟨⟨hm, hn⟩, rfl⟩ := elapse_eq_some.1 h
  obtain ⟨msg, hmem⟩ := List.mem_keys.1 (AList.mem_keys.1 hm)
  refine tally_lt (fun m _ => ?_) hmem (by simp [hn])
  by_cases he : m.1 ∈ p.expired <;> by_cases hid : m.1 = id <;> simp [he, hid, hn]

end

end PendingMsgs

end Prosa
