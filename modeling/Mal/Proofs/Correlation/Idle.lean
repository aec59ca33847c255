import Mal.Proofs.Correlation.Mailbox

/-!
# From idle to idle

A correlator is idle if nothing is pending and the mailboxes that are still to be given out are
empty. From there an interaction with one reply goes like this: it starts, its reply comes in and is
reported to its listener or is collected by its waiter, and the correlator is idle again.

## Key results

- `Idle.initiate`: an idle correlator starts every interaction
- `Idle.reported`, `Idle.collected`: what becomes of its one reply
-/

namespace Mal.Correlator

/-- Nothing is pending, and nothing is in the mailboxes of exchanges that are still to be made. -/
structure Idle (c : Correlator) : Prop where
  free (id : TransactionId) : c.exchanges.get? id = none
  empty (serial : Nat) : c.made ≤ serial → c.mailbox serial = []

namespace Idle

/-- A new correlator is idle. -/
theorem new (allocator : Allocator) (patience : UInt64) :
    Idle { allocator := allocator, patience := patience } where
  free _ := rfl
  empty _ _ := rfl

variable {c : Correlator}

/-- How far the ids have come does not matter. -/
theorem allocator (h : c.Idle) (a : Allocator) : Idle { c with allocator := a } where
  free := h.free
  empty := h.empty

/-- Forgetting what is not there changes nothing. -/
theorem abandon (h : c.Idle) (id : TransactionId) : (c.abandon id).1.Idle where
  free id' := by
    rw [Correlator.abandon, Directory.get?_erase, h.free, ite_self]
  empty := h.empty

/-- An idle correlator takes the next id there is. -/
theorem initiate (h : c.Idle) (seconds : UInt64) {p : Pattern} {stage : Option Stage}
    {state? : Option ReplyState} (hstate : ReplyState.initial p stage = .ok state?)
    (l : Option Listener) :
    ∃ id a, c.initiate seconds p stage l =
      (match state? with
        | none => { c with allocator := a }
        | some st => { c with allocator := a }.add id p st l, .ok id) := by
  have hfree (id : TransactionId) : c.contains id = false := contains_eq_false_iff.2 (h.free id)
  have hnext : c.allocator.next (fun _ => seconds) c.contains =
      some ((c.allocator.turn seconds).id, c.allocator.turn seconds) := by
    -- the first id is free, so the search ends with it
    show Allocator.search _ _ (0x1FFFFFF + 1) 0 _ = _
    simp [Allocator.search, hfree]
  refine ⟨(c.allocator.turn seconds).id, c.allocator.turn seconds, ?_⟩
  simp only [Correlator.initiate, hstate, hnext]
  cases state? <;> rfl

variable {id : TransactionId} {p : Pattern} {st next : ReplyState} {m : Message}

/-- The exchange that was added last. -/
private theorem get?_add_self (c : Correlator) (id : TransactionId) (p : Pattern) (st : ReplyState)
    (l : Option Listener) :
    (c.add id p st l).exchanges.get? id = some ⟨c.made, p, st, l⟩ := by
  rw [add_get?, if_pos rfl]

/-- A listener is told the one reply, and the correlator is idle again. -/
theorem reported (h : c.Idle) (hid : m.header.transaction = some id)
    (hnext : st.receive m.header = .ok next) (hover : next.isFinished = true) (l : Listener) :
    ∃ k, (c.add id p st (some l)).receive m = (k, .ok (some ⟨c.made, l, .ofMessage m⟩)) ∧
      k.Idle := by
  let added := c.add id p st (some l)
  have hx := get?_add_self c id p st (some l)
  have hreceive : added.receive m = ({ added with exchanges := added.exchanges.erase id },
      .ok (some ⟨c.made, l, .ofMessage m⟩)) := by
    simp only [added, Correlator.receive, hid, hx, hnext, hover, if_true]
  refine ⟨_, hreceive, ?_, ?_⟩
  · -- no exchange but the new one was there, and that is gone
    intro id'
    rw [Directory.get?_erase, add_get?]
    by_cases hne : id' = id
    · rw [if_pos hne]
    · rw [if_neg hne, if_neg (Ne.symm hne), h.free]
  · -- nor is there anything in a mailbox that is still to be made
    exact fun serial hle => h.empty serial (Nat.le_of_succ_le hle)

/-- A wait begins at once. -/
theorem await_add (c : Correlator) (id : TransactionId) (p : Pattern) (st : ReplyState) :
    (c.add id p st none).await id = .ok ⟨id, c.made⟩ := by
  simp only [await, get?_add_self c id p st none]

/-- A waiter collects the one reply, and the correlator is idle again. -/
theorem collected (h : c.Idle) (hid : m.header.transaction = some id)
    (hnext : st.receive m.header = .ok next) (hover : next.isFinished = true) :
    ∃ k k', (c.add id p st none).receive m = (k, .ok none) ∧
      k.collect ⟨id, c.made⟩ = some (waited m, k') ∧ k'.Idle := by
  let added := c.add id p st none
  let kept := { added with exchanges := added.exchanges.put id ⟨c.made, p, next, none⟩ }
  have hx := get?_add_self c id p st none
  have hreceive : added.receive m = (kept.post c.made ⟨waited m, true⟩, .ok none) := by
    simp only [added, kept, Correlator.receive, hid, hx, hnext, hover]
    rfl
  generalize hposted : kept.post c.made ⟨waited m, true⟩ = posted at hreceive
  -- the reply is all that is in the mailboxes
  have hbox (serial : Nat) (hle : c.made ≤ serial) :
      posted.mailbox serial = if c.made = serial then [⟨waited m, true⟩] else [] := by
    have hempty : kept.mailbox serial = [] := h.empty serial hle
    rw [← hposted, mailbox_post, hempty]
    rfl
  refine ⟨posted, ?_⟩
  rcases posted.collect_cases ⟨id, c.made⟩ with
    ⟨hnothing, -⟩ | ⟨d, rest, k, hfull, hcollect, hmail, hrest⟩
  · -- the mailbox is not empty
    rw [hbox c.made (Nat.le_refl _), if_pos rfl] at hnothing
    cases hnothing
  · rw [hbox c.made (Nat.le_refl _), if_pos rfl] at hfull
    cases hfull
    refine ⟨k, hreceive, hcollect, ?_, ?_⟩
    · -- the exchange is released, and there is no other
      intro id'
      rw [hrest, if_pos rfl, release_get?, ← hposted]
      simp only [kept, added, post_exchanges, Directory.get?_put, add_get?]
      by_cases hne : id = id'
      · simp [hne]
      · simp [hne, h.free]
    · intro serial hle
      -- collecting makes no exchange, so the mailboxes to come are those after the new one
      have hmade : k.made = c.made + 1 := by
        simp only [collect, hbox c.made (Nat.le_refl _), if_true] at hcollect
        cases hcollect
        rw [← hposted]
        rfl
      rw [hmade] at hle
      have hne : c.made ≠ serial := Nat.ne_of_lt hle
      rw [hmail, if_neg hne, hbox serial (Nat.le_of_succ_le hle), if_neg hne]

end Idle

end Mal.Correlator
