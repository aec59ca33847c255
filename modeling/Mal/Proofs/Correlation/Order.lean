import Mal.Proofs.Correlation.Contents
import Mal.Proofs.Correlation.Ids

/-!
# Desks in order

A desk is in order if its transaction ids are in their bounds and the replies in its mailboxes fit
their transactions. It stays in order as long as the replies that come in fit the transactions that
they name, and the clock reads a later second whenever the ids wrap.

## Key results

- `lt_initiate`: an interaction that is started gets an id greater than all before it
- `wellFormed_step`: ids never fall
- `InOrder.step`: order is kept by every operation
-/

namespace Mal

namespace Desk

/-- If the operation looks for a transaction id, the clock reads a later second at every wrap. -/
def ReadsLater (d : Desk) : Op → Prop
  | .initiate seconds _ _ _ =>
    Allocator.SearchReadsLater (fun _ => seconds) d.table.contains Allocator.turnBound 0
      d.table.allocator
  | _ => True

/-- The greatest transaction id that was given out. -/
def lastId (d : Desk) : Nat := d.table.allocator.id.toNat

/-- A desk whose ids are in their bounds, and whose replies fit their transactions. -/
structure InOrder (fits : TransactionId → Message → Prop) (d : Desk) : Prop where
  sound : d.Sound
  coherent : d.Coherent
  allocator : d.table.allocator.WellFormed
  replies : d.Replies fits

variable {fits fits' : TransactionId → Message → Prop} {d : Desk}

theorem InOrder.mono (h : d.InOrder fits) (hfits : ∀ id m, fits id m → fits' id m) :
    d.InOrder fits' :=
  ⟨h.sound, h.coherent, h.allocator, h.replies.mono hfits⟩

/-- An interaction that is started gets an id greater than all before it. -/
theorem lt_initiate (hw : d.table.allocator.WellFormed) {seconds : UInt64} {p : Pattern}
    {stage : Option Stage} {l : Option Listener} {c : Correlator} {id : TransactionId}
    (hreads : d.ReadsLater (.initiate seconds p stage l))
    (h : d.table.initiate seconds p stage l = (c, .ok id)) :
    c.allocator.WellFormed ∧ c.allocator.id = id ∧ d.lastId < id.toNat := by
  obtain ⟨a, state?, _, hnext, rfl⟩ := Correlator.initiate_eq_ok h
  have hsearch := hw.lt_search hreads hnext
  cases state? with
  | none => exact hsearch
  | some st => exact hsearch

/-- No operation but a start moves the allocator. -/
private theorem allocator_step (d : Desk) {op : Op}
    (hop : ∀ seconds p stage l, op ≠ .initiate seconds p stage l) :
    (d.step op).1.table.allocator = d.table.allocator := by
  cases op with
  | initiate seconds p stage l => exact absurd rfl (hop seconds p stage l)
  | resume p last id l =>
    -- the other operations that go through the table keep its allocator in all their cases
    have h := d.table.resume_resumed p last id l
    simp only [step]
    generalize d.table.resume p last id l = result at h
    cases h <;> rfl
  | receive m =>
    have h := d.table.receive_received m
    simp only [step]
    generalize d.table.receive m = result at h
    cases h <;> rfl
  | fail now header failure =>
    have h := d.table.fail_failed now header failure
    simp only [step]
    generalize d.table.fail now header failure = result at h
    cases h <;> rfl
  | abandon id => rfl
  | shutdown now => exact Correlator.shutdown_allocator d.table now
  | await id =>
    simp only [step]
    split <;> rfl
  | collect t =>
    simp only [step]
    split
    · split
      · next h => exact Correlator.collect_allocator h
      · rfl
    · rfl
  | expire t milliseconds =>
    simp only [step]
    split <;> rfl

/-- Ids stay in their bounds, and never fall. -/
theorem wellFormed_step (hw : d.table.allocator.WellFormed) (op : Op) (hreads : d.ReadsLater op) :
    (d.step op).1.table.allocator.WellFormed ∧ d.lastId ≤ (d.step op).1.lastId := by
  cases op with
  | initiate seconds p stage l =>
    cases h : d.table.initiate seconds p stage l with
    | mk c result =>
      simp only [step, h]
      cases result with
      | error failure =>
        -- a start that is refused leaves the table as it is
        obtain rfl := Correlator.initiate_eq_error h
        exact ⟨hw, Nat.le_refl _⟩
      | ok id =>
        obtain ⟨hc, hid, hlt⟩ := lt_initiate hw hreads h
        refine ⟨hc, ?_⟩
        -- the id that was given out is the one the allocator stands at
        show d.lastId ≤ c.allocator.id.toNat
        rw [hid]
        exact Nat.le_of_lt hlt
  | _ =>
    rw [lastId, lastId, allocator_step d (by simp)]
    exact ⟨hw, Nat.le_refl _⟩

/-- Order is kept by every operation, if the replies that come in fit. -/
theorem InOrder.step (h : d.InOrder fits) (op : Op) (hreads : d.ReadsLater op)
    (hop : ∀ m id, op = .receive m → m.header.transaction = some id →
      m.header.isError = false → fits id m) : (d.step op).1.InOrder fits where
  sound := h.sound.step op
  coherent := h.coherent.step h.sound op
  allocator := (wellFormed_step h.allocator op hreads).1
  replies := h.replies.step h.sound h.coherent op hop

end Desk

end Mal
