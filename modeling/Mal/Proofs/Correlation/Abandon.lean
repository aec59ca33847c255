import Mal.Proofs.Correlation.Desk

/-!
# What an initiator abandons

An initiator that drops its handle, or whose first message cannot be sent, abandons its interaction
by transaction id. Between the start and that moment the interaction may have ended, and its id may
have been taken by another one: by a resumed interaction, or by the allocator once it has come
round. Then it is the other one that is removed.

Nothing else than that can go wrong: what stands under the id is the initiator's own exchange, or
one that was opened under the id after its own had left the table.

## Key results

- `opens_of_after`: whatever is pending after a run was pending before, or was opened in it
- `abandoned_own_iff`: whose exchange is abandoned
- `abandoned_other`: an initiator that removes the exchange of another
-/

namespace Mal

namespace Desk

/-- During a run the exchange with this serial number is opened under an id, where nothing is
    pending. -/
def Opens (d : Desk) (id : TransactionId) (n : Nat) (ops : List Op) : Prop :=
  ∃ earlier op later x, ops = earlier ++ op :: later ∧
    (d.after earlier).table.made = n ∧ (d.after earlier).table.exchanges.get? id = none ∧
      (d.after (earlier ++ [op])).table.exchanges.get? id = some x ∧ x.serial = n

section

variable {d : Desk} {id : TransactionId} {n : Nat}

/-- Whatever is opened later in a run is opened in the run. -/
private theorem Opens.cons {op : Op} {ops : List Op} (h : (d.step op).1.Opens id n ops) :
    d.Opens id n (op :: ops) := by
  obtain ⟨earlier, op', later, x, rfl, hmade, hfree, hx, hserial⟩ := h
  exact ⟨op :: earlier, op', later, x, rfl, hmade, hfree, hx, hserial⟩

/-- What is opened is newer than all that was there. -/
theorem Opens.made_le {ops : List Op} (h : d.Opens id n ops) : d.table.made ≤ n := by
  obtain ⟨earlier, _, _, _, _, hmade, _⟩ := h
  exact hmade ▸ d.made_le_after earlier

/-- An exchange that is pending after a run was pending before, under the same id, or was opened
    under it in the run. -/
theorem opens_of_after (d : Desk) (ops : List Op) {y : Exchange}
    (hy : (d.after ops).table.exchanges.get? id = some y) :
    (∃ x, d.table.exchanges.get? id = some x ∧ x.serial = y.serial) ∨
      d.Opens id y.serial ops := by
  induction ops generalizing d with
  | nil => exact .inl ⟨y, hy, rfl⟩
  | cons op ops ih =>
    -- the exchange was there after the first operation, or was opened by a later one
    rcases ih _ hy with ⟨z, hz, hserial⟩ | hopens
    · rcases d.pending_or_new op hz with ⟨x, hx, hx'⟩ | ⟨hfree, hnew⟩
      · exact .inl ⟨x, hx, hx'.trans hserial⟩
      · -- the first operation opened it, in a free place
        exact .inr ⟨[], op, ops, z, rfl, hnew.symm.trans hserial, hfree, hz, hserial⟩
    · exact .inr hopens.cons

end

/-- Whatever happens between the opening of an exchange and the moment it is abandoned, only what is
    pending under its id is removed. That is the exchange itself, if it is still pending, and
    otherwise one that was opened under the id meanwhile. -/
theorem abandoned_own_iff (a : Allocator) (patience : UInt64) (before later : List Op) (op : Op)
    {id : TransactionId} {x : Exchange} :
    let d := (new a patience).after before
    let opened := (d.step op).1
    let last := opened.after later
    let dropped := (last.step (.abandon id)).1
    opened.table.exchanges.get? id = some x → x.serial = d.table.made →
      (∀ id', dropped.table.exchanges.get? id' =
        if id' = id then none else last.table.exchanges.get? id') ∧
      ∀ y, last.table.exchanges.get? id = some y →
        (y.serial = x.serial ↔ last.Holds x.serial) ∧
        (y.serial ≠ x.serial ↔ opened.Opens id y.serial later) := by
  intro d opened last dropped hx hnew
  -- the desk stays sound, so that serial numbers tell exchanges apart
  have hopened : opened.Sound := ((sound_new a patience).after before).step op
  have hlast : last.Sound := hopened.after later
  have hlt := hopened.serial_lt hx
  refine ⟨fun id' => Directory.get?_erase .., ?_⟩
  intro y hy
  -- wherever the exchange is pending, it is pending under its id
  have hplace (id' : TransactionId) (z : Exchange) (hz : last.table.exchanges.get? id' = some z)
      (hserial : z.serial = x.serial) : id' = id := by
    rcases opened.opens_of_after later hz with ⟨w, hw, hw'⟩ | hopens
    · exact hopened.serial_inj hw hx (hw'.trans hserial)
    · -- what is opened later has a greater serial number
      have hle := hopens.made_le
      omega
  refine ⟨⟨fun heq => ⟨id, y, hy, heq⟩, ?_⟩, ?_, ?_⟩
  · rintro ⟨id', z, hz, hserial⟩
    obtain rfl := hplace id' z hz hserial
    cases hy.symm.trans hz
    exact hserial
  · -- another exchange under the id was not there at first, so it was opened in the run
    intro hne
    rcases opened.opens_of_after later hy with ⟨w, hw, hw'⟩ | hopens
    · cases hx.symm.trans hw
      exact absurd hw'.symm hne
    · exact hopens
  · -- an exchange that was opened in the run is newer than `x`
    intro hopens
    have hle := hopens.made_le
    omega

/-- An Invoke that is over when its handle is dropped, while another instance's Invoke has been
    resumed under its id. -/
theorem abandoned_own_iff_resumed :
    let reply (stage : Stage) : Message :=
      { header := { uriFrom := "p", uriTo := "c", pattern := .invoke, stage := some stage,
                    timestamp := 0, transaction := some 1 } }
    let opened := (new ⟨0, 0, 0⟩ 1000).after [.initiate 0 .invoke (some 1) none]
    let later : List Op :=
      [.await 1, .receive (reply 2), .collect ⟨1, 0⟩, .receive (reply 3), .collect ⟨1, 0⟩,
        .resume .invoke 2 1 (.interaction "app")]
    opened.table.exchanges.get? 1 = some ⟨0, .invoke, .invoke .awaitingAck, none⟩ ∧
      ¬ (opened.after later).Holds 0 ∧ opened.Opens 1 1 later := by
  intro reply opened later
  let x : Exchange := ⟨0, .invoke, .invoke .awaitingAck, none⟩
  have hx : opened.table.exchanges.get? 1 = some x := rfl
  obtain ⟨_, hother⟩ := abandoned_own_iff ⟨0, 0, 0⟩ 1000 [] later
    (.initiate 0 .invoke (some 1) none) hx rfl
  obtain ⟨hown, hopens⟩ := hother ⟨1, .invoke, .invoke .acknowledged, some (.interaction "app")⟩ rfl
  have hne : 1 ≠ x.serial := by decide
  exact ⟨hx, fun hholds => hne (hown.2 hholds), hopens.1 hne⟩

/-- There the handle takes the resumed interaction off the table. -/
theorem abandoned_other :
    let reply (stage : Stage) : Message :=
      { header := { uriFrom := "p", uriTo := "c", pattern := .invoke, stage := some stage,
                    timestamp := 0, transaction := some 1 } }
    let opened := (new ⟨0, 0, 0⟩ 1000).after [.initiate 0 .invoke (some 1) none]
    let last := opened.after
      [.await 1, .receive (reply 2), .collect ⟨1, 0⟩, .receive (reply 3), .collect ⟨1, 0⟩,
        .resume .invoke 2 1 (.interaction "app")]
    opened.table.exchanges.get? 1 = some ⟨0, .invoke, .invoke .awaitingAck, none⟩ ∧
      last.table.exchanges.get? 1 =
        some ⟨1, .invoke, .invoke .acknowledged, some (.interaction "app")⟩ ∧
      (last.step (.abandon 1)).1.table.exchanges.get? 1 = none :=
  ⟨rfl, rfl, rfl⟩

end Desk

end Mal
