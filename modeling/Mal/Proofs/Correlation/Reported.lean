import Mal.Proofs.Correlation.Abandon
import Mal.Proofs.Correlation.Commuting
import Mal.Proofs.Correlation.Listened
import Mal.Proofs.Correlation.Table

/-!
# Where an error is reported

An error that is no reply, a message that could not be sent for one, ends the interaction that its
header belongs to. The listener is told of it under a header that is made from the given one: a
header that is flagged as an error is kept, with the stage that it has; every other header is
answered at the stage that the interaction was waiting for, or kept because it is at this stage. So
the stage that was waited for is reported unless the header is flagged and at another stage
(`Correlator.errorHeader_stage`).

Whichever stage it is, the interaction is over: it has left the table, its listener is told nothing
more, and what comes in under its id is for nobody until another interaction uses the id.

## Key results

- `Correlator.errorHeader_stage`: the stage under which an error is reported
- `Desk.ended_of_failed`: what is left of an interaction that has failed
- `Desk.fail_reported_iff`: when an error is reported at the stage that was waited for
-/

namespace Mal

/-- No interaction waits for stage 0, the stage of a header without one. -/
private theorem ReplyState.OfPattern.pendingStage_ne_zero {p : Pattern} {st : ReplyState}
    {stage : Stage} (h : OfPattern p st) (hstage : st.pendingStage = some stage) : stage ≠ 0 := by
  rintro rfl
  cases h with
  | invoke phase | progress phase => cases phase <;> cases hstage
  | submit received | request received | register received | deregister received
  | publishRegister received | publishDeregister received => cases received <;> cases hstage

namespace Correlator

/-! ## The header of a report -/

variable {now : UInt64} {id : TransactionId} {x : Exchange} {stage : Stage} {h : Header}

/-- A header that is at the stage that was waited for is kept, one that is flagged as an error is
    kept at its own stage, and any other one is answered at the stage that was waited for. -/
theorem errorHeader_stage (now : UInt64) (id : TransactionId) (x : Exchange) (h : Header)
    (hstage : stage ≠ 0) :
    (errorHeader now id x stage (some h)).stage = if h.isError then h.stage else some stage := by
  cases herror : h.isError with
  | true => simp [errorHeader, herror]
  | false =>
    by_cases hat : h.stageOrZero = stage
    · -- the header has a stage, since none is waited for where there is none
      have hsome : h.stage = some stage := by
        unfold Header.stageOrZero at hat
        cases hs : h.stage with
        | none => exact absurd (hat.symm.trans (by rw [hs, Option.getD_none])) hstage
        | some s => rw [hs, Option.getD_some] at hat; rw [hat]
      simp [errorHeader, hat, hsome]
    · -- an unflagged header at another stage is answered at the stage waited for
      simp [errorHeader, herror, hat, Header.reply]

/-- Whatever header an error is reported under, it is flagged as an error. -/
private theorem errorHeader_isError (header : Option Header) :
    (errorHeader now id x stage header).isError = true := by
  cases header with
  | none => rfl
  | some h => simp only [errorHeader]; split <;> rfl

/-- A report keeps the transaction id of the header that is given. -/
private theorem errorHeader_transaction :
    (errorHeader now id x stage (some h)).transaction = h.transaction := by
  simp only [errorHeader]
  split <;> rfl

end Correlator

namespace Desk

/-! ## After the error -/

/-- What is left of the exchange `n`, which was pending under `id`. -/
structure Ended (d : Desk) (id : TransactionId) (n : Nat) : Prop where
  removed : d.table.exchanges.get? id = none
  /-- A reply or an error that comes in under the id is for nobody. -/
  unheard {op : Op} (h : op.handles? = some (some id)) : d.step op = (d, op.unheard)
  /-- Its listener is told nothing more, whatever happens. -/
  silent (ops : List Op) : d.told n ops = []
  /-- If something is told again of what comes in under the id, it is told of an interaction that
      was started in the meantime. -/
  later (ops : List Op) {op : Op} (h : op.handles? = some (some id)) :
    ∀ r ∈ ((d.after ops).step op).2.reports, d.table.made ≤ r.serial

/-- An exchange that has left the table under its id has ended. -/
theorem ended_of_failed {d : Desk} {id : TransactionId} {n : Nat} (hlt : n < d.table.made)
    (hnone : d.table.exchanges.get? id = none) (hgone : ¬ d.Holds n) : d.Ended id n where
  removed := hnone
  unheard h := step_of_absent h fun id' hid => Option.some.inj hid ▸ hnone
  silent ops := (told_of_not_holds hlt hgone ops).2
  -- whatever is told under the id later is told of a pending exchange
  later ops op h r hr := by
    have htold : ((d.after ops).step op).2.reportsOn r.serial ≠ [] :=
      List.ne_nil_of_mem (List.mem_filter.2 ⟨hr, beq_self_eq_true _⟩)
    obtain ⟨id', y, hid, hy, hserial⟩ := exists_pending_of_reportsOn h htold
    cases hid
    rcases opens_of_after d ops hy with ⟨z, hz, _⟩ | hopens
    · -- that exchange was not there, so it was opened since
      rw [hnone] at hz
      cases hz
    · exact hserial ▸ hopens.made_le

/-! ## Every error -/

/-- Whatever an instance has done, an error under the id of a pending interaction takes it off the
    table for good, and its listener is told of the error, once. It is told at the stage that was
    waited for exactly if the given header is not flagged as an error, or is at that stage; a
    flagged header is reported at its own stage. -/
theorem fail_reported_iff (a : Allocator) (patience : UInt64) (before : List Op)
    {id : TransactionId} {x : Exchange} {l : Listener} (now : UInt64) {h : Header}
    (failure : Failure) :
    let d := (new a patience).after before
    let result := d.step (.fail now h failure)
    d.table.exchanges.get? id = some x → x.listener = some l → h.transaction = some id →
      ∃ stage header, x.state.pendingStage = some stage ∧
        result.2 = .failed (some ⟨x.serial, l, .error header failure.standardError⟩) ∧
        (header.stage = some stage ↔ h.isError = false ∨ h.stage = some stage) ∧
        (h.isError = true → header.stage = h.stage) ∧
        header.transaction = some id ∧ header.isError = true ∧
        result.1.Ended id x.serial ∧
        ∀ id' ≠ id, result.1.table.exchanges.get? id' = d.table.exchanges.get? id' := by
  intro d result hx hl hid
  -- every desk that an instance comes to is sound and coherent
  have hd : d.Sound := (sound_new a patience).after before
  have hc : d.Coherent := (Coherent.new a patience).after (sound_new a patience) before
  have hopen : x.state.isFinished = false := hc.listened_open hx (by simp [hl])
  obtain ⟨stage, hstage⟩ := ReplyState.exists_pendingStage hopen
  -- the error takes the exchange off the table, and is reported to its listener
  have hresult : result =
      ({ d with table := { d.table with exchanges := d.table.exchanges.erase id } },
        .failed (some ⟨x.serial, l, .error (Correlator.errorHeader now id x stage (some h))
          failure.standardError⟩)) := by
    simp only [result, step, Correlator.fail_of_listened hid hx hstage hl]
  -- no interaction waits for stage 0, so the stage of the report is known
  have hreported := Correlator.errorHeader_stage now id x h
    ((hc.ofPattern hx).pendingStage_ne_zero hstage)
  rw [hresult]
  refine ⟨stage, _, hstage, rfl, ?_, ?_, ?_, Correlator.errorHeader_isError _, ?_, ?_⟩
  · rw [hreported]
    cases h.isError <;> simp
  · intro herror
    rw [hreported, if_pos herror]
  · rw [Correlator.errorHeader_transaction, hid]
  · exact ended_of_failed (hd.serial_lt hx) (by simp)
      (hd.not_holds_erase hx)
  · intro id' hne
    simp [Directory.get?_erase, hne]

/-- The first message of an Invoke could not be sent: its listener is told at the stage of the
    acknowledgement. -/
theorem fail_reported_iff_invoke :
    let l := Listener.interaction "l"
    let sent : Header :=
      { uriFrom := "c", uriTo := "p", pattern := .invoke, stage := some 1, timestamp := 0,
        transaction := some 1 }
    let before := [Op.initiate 0 .invoke (some 1) (some l)]
    let d := (new ⟨0, 0, 0⟩ 1000).after before
    let x : Exchange := ⟨0, .invoke, .invoke .awaitingAck, some l⟩
    let result := d.step (.fail 5 sent (.transport "down"))
    (d.table.exchanges.get? 1 = some x ∧ x.listener = some l ∧ sent.transaction = some 1) ∧
      (∃ header, result.2 =
          .failed (some ⟨0, l, .error header (Failure.transport "down").standardError⟩) ∧
        header.stage = some Stage.invokeAck) ∧
      result.1.Ended 1 0 := by
  intro l sent before d x result
  have hx : d.table.exchanges.get? 1 = some x := rfl
  obtain ⟨stage, header, hstage, hresult, hiff, _, _, _, hended, _⟩ :=
    fail_reported_iff ⟨0, 0, 0⟩ 1000 before 5 (.transport "down") hx rfl (h := sent) rfl
  cases hstage
  exact ⟨⟨hx, rfl, rfl⟩, ⟨header, hresult, hiff.2 (.inl rfl)⟩, hended⟩

/-- A flagged header at the stage of the response is reported there, though the acknowledgement was
    waited for: the wrong callback is invoked. -/
theorem not_reported_at_pendingStage :
    ¬ ∀ (a : Allocator) (patience : UInt64) (before : List Op) (id : TransactionId) (x : Exchange)
        (l : Listener) (now : UInt64) (h : Header) (failure : Failure),
      let d := (new a patience).after before
      d.table.exchanges.get? id = some x → x.listener = some l → h.transaction = some id →
        ∃ header, (d.step (.fail now h failure)).2 =
            .failed (some ⟨x.serial, l, .error header failure.standardError⟩) ∧
          header.stage = x.state.pendingStage := by
  intro hall
  let l := Listener.interaction "l"
  let h : Header :=
    { uriFrom := "p", uriTo := "c", pattern := .invoke, stage := some 3, timestamp := 0,
      transaction := some 7, isError := true }
  obtain ⟨header, hresult, hstage⟩ := hall ⟨0, 0, 0⟩ 1000 [.resume .invoke 1 7 l] 7
    ⟨0, .invoke, .invoke .awaitingAck, some l⟩ l 5 h (.transport "down") rfl rfl rfl
  cases hresult
  cases hstage

end Desk

end Mal
