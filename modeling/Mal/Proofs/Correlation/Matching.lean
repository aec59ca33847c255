import Mal.Proofs.Correlation.Desk

/-!
# Which messages are taken for replies

A message is taken for a reply to the exchange that is pending under its transaction id. Whether the
exchange accepts it depends on its stage alone (`ReplyState.awaits`); the pattern that the message
names plays no part in this, so a reply of another pattern at an awaited stage is accepted like the
exchange's own.

## Key results

- `ReplyState.accept_eq_ok_iff`: a reply is accepted exactly at the stages that are awaited
- `Correlator.receive_as`: a message counts as one of any other pattern
- `Correlator.receive_refused_iff`: which replies are refused, whatever their pattern
-/

namespace Mal

namespace ReplyState

/-- Whether a reply may come at this stage. -/
def awaits (st : ReplyState) (stage : Stage) : Bool :=
  match st with
  | .single expected received => !received && stage == expected
  | .publish _ received => !received
  | .invoke .awaitingAck => stage == Stage.invokeAck
  | .invoke .acknowledged => stage == Stage.invokeResponse
  | .progress .awaitingAck => stage == Stage.progressAck
  | .progress .acknowledged => stage == Stage.progressUpdate || stage == Stage.progressResponse
  | .invoke .complete | .progress .complete => false

/-- A reply is accepted exactly at the stages that are awaited, flagged or not. -/
theorem accept_eq_ok_iff (st : ReplyState) (stage : Stage) (e : Bool) :
    (∃ next, st.accept stage e = .ok next) ↔ st.awaits stage = true := by
  unfold accept awaits
  -- one case for each state
  split
  · next expected received => cases received <;> by_cases hs : stage = expected <;> simp [hs]
  · next received => cases received <;> simp
  · by_cases hs : stage = Stage.invokeAck <;> simp [hs]
  · by_cases hs : stage = Stage.invokeResponse <;> simp [hs]
  · simp
  · by_cases hs : stage = Stage.progressAck <;> simp [hs]
  · -- both updates and the response are awaited after the acknowledgement
    by_cases hs : stage = Stage.progressUpdate
    · simp [hs]
    · by_cases hr : stage = Stage.progressResponse
      · subst hr
        simp [hs]
      · simp [hs, hr]
  · simp

/-- A reply that is refused is reported as out of order, with the header it came with. -/
theorem receive_eq_error {st : ReplyState} {h : Header} {failure : Failure}
    (hr : st.receive h = .error failure) :
    ∃ reason, failure = .disorder (.unexpected reason h) h.transaction h.stage := by
  unfold receive at hr
  split at hr
  · cases hr
  · next reason _ =>
    cases hr
    exact ⟨reason, rfl⟩

/-- Replies are refused at the other stages. -/
private theorem exists_receive_eq_error_iff (st : ReplyState) (h : Header) :
    (∃ failure, st.receive h = .error failure) ↔ st.awaits h.stageOrZero = false := by
  have hok := accept_eq_ok_iff st h.stageOrZero h.isError
  unfold receive
  -- accepting gives a state or a reason, never both
  cases ha : st.accept h.stageOrZero h.isError with
  | ok next =>
    rw [ha] at hok
    simp [hok.1 ⟨next, rfl⟩]
  | error reason =>
    rw [ha] at hok
    have hnot : st.awaits h.stageOrZero ≠ true := by
      intro hs
      obtain ⟨next, hnext⟩ := hok.2 hs
      cases hnext
    simpa using hnot

end ReplyState

/-- The same message, of another pattern. -/
def Message.as (m : Message) (p : Pattern) : Message :=
  { m with header := { m.header with pattern := p } }

namespace Correlator

/-- A correlator refuses a reply: it answers that the reply is out of order, and stays as it
    was. -/
def Refuses (c : Correlator) (m : Message) : Prop :=
  ∃ reason,
    c.receive m =
      (c, .error (.disorder (.unexpected reason m.header) m.header.transaction m.header.stage))

/-- What is pending afterwards does not depend on the pattern that a message names. -/
theorem receive_as (c : Correlator) (m : Message) (p : Pattern) :
    (c.receive (m.as p)).1.exchanges = (c.receive m).1.exchanges := by
  -- all that is looked at of the message is the same for both
  have hid : (m.as p).header.transaction = m.header.transaction := rfl
  have hstage : (m.as p).header.stageOrZero = m.header.stageOrZero := rfl
  have herror : (m.as p).header.isError = m.header.isError := rfl
  unfold receive
  rw [hid]
  cases m.header.transaction with
  | none => rfl
  | some id =>
    cases hx : c.exchanges.get? id with
    | none => simp only [hx]
    | some x =>
      simp only [hx, ReplyState.receive, hstage, herror]
      cases x.state.accept m.header.stageOrZero m.header.isError with
      | error reason => rfl
      | ok next => cases x.listener <;> rfl

/-- A message that belongs to a pending exchange is refused exactly if it is not at a stage that the
    exchange awaits. This holds of the replies of another pattern too, which are told apart from
    the exchange's own by nothing. -/
theorem receive_refused_iff {c : Correlator} {m : Message} {id : TransactionId} {x : Exchange}
    (hid : m.header.transaction = some id) (hx : c.exchanges.get? id = some x) :
    (c.Refuses m ↔ x.state.awaits m.header.stageOrZero = false) ∧
      ∀ p, (c.Refuses m ↔ c.Refuses (m.as p)) ∧
        (c.receive (m.as p)).1.exchanges = (c.receive m).1.exchanges := by
  -- what holds for the message holds for it under another pattern, so it is stated for any
  have hrefused (m : Message) (hid : m.header.transaction = some id) :
      c.Refuses m ↔ x.state.awaits m.header.stageOrZero = false := by
    rw [← ReplyState.exists_receive_eq_error_iff]
    constructor
    · rintro ⟨reason, hr⟩
      have h := c.receive_received m
      have hanswer := congrArg Prod.snd hr
      generalize c.receive m = result at h hanswer
      cases h with
      | refused hid' hx' hstate =>
        obtain rfl := Option.some.inj (hid.symm.trans hid')
        obtain rfl := Option.some.inj (hx.symm.trans hx')
        exact ⟨_, hstate⟩
      | dropped | posted | passed | completed => cases hanswer
    · rintro ⟨failure, hstate⟩
      obtain ⟨reason, rfl⟩ := ReplyState.receive_eq_error hstate
      exact ⟨reason, by simp only [receive, hid, hx, hstate]⟩
  refine ⟨hrefused m hid, ?_⟩
  intro p
  refine ⟨?_, receive_as c m p⟩
  rw [hrefused m hid, hrefused (m.as p) hid]
  exact Iff.rfl

/-- The acknowledgement of a Submit is awaited at stage 2, and a response to a Request is taken for
    one. -/
theorem receive_refused_iff_submit :
    let c := ((Desk.new ⟨0, 0, 0⟩ 1000).after [.resume .submit 1 7 (.interaction "l")]).table
    let response : Message :=
      { header := { uriFrom := "p", uriTo := "c", pattern := .request, stage := some 2,
                    timestamp := 0, transaction := some 7 } }
    ¬ c.Refuses response ∧ c.Refuses { response with header.stage := some 3 } := by
  intro c response
  have hx : c.exchanges.get? 7 = some ⟨0, .submit, .single 2 false, some (.interaction "l")⟩ := rfl
  constructor
  · rw [(receive_refused_iff (m := response) rfl hx).1]
    intro h
    cases h
  · exact (receive_refused_iff (m := { response with header.stage := some 3 }) rfl hx).1.2 rfl

/-- The response to a Request ends the Submit, and the listener is told. -/
theorem received_foreign_response :
    let d := (Desk.new ⟨0, 0, 0⟩ 1000).after [.resume .submit 1 7 (.interaction "l")]
    let response : Message :=
      { header := { uriFrom := "p", uriTo := "c", pattern := .request, stage := some 2,
                    timestamp := 0, transaction := some 7 } }
    (d.table.exchanges.get? 7).map Exchange.pattern = some .submit ∧
      response.header.pattern ≠ .submit ∧
      (d.step (.receive response)).2 =
        .received (.ok (some ⟨0, .interaction "l", .message response⟩)) ∧
      (d.step (.receive response)).1.table.exchanges.get? 7 = none ∧
      (Listener.interaction "l").notice? (.message response) =
        some ⟨"l", .requestResponse, .message response⟩ :=
  ⟨rfl, by decide, rfl, rfl, rfl⟩

end Correlator

end Mal
