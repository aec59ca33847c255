import Mal.Proofs.Correlation.Accepted
import Mal.Proofs.Correlation.Forms
import Mal.Proofs.Correlation.Reported

/-!
# The callbacks of a resumed interaction

An `Operation` is what an initiator can have pending; its pattern and the last stage that was seen
tell which one a resumed interaction is. Every operation has callbacks of its own. Which of them is
invoked is decided by pattern, stage and outcome, when something is accepted, and by the kind of
listener: a publisher's registrations are reported through a publish listener.

Whoever resumes an interaction can give it an interaction listener alone. It hears the callbacks of
its own operation, one for everything that is accepted, unless the operation is a publisher's
registration or deregistration: the outcome of that is reported as one of a subscription
(`Operation.interactionCallback?_eq_some`). With a publish listener it would be reported as its own
(`Operation.publishCallback_mem_callbacks`).

## Key results

- `Operation.exists_of?`: what can be resumed is one of the operations
- `Desk.Continues.after`: a resumed exchange stays one of its operation
- `Desk.continued_callback_iff`: which callbacks a resumed interaction invokes
-/

namespace Mal

/-- What an initiator may have pending. -/
inductive Operation where
  | submit
  | request
  | invoke
  | progress
  | register
  | deregister
  | publishRegister
  | publishDeregister
  deriving DecidableEq

namespace Operation

/-- The pattern of its messages. -/
def pattern : Operation → Pattern
  | submit => .submit
  | request => .request
  | invoke => .invoke
  | progress => .progress
  | register | deregister | publishRegister | publishDeregister => .pubSub

/-- The stages of its replies. -/
def replyStages : Operation → List Stage
  | submit => [Stage.submitAck]
  | request => [Stage.requestResponse]
  | invoke => [Stage.invokeAck, Stage.invokeResponse]
  | progress => [Stage.progressAck, Stage.progressUpdate, Stage.progressResponse]
  | register => [Stage.registerAck]
  | deregister => [Stage.deregisterAck]
  | publishRegister => [Stage.publishRegisterAck]
  | publishDeregister => [Stage.publishDeregisterAck]

/-- The callbacks that report its replies and its errors. For an error of a deregistration
    publishers have the callback for errors of any kind. -/
def callbacks : Operation → List Callback
  | submit => [.submitAck, .submitError]
  | request => [.requestResponse, .requestError]
  | invoke => [.invokeAck, .invokeAckError, .invokeResponse, .invokeResponseError]
  | progress => [.progressAck, .progressAckError, .progressUpdate, .progressUpdateError,
      .progressResponse, .progressResponseError]
  | register => [.registerAck, .registerError]
  | deregister => [.deregisterAck, .deregisterError]
  | publishRegister => [.publishRegisterAck, .publishRegisterError]
  | publishDeregister => [.publishDeregisterAck, .publishError]

/-- Whether it is a publisher's, and so has its callbacks with the publish listeners. -/
def isPublishing : Operation → Bool
  | publishRegister | publishDeregister => true
  | _ => false

/-- The operation that an interaction of the pattern is one of whose last seen stage is `last`. -/
def of? (p : Pattern) (last : Stage) : Option Operation :=
  match p, last with
  | .submit, 1 => some submit
  | .request, 1 => some request
  | .invoke, 1 | .invoke, 2 => some invoke
  | .progress, 1 | .progress, 2 | .progress, 3 => some progress
  | .pubSub, 1 => some register
  | .pubSub, 3 => some publishRegister
  | .pubSub, 7 => some deregister
  | .pubSub, 9 => some publishDeregister
  | _, _ => none

/-- A header of one of its replies, or of an error at the stage of one. -/
structure Own (o : Operation) (h : Header) : Prop where
  pattern : h.pattern = o.pattern
  stage : h.stageOrZero ∈ o.replyStages

/-! ## Callbacks -/

/-- Every outcome of an operation invokes one callback of an interaction listener. It is one of the
    operation, unless this is a publisher's: then it is one of a subscription. -/
theorem interactionCallback?_eq_some {o : Operation} {outcome : Outcome}
    (h : o.Own outcome.header) :
    ∃ cb, outcome.interactionCallback? = some cb ∧
      (cb ∈ o.callbacks ↔ o.isPublishing = false) ∧
      (cb ∈ register.callbacks ↔ o = register ∨ o.isPublishing = true) := by
  obtain ⟨hpattern, hstage⟩ := h
  unfold Outcome.interactionCallback?
  -- one case for every stage of every operation, with an error or without
  cases o <;> simp only [replyStages, List.mem_cons, List.not_mem_nil, or_false] at hstage <;>
    simp only [hpattern, pattern]
  -- the flag decides between the two callbacks of a stage
  case submit | request => cases outcome.isError <;> exact ⟨_, rfl, by decide, by decide⟩
  case invoke =>
    rcases hstage with hstage | hstage <;> rw [hstage] <;>
      cases outcome.isError <;> exact ⟨_, rfl, by decide, by decide⟩
  case progress =>
    rcases hstage with hstage | hstage | hstage <;> rw [hstage] <;>
      cases outcome.isError <;> exact ⟨_, rfl, by decide, by decide⟩
  case register | deregister | publishRegister | publishDeregister =>
    -- of the operations with a broker every stage has its pair of callbacks as well
    rw [hstage]
    cases outcome.isError <;> exact ⟨_, rfl, by decide, by decide⟩

/-- A publish listener hears a publisher's operation through callbacks of its own. -/
theorem publishCallback_mem_callbacks {o : Operation} {outcome : Outcome}
    (h : o.Own outcome.header) (hpublishing : o.isPublishing = true) :
    outcome.publishCallback ∈ o.callbacks := by
  obtain ⟨_, hstage⟩ := h
  unfold Outcome.publishCallback
  cases o with
  | publishRegister | publishDeregister =>
    rw [List.mem_singleton.1 hstage]
    cases outcome.isError <;> decide
  | _ => cases hpublishing

/-! ## States -/

/-- The states of an operation that is under way. -/
def Pending (o : Operation) (st : ReplyState) : Prop :=
  ∃ s, of? o.pattern s = some o ∧ ReplyState.UnderWay o.pattern s st

/-- What is under way is one of the operations. -/
theorem exists_of? {p : Pattern} {s : Stage} {st : ReplyState}
    (h : ReplyState.UnderWay p s st) : ∃ o, of? p s = some o ∧ o.pattern = p := by
  cases h <;> exact ⟨_, rfl, rfl⟩

/-- It stays this operation with every reply that does not end it. -/
private theorem Pending.receive {o : Operation} {st next : ReplyState} {h : Header}
    (hp : o.Pending st)
    (hr : st.receive h = .ok next) (hopen : next.isFinished = false) : o.Pending next := by
  obtain ⟨s, hof, hu⟩ := hp
  rcases hu.of_accept (ReplyState.receive_eq_ok_iff.1 hr) with ⟨_, hfin, _⟩ | ⟨hgoes, hnext, _⟩
  · -- an interaction that has ended is not open
    simp [hfin] at hopen
  · refine ⟨h.mark.1, ?_, hnext⟩
    -- only an Invoke and a Progress go on after a reply
    cases o with
    | invoke | progress => generalize h.mark.1 = stage at hnext; cases hnext <;> rfl
    | _ => simp [pattern, Pattern.ends] at hgoes

/-- It waits for one of its own replies. -/
private theorem Pending.exists_pendingStage {o : Operation} {st : ReplyState} (hp : o.Pending st) :
    ∃ stage ∈ o.replyStages, st.pendingStage = some stage := by
  obtain ⟨s, hof, hu⟩ := hp
  -- the pattern leaves several cases for PubSub; all but one are of another operation
  cases o <;> cases hu <;> first
    | exact ⟨_, by decide, rfl⟩
    | cases hof

/-- The error that ends it is reported under a header of its own, if the given header is one of its
    messages, and at one of its reply stages if it is flagged. -/
private theorem Pending.own_errorHeader {o : Operation} {x : Exchange} (hp : o.Pending x.state)
    (hpattern : x.pattern = o.pattern) {stage : Stage} (hstage : x.state.pendingStage = some stage)
    (now : UInt64) (id : TransactionId) (header : Option Header)
    (hheader : ∀ h, header = some h →
      h.pattern = o.pattern ∧ (h.isError = true → h.stageOrZero ∈ o.replyStages)) :
    o.Own (Correlator.errorHeader now id x stage header) := by
  obtain ⟨awaited, hmem, hawaited⟩ := hp.exists_pendingStage
  obtain rfl : awaited = stage := Option.some.inj (hawaited.symm.trans hstage)
  cases header with
  | none => exact ⟨hpattern, hmem⟩
  | some h =>
    obtain ⟨hown, herror⟩ := hheader h rfl
    simp only [Correlator.errorHeader]
    -- the header of the report is the given one, or one of the stage waited for
    split
    · next hkept =>
      refine ⟨hown, ?_⟩
      rcases hkept with hflag | hat
      · exact herror hflag
      · exact hat ▸ hmem
    · exact ⟨hown, hmem⟩

end Operation

namespace Desk

/-! ## A resumed exchange -/

/-- What may come in under the id of the operation: replies of its pattern and at its stages, and
    errors with a header of its pattern, which is at one of these stages if it is flagged itself. -/
def Op.IsOf (op : Op) (o : Operation) (id : TransactionId) : Prop :=
  match op with
  | .receive m => m.header.transaction = some id → o.Own m.header
  | .fail _ h _ => h.transaction = some id →
      h.pattern = o.pattern ∧ (h.isError = true → h.stageOrZero ∈ o.replyStages)
  | _ => True

/-- Whether the exchange `n` is pending under `id` and accepts what the operation brings: a reply
    that its state accepts, an error, or a shutdown. -/
def Accepts (d : Desk) (n : Nat) (id : TransactionId) (op : Op) : Prop :=
  ∃ x, d.table.exchanges.get? id = some x ∧ x.serial = n ∧
    ((x.state.take? id op).isSome = true ∨ ∃ now, op = .shutdown now)

/-- The callbacks that are invoked for an exchange. -/
def Answer.noticesOn (a : Answer) (n : Nat) : List Notice :=
  (a.reportsOn n).filterMap fun r => r.listener.notice? r.outcome

/-- The exchange `n`, if it is still in the table, is one of the operation `o`, under `id`, and
    reports to the interaction listener of this name. -/
structure Continues (d : Desk) (n : Nat) (id : TransactionId) (o : Operation) (name : String) :
    Prop where
  made : n < d.table.made
  pending {id' : TransactionId} {x : Exchange} (hx : d.table.exchanges.get? id' = some x)
    (hserial : x.serial = n) :
    id' = id ∧ x.pattern = o.pattern ∧ x.listener = some (.interaction name) ∧ o.Pending x.state

section

variable {d : Desk} {n : Nat} {id : TransactionId} {o : Operation} {name : String}

/-- Whatever happens to it, the exchange stays one of its operation. -/
private theorem Continues.step (h : d.Continues n id o name) (hd : d.Sound) (op : Op) :
    (d.step op).1.Continues n id o name where
  made := Nat.lt_of_lt_of_le h.made (d.made_le_step op)
  pending {id' y} hy hserial := by
    -- what is pending afterwards was pending before, or is new
    rcases d.pending_or_new op hy with ⟨x, hx, hsame⟩ | ⟨_, hnew⟩
    · obtain ⟨rfl, hpattern, hl, hp⟩ := h.pending hx (hsame.trans hserial)
      obtain ⟨stage, _, hstage⟩ := hp.exists_pendingStage
      have hopen := ReplyState.isFinished_of_pendingStage hstage
      have hholds : (d.step op).1.Holds x.serial := ⟨id', y, hy, hsame.symm⟩
      cases fate hd hx hl hopen op with
      | kept _ hx' =>
        obtain rfl : x = y := Option.some.inj (hx'.symm.trans hy)
        exact ⟨rfl, hpattern, hl, hp⟩
      | passed _ hstate hgoes hx' =>
        obtain rfl := Option.some.inj (hx'.symm.trans hy)
        exact ⟨rfl, hpattern, hl, hp.receive hstate hgoes⟩
      -- an exchange that has left the table is not pending
      | completed _ _ _ hgone | failed _ _ hgone | abandoned _ hgone => exact absurd hholds hgone
    · -- a new exchange has another serial number
      exact absurd (hserial.symm.trans hnew) (Nat.ne_of_lt h.made)

/-- It does during a whole run. -/
theorem Continues.after (h : d.Continues n id o name) (hd : d.Sound) (ops : List Op) :
    (d.after ops).Continues n id o name := by
  induction ops generalizing d with
  | nil => exact h
  | cons op ops ih => exact ih (h.step hd op) (hd.step op)

/-- An interaction that was resumed is one of the operation that its last stage tells. -/
private theorem continues_of_resume (hd : d.Sound) {p : Pattern} {last : Stage}
    (h : (d.step (.resume p last id (.interaction name))).2 = .resumed (.ok ())) :
    ∃ o, Operation.of? p last = some o ∧
      (d.step (.resume p last id (.interaction name))).1.Continues d.table.made id o name := by
  have hresumed := d.table.resume_resumed p last id (.interaction name)
  simp only [Desk.step] at h ⊢
  generalize d.table.resume p last id (.interaction name) = result at h hresumed
  cases hresumed with
  | refused => cases h
  | @added st hstate hfree =>
    have hu := ReplyState.resume_eq_ok_iff.1 hstate
    obtain ⟨o, hof, rfl⟩ := Operation.exists_of? hu
    refine ⟨o, hof, Nat.lt_succ_self _, ?_⟩
    intro id' x hx hserial
    rw [Correlator.add_get?] at hx
    split at hx
    · -- under the id of the resumption stands the new exchange
      next hid =>
      cases hx
      exact ⟨hid.symm, rfl, rfl, last, hof, hu⟩
    · -- the others were there before and have smaller serial numbers
      exact absurd hserial (Nat.ne_of_lt (hd.serial_lt hx))

/-! ## What it reports -/

/-- What the exchange accepts is reported once, under a header of its own if it came in under
    one. -/
private theorem Continues.report_of_accepts (h : d.Continues n id o name) (hd : d.Sound) {op : Op}
    (hop : op.IsOf o id) (haccepts : d.Accepts n id op) :
    ∃ outcome : Outcome, o.Own outcome.header ∧
      (d.step op).2.reportsOn n = [⟨n, .interaction name, outcome⟩] := by
  -- what the exchange accepts is a reply or an error, or the instance closes
  obtain ⟨x, hx, rfl, htakes | ⟨now, rfl⟩⟩ := haccepts
  · obtain ⟨_, hpattern, hl, hp⟩ := h.pending hx rfl
    obtain ⟨⟨next, waited⟩, htake⟩ := Option.isSome_iff_exists.1 htakes
    rcases ReplyState.take?_eq_some htake with
      ⟨m, rfl, hid, _⟩ | ⟨now, header, failure, stage, rfl, hid, hstage, _⟩
    · -- a reply is reported as it is
      obtain ⟨outcome, hr, _, houtcome, _⟩ := tells hd hx hl htake
      obtain rfl := houtcome m rfl
      refine ⟨_, ?_, hr⟩
      rw [Outcome.header_ofMessage]
      exact hop hid
    · -- an error is reported at the stage waited for, or under the header that came with it
      have hown := hp.own_errorHeader hpattern hstage now id (some header)
        (by rintro _ ⟨⟩; exact hop hid)
      refine ⟨.error _ failure.standardError, hown, ?_⟩
      simp only [Desk.step, Correlator.fail_of_listened hid hx hstage hl]
      exact reportsOn_self rfl
  · -- a shutdown gives no header
    obtain ⟨_, hpattern, hl, hp⟩ := h.pending hx rfl
    obtain ⟨stage, _, hstage⟩ := hp.exists_pendingStage
    have hown := hp.own_errorHeader hpattern hstage now id none (by simp)
    exact ⟨.error _ Correlator.closed.standardError, hown, reportsOn_shutdown hd hx hl hstage now⟩

/-- What it does not accept is not reported. -/
private theorem Continues.not_reported (h : d.Continues n id o name) (hd : d.Sound) {op : Op}
    (hnot : ¬ d.Accepts n id op) : (d.step op).2.reportsOn n = [] := by
  by_cases hholds : d.Holds n
  · obtain ⟨id', x, hx, rfl⟩ := hholds
    obtain ⟨rfl, _⟩ := h.pending hx rfl
    -- the exchange is pending but takes nothing, which leaves only operations that report nothing
    have htake : x.state.take? id' op = none :=
      Option.not_isSome_iff_eq_none.1 fun htakes => hnot ⟨x, hx, rfl, .inl htakes⟩
    cases op with
    | receive m => exact (stays_receive hd hx htake).2
    | fail now header failure => exact (stays_fail hd hx htake).2
    | shutdown now => exact absurd ⟨x, hx, rfl, .inr ⟨now, rfl⟩⟩ hnot
    | initiate | resume | abandon => rfl
    | await | expire => simp only [Desk.step]; split <;> rfl
    | collect t =>
      simp only [Desk.step]
      split
      · split <;> rfl
      · rfl
  · exact reportsOn_of_not_holds hholds op

end

/-- An interaction that is resumed is one of an operation. Whatever happens afterwards, everything
    that it accepts and that is of the operation invokes one callback of its listener, and nothing
    else does. The callback is one of the operation exactly if this is not a publisher's; those of
    registrations are invoked for these and, in place of their own, for a publisher's. -/
theorem continued_callback_iff (a : Allocator) (patience : UInt64) (before : List Op) {p : Pattern}
    {last : Stage} {id : TransactionId} {name : String} :
    let d := (new a patience).after before
    let call := Op.resume p last id (.interaction name)
    (d.step call).2 = .resumed (.ok ()) →
      ∃ o, Operation.of? p last = some o ∧
        ∀ (ops : List Op) (op : Op), op.IsOf o id →
          let d' := (d.step call).1.after ops
          (d'.Accepts d.table.made id op →
            ∃ cb outcome, (d'.step op).2.noticesOn d.table.made = [⟨name, cb, outcome⟩] ∧
              (cb ∈ o.callbacks ↔ o.isPublishing = false) ∧
              (cb ∈ Operation.register.callbacks ↔ o = .register ∨ o.isPublishing = true)) ∧
          (¬ d'.Accepts d.table.made id op → (d'.step op).2.noticesOn d.table.made = []) := by
  intro d call hresumed
  have hd : d.Sound := (sound_new a patience).after before
  obtain ⟨o, hof, hcontinues⟩ := continues_of_resume hd hresumed
  refine ⟨o, hof, ?_⟩
  intro ops op hop d'
  -- the interaction stays one of its operation up to the moment that is looked at
  have hd' : d'.Sound := (hd.step call).after ops
  have hcontinues' : d'.Continues d.table.made id o name := hcontinues.after (hd.step call) ops
  constructor
  · intro haccepts
    obtain ⟨outcome, hown, hr⟩ := hcontinues'.report_of_accepts hd' hop haccepts
    obtain ⟨cb, hcallback, howns, hregister⟩ := Operation.interactionCallback?_eq_some hown
    refine ⟨cb, outcome, ?_, howns, hregister⟩
    simp [Answer.noticesOn, hr, Listener.notice?, hcallback]
  · intro hnot
    rw [Answer.noticesOn, hcontinues'.not_reported hd' hnot, List.filterMap_nil]

/-- An Invoke that is resumed after its acknowledgement reports the response as one. -/
theorem continued_callback_iff_invoke :
    let response : Message :=
      { header := { uriFrom := "p", uriTo := "c", pattern := .invoke, stage := some 3,
                    timestamp := 0, transaction := some 7 } }
    let d := new ⟨0, 0, 0⟩ 1000
    let call := Op.resume .invoke 2 7 (.interaction "l")
    (d.step call).2 = .resumed (.ok ()) ∧
      ∃ cb outcome, ((d.step call).1.step (.receive response)).2.noticesOn 0 =
          [⟨"l", cb, outcome⟩] ∧ cb ∈ Operation.invoke.callbacks := by
  intro response d call
  have hresumed : (d.step call).2 = .resumed (.ok ()) := rfl
  obtain ⟨o, hof, hops⟩ := continued_callback_iff ⟨0, 0, 0⟩ 1000 [] hresumed
  cases hof
  have hop : (Op.receive response).IsOf .invoke 7 := fun _ => ⟨rfl, by decide⟩
  have haccepts : (d.step call).1.Accepts 0 7 (.receive response) :=
    ⟨⟨0, .invoke, .invoke .acknowledged, some (.interaction "l")⟩, rfl, rfl, .inl rfl⟩
  obtain ⟨cb, outcome, hnotices, howns, _⟩ := (hops [] (.receive response) hop).1 haccepts
  exact ⟨hresumed, cb, outcome, hnotices, howns.2 rfl⟩

/-- A publisher's registration that was resumed reports its acknowledgement as one of a
    subscription. -/
theorem not_own_callback_publishRegister :
    ¬ ∀ (a : Allocator) (patience : UInt64) (before : List Op) (p : Pattern) (last : Stage)
        (id : TransactionId) (name : String) (o : Operation) (ops : List Op) (op : Op),
      let d := (new a patience).after before
      let call := Op.resume p last id (.interaction name)
      let d' := (d.step call).1.after ops
      (d.step call).2 = .resumed (.ok ()) → Operation.of? p last = some o → op.IsOf o id →
        d'.Accepts d.table.made id op →
          ∃ cb outcome, (d'.step op).2.noticesOn d.table.made = [⟨name, cb, outcome⟩] ∧
            cb ∈ o.callbacks := by
  intro hall
  let ack : Message :=
    { header := { uriFrom := "b", uriTo := "p", pattern := .pubSub, stage := some 4,
                  timestamp := 0, transaction := some 7 } }
  obtain ⟨cb, outcome, hnotices, hmem⟩ := hall ⟨0, 0, 0⟩ 1000 [] .pubSub 3 7 "l"
    .publishRegister [] (.receive ack) rfl rfl (fun _ => ⟨rfl, by decide⟩)
    ⟨⟨0, .pubSub, .publish 4 false, some (.interaction "l")⟩, rfl, rfl, .inl rfl⟩
  cases hnotices
  cases hmem with
  | tail _ hmem =>
    cases hmem with
    | tail _ hmem => cases hmem

end Desk

end Mal
