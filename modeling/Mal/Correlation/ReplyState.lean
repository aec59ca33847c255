import Mal.Failure

/-!
# Which replies an interaction still expects

The initiator of an interaction follows its replies with a `ReplyState`. A reply is accepted only in
the order that the pattern prescribes; a reply that is refused leaves the state as it was.

* one reply, at one stage: Submit, Request, and PubSub register and deregister (`single`)
* one reply, at any stage: PubSub publish-register and publish-deregister (`publish`)
* an acknowledgement, then a response: Invoke
* an acknowledgement, any number of updates, then a response: Progress

An error at any of these stages ends the interaction. Only the stage and the error flag of a reply
are looked at.
-/

namespace Mal

/-- How far an interaction with an acknowledgement has come. -/
inductive Phase where
  | awaitingAck
  | acknowledged
  | complete
  deriving DecidableEq

/-- Which replies an interaction still expects. -/
inductive ReplyState where
  /-- One reply, at the stage `expected`. -/
  | single (expected : Stage) (received : Bool)
  /-- One reply, announced for the stage `expected` but accepted at any. -/
  | publish (expected : Stage) (received : Bool)
  | invoke (phase : Phase)
  | progress (phase : Phase)
  deriving DecidableEq

namespace ReplyState

/-- State of an interaction that starts at a stage; `none` when it has no replies. -/
def initial (pattern : Pattern) (stage : Option Stage) : Except Failure (Option ReplyState) :=
  match pattern, stage with
  | .send, _ => .ok none
  | .submit, some 1 => .ok (some (.single Stage.submitAck false))
  | .request, some 1 => .ok (some (.single Stage.requestResponse false))
  | .invoke, some 1 => .ok (some (.invoke .awaitingAck))
  | .progress, some 1 => .ok (some (.progress .awaitingAck))
  | .pubSub, some 1 => .ok (some (.single Stage.registerAck false))
  | .pubSub, some 3 => .ok (some (.publish Stage.publishRegisterAck false))
  | .pubSub, some 5 => .ok none
  | .pubSub, some 7 => .ok (some (.single Stage.deregisterAck false))
  | .pubSub, some 9 => .ok (some (.publish Stage.publishDeregisterAck false))
  | pattern, stage => .error (.disorder (.notInitial pattern stage) none stage)

/-- State of an interaction that was started elsewhere and whose last seen stage is `last`. -/
def resume (pattern : Pattern) (last : Stage) : Except Failure ReplyState :=
  match pattern, last with
  | .invoke, 2 => .ok (.invoke .acknowledged)
  | .progress, 2 => .ok (.progress .acknowledged)
  | .progress, 3 => .ok (.progress .acknowledged)
  | .send, last => .error (.disorder .sendContinued none (some last))
  | pattern, last =>
    match initial pattern (some last) with
    | .ok (some state) => .ok state
    | .ok none => .error (.disorder (.nothingLeft pattern last) none (some last))
    | .error failure => .error failure

/-- The state after a reply at `stage`, flagged as an error or not. -/
def accept (state : ReplyState) (stage : Stage) (isError : Bool) : Except Unexpected ReplyState :=
  match state with
  | .single expected received =>
    if received ∨ stage ≠ expected then .error .singleReply else .ok (.single expected true)
  | .publish expected received =>
    if received then .error .singleReply else .ok (.publish expected true)
  | .invoke .awaitingAck =>
    if stage = Stage.invokeAck then .ok (.invoke (if isError then .complete else .acknowledged))
    else .error .invokeOrder
  | .invoke .acknowledged =>
    if stage = Stage.invokeResponse then .ok (.invoke .complete) else .error .invokeOrder
  | .invoke .complete => .error .invokeComplete
  | .progress .awaitingAck =>
    if stage = Stage.progressAck then .ok (.progress (if isError then .complete else .acknowledged))
    else .error .progressOrder
  | .progress .acknowledged =>
    if stage = Stage.progressUpdate then
      .ok (.progress (if isError then .complete else .acknowledged))
    else if stage = Stage.progressResponse then .ok (.progress .complete)
    else .error .progressOrder
  | .progress .complete => .error .progressComplete

/-- The state after a reply with the given header; a missing stage counts as stage 0. -/
def receive (state : ReplyState) (header : Header) : Except Failure ReplyState :=
  match state.accept header.stageOrZero header.isError with
  | .ok next => .ok next
  | .error reason =>
    .error (.disorder (.unexpected reason header) header.transaction header.stage)

/-- The stage that is waited for, or `none` once the interaction has ended. -/
def pendingStage : ReplyState → Option Stage
  | .single expected received => if received then none else some expected
  | .publish expected received => if received then none else some expected
  | .invoke .awaitingAck => some Stage.invokeAck
  | .invoke .acknowledged => some Stage.invokeResponse
  | .invoke .complete => none
  | .progress .awaitingAck => some Stage.progressAck
  | .progress .acknowledged => some Stage.progressResponse
  | .progress .complete => none

/-- Whether the interaction has ended. -/
def isFinished (state : ReplyState) : Bool :=
  state.pendingStage.isNone

/-- The same interaction, ended. -/
def ended : ReplyState → ReplyState
  | .single expected _ => .single expected true
  | .publish expected _ => .publish expected true
  | .invoke _ => .invoke .complete
  | .progress _ => .progress .complete

/-- Ends an interaction on an error that did not arrive as a reply. Gives the stage at which the
    error is reported, or `none` if the interaction had ended before. -/
def fail (state : ReplyState) : Option (Stage × ReplyState) :=
  state.pendingStage.map fun stage => (stage, state.ended)

/-- Name of the kind of state. -/
def kind : ReplyState → String
  | .single .. => "Submit"
  | .publish .. => "Publish"
  | .invoke _ => "Invoke"
  | .progress _ => "Progress"

@[simp] theorem isFinished_ended (state : ReplyState) : state.ended.isFinished = true := by
  cases state <;> rfl

/-- An interaction that has ended accepts nothing. -/
theorem accept_of_isFinished {state : ReplyState} (h : state.isFinished = true) (stage : Stage)
    (isError : Bool) : ∃ reason, state.accept stage isError = .error reason := by
  unfold isFinished pendingStage at h
  unfold accept
  split at h <;> simp_all

end ReplyState

end Mal
