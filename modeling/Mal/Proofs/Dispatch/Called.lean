import Mal.Proofs.Reactions

/-!
# Whom a message is given to

Of what a site has on record, the calls of handlers tell whom messages were given to: providers
(`Event.served`) and brokers (`Event.asked`). `Instance.called` reads off the bindings and the
security check which calls a message leads to, and `Instance.receive_calls` says that it leads to
these and no others. A message that is given to nobody makes the instance send nothing but perhaps
its failure (`Instance.dispatch_transport`).

The way of a message depends on its pattern and stage; the error flag is looked at only on the way
of a publish and when a failure is to be returned. So a message that is flagged as an error is
handled like any other where somebody is bound (`Instance.error_ignored_iff`).

## Key results

- `Conduct.run_calls`, `BrokerConduct.run_calls`: handlers call no other handlers
- `Instance.receive_calls`: the calls that a message leads to
- `Instance.error_ignored_iff`: when a message flagged as an error is without consequences
-/

namespace Mal

/-- Whether a handler was called. -/
def Event.isCall : Event → Bool
  | .served .. | .asked .. => true
  | .told _ | .replied .. | .recorded .. => false

namespace Site

/-- The calls of handlers that a site has on record, oldest first. -/
def calls (s : Site) : List Event :=
  s.events.filter Event.isCall

@[simp] theorem calls_note (s : Site) (e : Event) :
    (s.note e).calls = s.calls ++ [e].filter Event.isCall :=
  List.filter_append ..

@[simp] theorem calls_told (s : Site) (n : Notice) : (s.note (.told n)).calls = s.calls := by
  rw [calls_note]
  exact List.append_nil _

@[simp] theorem calls_tell (s : Site) (n : Option Notice) : (s.tell n).calls = s.calls := by
  cases n with
  | none => rfl
  | some n => exact s.calls_told n

@[simp] theorem calls_send (s : Site) (e : EndpointRef) (m : Message) :
    (s.send e m).2.calls = s.calls := rfl

/-- A reply call is no call of a handler. -/
private theorem calls_replyNoted (s : Site) (r : Respondent) (call : ReplyCall) :
    (s.replyNoted r call).2.2.calls = s.calls := by
  have hreply : (s.reply r call).2.2.calls = s.calls := by
    unfold reply
    split <;> rfl
  -- the record of a reply is not that of a call
  simp only [replyNoted, calls_note]
  rw [hreply]
  exact List.append_nil _

end Site

/-! ## Handlers -/

/-- A provider's handler calls no other handler. -/
theorem Conduct.run_calls (c : Conduct) (r : Respondent) (s : Site) :
    (c.run r s).2.2.calls = s.calls := by
  -- along the tree of the conduct, from whatever respondent and site the replies before have left
  induction c generalizing r s with
  | finish result => rfl
  | reply call next ih =>
    have hlater := ih (s.reply r call).1 (s.reply r call).2.1 (s.replyNoted r call).2.2
    -- the reply is no call, and the rest follows by the induction
    exact hlater.trans (s.calls_replyNoted r call)
  | failNextSend next ih => exact ih r _
  | keep name next ih => exact ih r _

/-- Neither does a broker's. -/
theorem BrokerConduct.run_calls (c : BrokerConduct) (s : Site) :
    (c.run s).2.2.calls = s.calls := by
  induction c generalizing s with
  | finish memory result => rfl
  | send e m next ih => exact ih (s.send e m).1 (s.send e m).2

namespace Site

/-- Serving a message is one call. -/
private theorem serve_calls (s : Site) (a : Address) (m : Message) :
    (s.serve a m).2.2.calls = s.calls ++ [.served a m] := by
  have hrun := (a.handler.conduct m).run_calls { request := m, address := a }
    (s.note (.served a m))
  rw [calls_note] at hrun
  exact hrun

/-- Asking a broker is one call, whether or not the request is put on record. -/
private theorem ask_calls (s : Site) (b : Broker) (h : Header) (request : BrokerRequest) :
    (s.ask b h request).2.calls = s.calls ++ [.asked b h request] := by
  have hrun := (b.conduct s.now (s.memory b) h request).run_calls (s.note (.asked b h request))
  rw [calls_note] at hrun
  simp only [ask]
  split
  · exact hrun
  · -- the record of the request is no call
    rw [calls_note]
    exact (List.append_nil _).trans hrun

end Site

namespace Instance

variable {i : Instance} {s : Site} {via : EndpointRef} {m m' : Message}

/-! ## Calls on each way of a message -/

/-- The calls that the start of an interaction with a provider, or a Send, leads to. -/
def providerCalls (i : Instance) (m : Message) : List Event :=
  match i.provider m.header with
  | .ok a => [.served a m]
  | .error _ => []

/-- The calls that a request to a broker leads to. A broker is not asked what its body does not
    fit. -/
def brokerCalls (i : Instance) (m : Message) : List Event :=
  match i.bindings.broker? m.header.uriTo, BrokerRequest.ofMessage m with
  | some b, .ok request => [.asked b m.header request]
  | _, _ => []

/-- The calls of handlers that a message leads to when it comes in. -/
def called (i : Instance) (m : Message) : List Event :=
  match i.security m with
  | .error _ => []
  | .ok m =>
    match m.header.intake with
    | .send | .request => i.providerCalls m
    | .broker => i.brokerCalls m
    | .reply | .publishError | .notify | .unexpected => []

private theorem dispatchSend_calls (i : Instance) (s : Site) (m : Message) :
    (i.dispatchSend s m).1.calls = s.calls ++ i.providerCalls m := by
  unfold dispatchSend providerCalls
  cases i.provider m.header with
  | error failure => exact (List.append_nil _).symm
  | ok a => exact s.serve_calls a m

private theorem dispatchRequest_calls (i : Instance) (s : Site) (m : Message) :
    (i.dispatchRequest s m).1.calls = s.calls ++ i.providerCalls m := by
  unfold dispatchRequest providerCalls
  cases i.provider m.header with
  -- nobody is bound
  | error failure => exact (List.append_nil _).symm
  | ok a =>
    have hserved := s.serve_calls a m
    simp only []
    -- returning the failure of the handler is a send, and calls nobody
    split
    · exact hserved
    · split <;> exact hserved

private theorem dispatchBroker_calls (i : Instance) (s : Site) (via : EndpointRef) (m : Message) :
    (i.dispatchBroker s via m).1.calls = s.calls ++ i.brokerCalls m := by
  unfold dispatchBroker brokerCalls
  cases i.bindings.broker? m.header.uriTo with
  | none => exact (List.append_nil _).symm
  | some b =>
    cases hrequest : BrokerRequest.ofMessage m with
    -- the body is not what the stage requires, so the broker is not asked
    | error failure => exact (List.append_nil _).symm
    | ok request =>
      have hasked := s.ask_calls b m.header request
      simp only []
      generalize s.ask b m.header request = asked at hasked ⊢
      obtain ⟨result, s'⟩ := asked
      cases result with
      | error failure => exact hasked
      | ok _ =>
        simp only []
        -- neither is the acknowledgement
        split <;> exact hasked

private theorem report_calls (i : Instance) (s : Site) (r : Report) :
    (i.report s r).2.calls = s.calls :=
  s.calls_tell _

private theorem receiveReply_calls (i : Instance) (s : Site) (m : Message) :
    (i.receiveReply s m).2.1.calls = s.calls := by
  unfold receiveReply
  split
  · rfl
  · rfl
  · next c r _ => exact report_calls { i with correlator := c } s r

private theorem tellNotifyError_calls (s : Site) (h : Header) (e : StandardError)
    (names : List String) :
    (tellNotifyError s h e names).calls = s.calls := by
  induction names generalizing s with
  | nil => rfl
  | cons name rest ih => exact (ih _).trans (s.calls_told _)

private theorem dispatchNotify_calls (i : Instance) (s : Site) (m : Message) :
    (i.dispatchNotify s m).2.1.calls = s.calls := by
  unfold dispatchNotify
  split
  · -- telling listeners is no call of a handler
    exact tellNotifyError_calls ..
  · split
    · dsimp only
      split
      · exact s.calls_told _
      · rfl
    · rfl

private theorem dispatchPublishError_calls (i : Instance) (s : Site) (m : Message) :
    (i.dispatchPublishError s m).2.calls = s.calls := by
  simp only [dispatchPublishError]
  split
  · exact s.calls_told _
  · rfl

/-! ## Everything that a message leads to -/

/-- Handlers are called as the bindings say, each once. -/
private theorem dispatch_calls (i : Instance) (s : Site) (via : EndpointRef) (m : Message) :
    (i.dispatch s via m).2.1.calls = s.calls ++ i.called m := by
  unfold dispatch called
  cases i.security m with
  -- nothing is dispatched
  | error failure => exact (List.append_nil _).symm
  | ok m' =>
    simp only []
    cases hintake : m'.header.intake with
    | send => exact i.dispatchSend_calls s m'
    | request => exact i.dispatchRequest_calls s m'
    | broker => exact i.dispatchBroker_calls s via m'
    -- the other ways lead to listeners or nowhere
    | reply => exact (i.receiveReply_calls s m').trans (List.append_nil _).symm
    | publishError => exact (i.dispatchPublishError_calls s m').trans (List.append_nil _).symm
    | notify => exact (i.dispatchNotify_calls s m').trans (List.append_nil _).symm
    | unexpected => exact (List.append_nil _).symm

/-- Returning a failure calls nobody. -/
private theorem returnFailure_calls (s : Site) (via : EndpointRef) (h : Header)
    (failure : Failure) :
    (returnFailure s via h failure).calls = s.calls := by
  unfold returnFailure
  split <;> rfl

/-- What a message leads to is what `called` says. -/
theorem receive_calls (i : Instance) (s : Site) (via : EndpointRef) (m : Message) :
    (i.receive s via m).2.calls = s.calls ++ i.called m := by
  have hdispatch := i.dispatch_calls s via m
  unfold receive
  generalize i.dispatch s via m = result at hdispatch ⊢
  obtain ⟨i', s', answer⟩ := result
  -- an answer that is an error is returned to the sender
  cases answer with
  | ok _ => exact hdispatch
  | error failure => exact (returnFailure_calls s' via m.header failure).trans hdispatch

/-- Where listeners are told and nothing else happens, nothing is sent. -/
private theorem OnlyTells.transport {i' : Instance} {s' : Site} (h : OnlyTells i s i' s') :
    s'.transport = s.transport := by
  obtain ⟨_, _, _, rfl⟩ := h
  rfl

/-- Taking in a reply sends nothing. -/
private theorem receiveReply_transport (i : Instance) (s : Site) (m : Message) :
    (i.receiveReply s m).2.1.transport = s.transport := by
  unfold receiveReply
  split
  · rfl
  · rfl
  · next c r _ => exact (report_onlyTells { i with correlator := c } s r).transport

/-- Where no handler is called, the dispatch of a message sends nothing by itself. -/
theorem dispatch_transport (via : EndpointRef) (hcalled : i.called m = []) :
    (i.dispatch s via m).2.1.transport = s.transport := by
  unfold called at hcalled
  unfold dispatch
  cases hsecurity : i.security m with
  | error failure => rfl
  | ok m' =>
    rw [hsecurity] at hcalled
    simp only [] at hcalled ⊢
    -- who is bound would have been called; where nobody is, the dispatch fails at once
    cases hintake : m'.header.intake with
    | send | request =>
      simp only [hintake, providerCalls] at hcalled
      simp only [dispatchSend, dispatchRequest]
      cases hprovider : i.provider m'.header with
      | error failure => rfl
      | ok a =>
        rw [hprovider] at hcalled
        cases hcalled
    | broker =>
      simp only [hintake, brokerCalls] at hcalled
      simp only [dispatchBroker]
      cases hbroker : i.bindings.broker? m'.header.uriTo with
      | none => rfl
      | some b =>
        cases hrequest : BrokerRequest.ofMessage m' with
        | error failure => rfl
        | ok request =>
          rw [hbroker, hrequest] at hcalled
          cases hcalled
    -- what is only told to listeners leaves the transport as it was
    | reply => exact i.receiveReply_transport s m'
    | publishError => exact (i.dispatchPublishError_onlyTells s m').transport
    | notify => exact (i.dispatchNotify_onlyTells s m').transport
    | unexpected => rfl

/-- Where no handler is called and the sender waits for nothing, nothing is sent at all. -/
theorem receive_transport (via : EndpointRef) (hcalled : i.called m = [])
    (hstage : m.header.errorReplyStage = none) :
    (i.receive s via m).2.transport = s.transport := by
  have hdispatch := dispatch_transport (s := s) via hcalled
  unfold receive
  generalize i.dispatch s via m = result at hdispatch ⊢
  obtain ⟨i', s', answer⟩ := result
  cases answer with
  | ok _ => exact hdispatch
  -- a failure is returned to nobody
  | error failure =>
    simp only [returnFailure, hstage]
    exact hdispatch

/-! ## Messages that are flagged as errors -/

private theorem providerCalls_eq_nil_iff :
    i.providerCalls m = [] ↔ ∀ a, i.provider m.header ≠ .ok a := by
  unfold providerCalls
  cases i.provider m.header <;> simp

private theorem brokerCalls_eq_nil_iff :
    i.brokerCalls m = [] ↔ ∀ b request, i.bindings.broker? m.header.uriTo = some b →
      BrokerRequest.ofMessage m ≠ .ok request := by
  unfold brokerCalls
  cases i.bindings.broker? m.header.uriTo <;> cases BrokerRequest.ofMessage m <;> simp

/-- No handler is called if nobody is bound who serves such messages. -/
private theorem called_eq_nil_iff :
    i.called m = [] ↔ ∀ m', i.security m = .ok m' →
      (m'.header.intake = .send ∨ m'.header.intake = .request →
        ∀ a, i.provider m'.header ≠ .ok a) ∧
      (m'.header.intake = .broker → ∀ b request, i.bindings.broker? m'.header.uriTo = some b →
        BrokerRequest.ofMessage m' ≠ .ok request) := by
  unfold called
  cases i.security m with
  | error failure => simp
  | ok m' =>
    simp only [Except.ok.injEq, forall_eq']
    -- at most one of the two conditions speaks of a given intake
    cases m'.header.intake with
    | send | request => simp [providerCalls_eq_nil_iff]
    | broker => simp [brokerCalls_eq_nil_iff]
    | reply | publishError | notify | unexpected => simp

/-- A message that is flagged as an error calls no handler and makes the instance send nothing,
    unless somebody is bound who serves messages of its pattern and stage: a provider, or a broker
    whose requests have bodies of this shape. Their handler is called, the flag notwithstanding. -/
theorem error_ignored_iff (herror : m.header.isError = true) :
    ((i.receive s via m).2.calls = s.calls ∧ (i.receive s via m).2.transport = s.transport) ↔
      ∀ m', i.security m = .ok m' →
        (m'.header.intake = .send ∨ m'.header.intake = .request →
          ∀ a, i.provider m'.header ≠ .ok a) ∧
        (m'.header.intake = .broker → ∀ b request,
          i.bindings.broker? m'.header.uriTo = some b →
            BrokerRequest.ofMessage m' ≠ .ok request) := by
  rw [← called_eq_nil_iff, receive_calls]
  constructor
  · rintro ⟨hcalls, _⟩
    exact List.append_right_eq_self.1 hcalls
  · intro hcalled
    -- the sender of an error waits for nothing, so no failure is returned either
    have hstage : m.header.errorReplyStage = none := by simp [Header.errorReplyStage, herror]
    exact ⟨by rw [hcalled, List.append_nil], receive_transport via hcalled hstage⟩

/-- An error-flagged Submit has no consequences where no provider is bound to the URI it is for, and
    has some where one is. -/
theorem error_ignored_iff_submit :
    let a : Address :=
      { endpoint := ⟨0, "p"⟩, uri := "p", handler := Handler.refusing "h" }
    let i := (Instance.create {} .system 0).bindProvider {} a
    let s : Site := { now := 0, transport := { endpoints := [{ name := "e", uri := "p" }] } }
    let m (uri : String) : Message :=
      { header := { uriFrom := "c", uriTo := uri, pattern := .submit, stage := some 1,
                    timestamp := 0, transaction := some 5, isError := true } }
    ((i.receive s ⟨0, "p"⟩ (m "q")).2.calls = s.calls ∧
        (i.receive s ⟨0, "p"⟩ (m "q")).2.transport = s.transport) ∧
      ¬ ((i.receive s ⟨0, "p"⟩ (m "p")).2.calls = s.calls ∧
        (i.receive s ⟨0, "p"⟩ (m "p")).2.transport = s.transport) := by
  intro a i s m
  -- the URI has no provider under any service
  have hunbound (a' : Address) : i.provider (m "q").header ≠ .ok a' := by
    have hprovider : i.provider (m "q").header =
        .error (.destinationUnknown s!"q ({({} : Service).text})") := by rfl
    rw [hprovider]
    exact nofun
  refine ⟨(error_ignored_iff rfl).2 ?_, ?_⟩
  · intro m' hsecurity
    cases hsecurity
    exact ⟨fun _ => hunbound, nofun⟩
  · rw [error_ignored_iff rfl]
    intro hunserved
    exact (hunserved (m "p") rfl).1 (.inr rfl) a rfl

/-- A provider that acknowledges Submits is given one that is flagged as an error, and its
    acknowledgement is sent. -/
theorem error_served :
    let handler : Handler :=
      { name := "h", conduct := fun _ => .reply (.acknowledge .empty) fun _ => .finish (.ok ()) }
    let a : Address := { endpoint := ⟨0, "p"⟩, uri := "p", handler := handler }
    let i := (Instance.create {} .system 0).bindProvider {} a
    let s : Site := { now := 0, transport := { endpoints := [{ name := "e", uri := "p" }] } }
    let m : Message :=
      { header := { uriFrom := "c", uriTo := "p", pattern := .submit, stage := some 1,
                    timestamp := 0, transaction := some 5, isError := true } }
    (i.receive s ⟨0, "p"⟩ m).2.calls = [.served a m] ∧
      ((i.receive s ⟨0, "p"⟩ m).2.sentSince s).map (fun e => e.header.mark) =
        [(Stage.submitAck, false)] := by
  intro handler a i s m
  exact ⟨rfl, rfl⟩

end Instance

end Mal
