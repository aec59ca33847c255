import Mal.Proofs.Dispatch.Called

/-!
# How requests to brokers are answered

A request to a broker is refused because no broker is bound to the URI, because its body does not
have the shape that its stage requires, or by the broker itself; otherwise it is accepted
(`Instance.Ruling`). The sender is told at the stage after the request's own, with the error if the
request is refused. A publish is answered only if it is refused, at its own stage.

What a broker sends by itself comes before the answer and is not looked at here.

An acknowledgement that cannot be sent is a failure like any other, and a failure is returned to the
sender. So an error at the stage of the acknowledgement means that the broker refused, or that its
acknowledgement was lost (`Instance.denied_iff`).

## Key results

- `Site.TakesAll.ask`: a broker does not make an endpoint fail
- `Instance.receive_asked`: all that happens when a broker is asked
- `Instance.answered_once`: the one answer to a request, and what it says
- `Instance.Denial.told_iff`: when the sender is told that its request was denied
- `Instance.denied_iff`: what an error at the stage of the acknowledgement says
- `Instance.denied_accepted`: that it does not say that the broker refused
-/

namespace Mal

/-! ## Endpoints that take everything -/

namespace Site

/-- The endpoint is open, and of the sends that are scheduled for it none is to fail. `Site.Takes`
    is the case in which none is scheduled. -/
def TakesAll (s : Site) (e : EndpointRef) : Prop :=
  ∃ endpoint, s.transport.endpoints[e.slot]? = some endpoint ∧ endpoint.closed = false ∧
    ∀ fault ∈ endpoint.faults, fault = none

namespace TakesAll

variable {s : Site} {e : EndpointRef}

/-- A send through such an endpoint succeeds, and leaves such an endpoint. -/
private theorem attempt {endpoint : Endpoint} (hopen : endpoint.closed = false)
    (hfaults : ∀ fault ∈ endpoint.faults, fault = none) :
    endpoint.attempt.1 = .ok () ∧ endpoint.attempt.2.closed = false ∧
      ∀ fault ∈ endpoint.attempt.2.faults, fault = none := by
  -- either no send is scheduled, or the next of them, which is no failure
  cases hf : endpoint.faults with
  | nil => simp [Endpoint.attempt, hopen, hf]
  | cons fault rest =>
    rw [hf] at hfaults
    obtain rfl := hfaults fault (.head _)
    have hrest : ∀ fault ∈ rest, fault = none := fun f hmem => hfaults f (.tail _ hmem)
    simpa [Endpoint.attempt, hopen, hf] using hrest

/-- What is sent through such an endpoint leaves the site. -/
theorem sends (h : s.TakesAll e) (m : Message) :
    (s.send e m).1 = .ok () ∧ s.Sends (s.send e m).2 [m] := by
  obtain ⟨endpoint, hget, hopen, hfaults⟩ := h
  -- the send succeeds, so the case in which it does not is out
  have hok : (s.send e m).1 = .ok () := by
    simp only [Site.send, Transport.send, hget]
    exact (attempt hopen hfaults).1
  rcases s.send_cases e m with hsent | ⟨failure, hfailed, _⟩
  · exact hsent
  · cases hok.symm.trans hfailed

/-- It goes on taking everything, whatever is sent and through which endpoint. -/
theorem after_send (h : s.TakesAll e) (e' : EndpointRef) (m : Message) :
    (s.send e' m).2.TakesAll e := by
  obtain ⟨endpoint, hget, hopen, hfaults⟩ := h
  have hlt : e.slot < s.transport.endpoints.length := (List.getElem?_eq_some_iff.1 hget).1
  simp only [Site.send, Transport.send]
  cases hget' : s.transport.endpoints[e'.slot]? with
  | none => exact ⟨endpoint, hget, hopen, hfaults⟩
  | some endpoint' =>
    -- the send may be through this very endpoint, or through another one
    by_cases hslot : e'.slot = e.slot
    · rw [hslot] at hget' ⊢
      obtain rfl : endpoint = endpoint' := Option.some.inj (hget.symm.trans hget')
      obtain ⟨_, hopen', hfaults'⟩ := attempt hopen hfaults
      exact ⟨endpoint.attempt.2, by simp [hlt], hopen', hfaults'⟩
    · exact ⟨endpoint, by simp [hslot, hget], hopen, hfaults⟩

/-- So it does whatever a broker sends. -/
private theorem run (h : s.TakesAll e) (c : BrokerConduct) : (c.run s).2.2.TakesAll e := by
  induction c generalizing s with
  | finish memory result => exact h
  | send e' m next ih => exact ih (s.send e' m).1 (h.after_send e' m)

/-- So it does when a broker is asked. -/
theorem ask (h : s.TakesAll e) (b : Broker) (header : Header) (request : BrokerRequest) :
    (s.ask b header request).2.TakesAll e := by
  have hnoted : (s.note (.asked b header request)).TakesAll e := h
  have hrun := hnoted.run (b.conduct s.now (s.memory b) header request)
  simp only [Site.ask]
  split <;> exact hrun

end TakesAll

end Site

/-! ## Requests and their stages -/

/-- The stages at which messages of PubSub are requests to a broker. -/
def Stage.requests : List Stage :=
  [Stage.register, Stage.publishRegister, Stage.publish, Stage.deregister, Stage.publishDeregister]

/-- The two are the same in all that an answer depends on. -/
structure Header.SameRequest (h h' : Header) : Prop where
  pattern : h'.pattern = h.pattern
  stage : h'.stage = h.stage
  isError : h'.isError = h.isError
  transaction : h'.transaction = h.transaction

theorem Header.SameRequest.refl (h : Header) : h.SameRequest h := ⟨rfl, rfl, rfl, rfl⟩

/-- A message at one of these stages is taken in by a broker, if it is no error. -/
private theorem Header.intake_of_requests {h : Header} {stage : Stage}
    (hpattern : h.pattern = .pubSub)
    (hstage : h.stage = some stage) (hrequest : stage ∈ Stage.requests)
    (herror : h.isError = false) : h.intake = .broker := by
  simp only [Stage.requests, List.mem_cons, List.not_mem_nil, or_false] at hrequest
  rcases hrequest with rfl | rfl | rfl | rfl | rfl <;> simp [intake, hpattern, hstage, herror]

/-- A failure about a request is returned at the stage after it; one about a publish, which has no
    acknowledgement, at its own stage. -/
private theorem Header.errorReplyStage_of_requests {h : Header} {stage : Stage}
    (hpattern : h.pattern = .pubSub) (hstage : h.stage = some stage)
    (hrequest : stage ∈ Stage.requests) (herror : h.isError = false) :
    h.errorReplyStage = some (if stage = Stage.publish then Stage.publish else stage + 1) := by
  simp only [Stage.requests, List.mem_cons, List.not_mem_nil, or_false] at hrequest
  rcases hrequest with rfl | rfl | rfl | rfl | rfl <;>
    simp only [errorReplyStage, hpattern, hstage, herror] <;> rfl

/-- The body has the shape that the stage of the message requires. A publish-deregister may have any
    body. -/
def Message.FitsStage (m : Message) : Prop :=
  m.header.stageOrZero = Stage.publishDeregister ∨
    m.body.shape = BrokerRequest.requiredShape m.header.stageOrZero

/-- The shapes that stages require are those of one kind of body each. -/
private theorem Body.eq_of_shape (b : Body) :
    (b.shape = "subscription" → ∃ subscription, b = .subscription subscription) ∧
      (b.shape = "entity-key-list" → ∃ keys, b = .entityKeys keys) ∧
      (b.shape = "update-list" → ∃ updates, b = .updates updates) ∧
      (b.shape = "identifier-list" → ∃ ids, b = .identifiers ids) := by
  cases b <;> simp [shape]

namespace BrokerRequest

variable {m : Message} {stage : Stage} {request : BrokerRequest}

/-- A message whose body fits is a request. -/
private theorem exists_ofMessage (hstage : m.header.stageOrZero = stage)
    (hrequest : stage ∈ Stage.requests)
    (hfits : m.FitsStage) : ∃ request, ofMessage m = .ok request := by
  obtain ⟨hsubscription, hkeys, hupdates, hids⟩ := m.body.eq_of_shape
  unfold Message.FitsStage at hfits
  unfold ofMessage
  rw [hstage] at hfits ⊢
  simp only [Stage.requests, List.mem_cons, List.not_mem_nil, or_false] at hrequest
  -- the stages but the last require a shape, which is that of one kind of body
  rcases hrequest with rfl | rfl | rfl | rfl | rfl
  · obtain ⟨subscription, hbody⟩ := hsubscription (hfits.resolve_left (by decide))
    rw [hbody]
    exact ⟨_, rfl⟩
  · obtain ⟨keys, hbody⟩ := hkeys (hfits.resolve_left (by decide))
    rw [hbody]
    exact ⟨_, rfl⟩
  · obtain ⟨updates, hbody⟩ := hupdates (hfits.resolve_left (by decide))
    rw [hbody]
    exact ⟨_, rfl⟩
  · obtain ⟨ids, hbody⟩ := hids (hfits.resolve_left (by decide))
    rw [hbody]
    exact ⟨_, rfl⟩
  · exact ⟨_, rfl⟩

/-- What is a request fits. -/
private theorem fitsStage_of_ofMessage (h : ofMessage m = .ok request) : m.FitsStage := by
  unfold ofMessage at h
  split at h
  -- a publish-deregister may have any body
  case h_5 hs => exact .inl hs
  case h_6 => cases h
  -- the others are made from a body of the shape that their stage requires
  case h_1 hs hb | h_2 hs hb | h_3 hs hb | h_4 hs hb =>
    refine .inr ?_
    rw [hs, hb]
    rfl

/-- What is no request does not fit, and the failure names both shapes. -/
private theorem eq_badEncoding_of_ofMessage {failure : Failure} (h : ofMessage m = .error failure) :
    failure = .badEncoding (requiredShape m.header.stageOrZero) m.body.shape := by
  unfold ofMessage at h
  split at h <;> cases h
  rfl

private theorem ackStage?_of_ofMessage (hstage : m.header.stageOrZero = stage)
    (h : ofMessage m = .ok request) :
    request.ackStage? = if stage = Stage.publish then none else some (stage + 1) := by
  subst hstage
  unfold ofMessage at h
  split at h
  case h_6 => cases h
  case h_1 hs _ | h_2 hs _ | h_3 hs _ | h_4 hs _ | h_5 hs =>
    cases h
    rw [hs]
    rfl

end BrokerRequest

namespace Instance

variable {i : Instance} {s : Site} {via : EndpointRef} {m m' : Message}

/-! ## Failures that are returned -/

/-- An endpoint that takes everything takes the failure. -/
private theorem returnFailure_sends {h : Header} {stage : Stage}
    (hstage : h.errorReplyStage = some stage) (htakes : s.TakesAll via) (failure : Failure) :
    ∃ e, s.Sends (returnFailure s via h failure) [e] ∧ e.header.stage = some stage ∧
      e.header.transaction = h.transaction ∧ e.error? = some failure.standardError := by
  simp only [returnFailure, hstage]
  exact ⟨_, (htakes.sends _).2, rfl, rfl, rfl⟩

/-- Where there is an acknowledgement, a failure goes out in its place. -/
private theorem returnFailure_of_ack {h : Header} {stage : Stage} (hpattern : h.pattern = .pubSub)
    (hstage : h.stage = some stage) (hrequest : stage ∈ Stage.requests)
    (hack : stage ≠ Stage.publish) (herror : h.isError = false) (failure : Failure) :
    returnFailure s via h failure =
      (s.respondErrorVia via h (stage + 1) failure.standardError).2 := by
  simp only [returnFailure, Header.errorReplyStage_of_requests hpattern hstage hrequest herror,
    if_neg hack]

/-! ## Asking a broker -/

/-- A broker is asked only about what it is bound for, in a message that is a request. -/
private theorem called_asked {b : Broker} {h : Header} {request : BrokerRequest}
    (hcalled : i.called m = [.asked b h request]) :
    ∃ m', i.security m = .ok m' ∧ m'.header.intake = .broker ∧ h = m'.header ∧
      i.bindings.broker? m'.header.uriTo = some b ∧ BrokerRequest.ofMessage m' = .ok request := by
  unfold called at hcalled
  -- nobody is called about a message that security refuses
  cases hsecurity : i.security m with
  | error failure =>
    rw [hsecurity] at hcalled
    cases hcalled
  | ok m' =>
    simp only [hsecurity] at hcalled
    cases hintake : m'.header.intake with
    -- only a message that is taken in for a broker leads to a call of one
    | send | request =>
      simp only [hintake, providerCalls] at hcalled
      split at hcalled <;> cases hcalled
    | broker =>
      simp only [hintake, brokerCalls] at hcalled
      split at hcalled
      · next hbroker hrequest =>
        cases hcalled
        exact ⟨m', rfl, hintake, rfl, hbroker, hrequest⟩
      · cases hcalled
    | reply | publishError | notify | unexpected =>
      rw [hintake] at hcalled
      cases hcalled

/-- What happens when a message comes in that a broker is asked about: the broker answers, and an
    answer that is no failure is acknowledged; a failure of either is returned to the sender. -/
theorem receive_asked (s : Site) (via : EndpointRef) {b : Broker} {request : BrokerRequest}
    (hsecurity : i.security m = .ok m') (hcalled : i.called m = [.asked b m'.header request]) :
    (i.receive s via m).2 =
      match s.ask b m'.header request with
      | (.error failure, asked) => returnFailure asked via m.header failure
      | (.ok _, asked) =>
        match request.ackStage? with
        | none => asked
        | some stage =>
          match asked.respondVia via m'.header m'.properties stage .empty with
          | (.ok _, acknowledged) => acknowledged
          | (.error failure, unacknowledged) =>
            returnFailure unacknowledged via m.header failure := by
  obtain ⟨m'', hsecurity', hintake, -, hbroker, hrequest⟩ := called_asked hcalled
  -- what security lets pass is determined
  obtain rfl : m' = m'' := Except.ok.inj (hsecurity.symm.trans hsecurity')
  simp only [receive, dispatch, hsecurity, hintake, dispatchBroker, hbroker, hrequest]
  generalize s.ask b m'.header request = answer
  obtain ⟨result, asked⟩ := answer
  cases result with
  | error failure => rfl
  | ok _ =>
    simp only []
    -- a publish is not acknowledged; of the others the acknowledgement may be lost
    cases request.ackStage? with
    | none => rfl
    | some stage =>
      simp only []
      generalize asked.respondVia via m'.header m'.properties stage .empty = sending
      obtain ⟨result, s'⟩ := sending
      cases result <;> rfl

/-! ## The answer to a request -/

/-- What becomes of a request: the calls of handlers that it leads to, the site after these, and the
    error that the request is refused with, if it is. -/
inductive Ruling (i : Instance) (s : Site) (m : Message) :
    List Event → Site → Option StandardError → Prop where
  /-- No broker is bound to the URI. -/
  | unbound (hbroker : i.bindings.broker? m.header.uriTo = none) :
      Ruling i s m [] s (some (.withInfo StandardError.destinationUnknown m.header.uriTo))
  /-- The body does not fit. -/
  | misfit {b : Broker} (hbroker : i.bindings.broker? m.header.uriTo = some b)
      (hfits : ¬ m.FitsStage) :
      Ruling i s m [] s
        (some (.withInfo StandardError.badEncoding
          (Failure.badEncoding (BrokerRequest.requiredShape m.header.stageOrZero)
            m.body.shape).message))
  /-- The broker fails. -/
  | refused {b : Broker} {request : BrokerRequest} {failure : Failure} {asked : Site}
      (hbroker : i.bindings.broker? m.header.uriTo = some b) (hfits : m.FitsStage)
      (hrequest : BrokerRequest.ofMessage m = .ok request)
      (hanswer : s.ask b m.header request = (.error failure, asked)) :
      Ruling i s m [.asked b m.header request] asked (some failure.standardError)
  /-- The broker does not fail. -/
  | accepted {b : Broker} {request : BrokerRequest} {asked : Site}
      (hbroker : i.bindings.broker? m.header.uriTo = some b) (hfits : m.FitsStage)
      (hrequest : BrokerRequest.ofMessage m = .ok request)
      (hanswer : s.ask b m.header request = (.ok (), asked)) :
      Ruling i s m [.asked b m.header request] asked none

/-- What the broker sends by itself comes first. -/
private theorem Ruling.sends {called : List Event} {asked : Site} {refusal : Option StandardError}
    (h : i.Ruling s m called asked refusal) : ∃ own, s.Sends asked own := by
  cases h with
  -- no broker is asked, so nothing is sent
  | unbound | misfit => exact ⟨[], .of_sent_eq rfl⟩
  | @refused b request _ _ _ _ _ hanswer | @accepted b request _ _ _ _ hanswer =>
    obtain ⟨⟨own, hown, _⟩, _⟩ := s.ask_sends b m.header request
    rw [hanswer] at hown
    exact ⟨own, hown⟩

/-- The calls of a ruling are those that the bindings lead to. -/
private theorem Ruling.called {called : List Event} {asked : Site} {refusal : Option StandardError}
    (h : i.Ruling s m' called asked refusal) (hsecurity : i.security m = .ok m')
    (hintake : m'.header.intake = .broker) : i.called m = called := by
  simp only [Instance.called, hsecurity, hintake, brokerCalls]
  cases h with
  | unbound hbroker => rw [hbroker]
  | misfit hbroker hfits =>
    rw [hbroker]
    -- a body that does not fit makes no request
    cases hrequest : BrokerRequest.ofMessage m' with
    | error failure => rfl
    | ok request => exact absurd (BrokerRequest.fitsStage_of_ofMessage hrequest) hfits
  | refused hbroker _ hrequest | accepted hbroker _ hrequest => rw [hbroker, hrequest]

/-- A request is refused with the failure that is returned, or accepted and acknowledged. -/
private theorem receive_ruling (s : Site) (via : EndpointRef) {stage : Stage}
    (hsecurity : i.security m = .ok m') (hintake : m'.header.intake = .broker)
    (hstage : m'.header.stageOrZero = stage) (hrequest : stage ∈ Stage.requests)
    (htakes : s.TakesAll via) :
    ∃ called asked, asked.TakesAll via ∧
      ((∃ failure, i.Ruling s m' called asked (some failure.standardError) ∧
          (i.receive s via m).2 = returnFailure asked via m.header failure) ∨
        (i.Ruling s m' called asked none ∧
          (i.receive s via m).2 =
            if stage = Stage.publish then asked
            else (asked.respondVia via m'.header m'.properties (stage + 1) .empty).2)) := by
  -- the three refusals in the order in which they are checked, then the acceptance
  cases hbroker : i.bindings.broker? m'.header.uriTo with
  | none =>
    refine ⟨[], s, htakes, .inl ⟨.destinationUnknown m'.header.uriTo, .unbound hbroker, ?_⟩⟩
    simp only [receive, dispatch, hsecurity, hintake, dispatchBroker, hbroker]
  | some b =>
    by_cases hfits : m'.FitsStage
    · obtain ⟨request, hmade⟩ := BrokerRequest.exists_ofMessage hstage hrequest hfits
      have hcalled : i.called m = [.asked b m'.header request] := by
        simp only [called, hsecurity, hintake, brokerCalls, hbroker, hmade]
      have hreceive := receive_asked s via hsecurity hcalled
      have hasked := htakes.ask b m'.header request
      rw [BrokerRequest.ackStage?_of_ofMessage hstage hmade] at hreceive
      cases hanswer : s.ask b m'.header request with
      | mk result asked =>
        rw [hanswer] at hreceive hasked
        cases result with
        | error failure =>
          -- the broker refuses
          exact ⟨_, asked, hasked, .inl ⟨failure, .refused hbroker hfits hmade hanswer, hreceive⟩⟩
        | ok _ =>
          refine ⟨_, asked, hasked, .inr ⟨.accepted hbroker hfits hmade hanswer, ?_⟩⟩
          rw [hreceive]
          by_cases hpublish : stage = Stage.publish
          · simp only [if_pos hpublish]
          · -- the endpoint takes the acknowledgement
            have hsent := (hasked.sends
              { header := m'.header.reply asked.now (stage + 1) false, body := .empty,
                properties := m'.properties }).1
            simp only [if_neg hpublish, Site.respondVia]
            generalize asked.send via _ = sending at hsent
            obtain ⟨result, s'⟩ := sending
            obtain rfl : result = .ok () := hsent
            rfl
    · -- the body does not fit, and this is the failure that is returned
      cases hmade : BrokerRequest.ofMessage m' with
      | ok request => exact absurd (BrokerRequest.fitsStage_of_ofMessage hmade) hfits
      | error failure =>
        obtain rfl := BrokerRequest.eq_badEncoding_of_ofMessage hmade
        refine ⟨[], s, htakes, .inl ⟨.badEncoding _ _, .misfit hbroker hfits, ?_⟩⟩
        simp only [receive, dispatch, hsecurity, hintake, dispatchBroker, hbroker, hmade]

/-- Every request to a broker is answered once. If the endpoint that it came in by takes
    everything, then after what the broker sends by itself exactly one message is sent, at the stage
    after the request's own and with its transaction id. It is no error if a broker is bound to the
    URI, the body fits and the broker does not fail; otherwise it is an error, that the destination
    is unknown, that the encoding is bad, or that of the broker. A publish is answered only if it
    is refused, with the error and at its own stage.

    The broker is called once if it is bound and the body fits, and otherwise nobody is. The
    security check may replace the message, as long as it stays the same request. -/
theorem answered_once (i : Instance) (s : Site) (via : EndpointRef) {m m' : Message} {stage : Stage}
    (hsecurity : i.security m = .ok m') (hsame : m.header.SameRequest m'.header)
    (hpattern : m.header.pattern = .pubSub) (hstage : m.header.stage = some stage)
    (hrequest : stage ∈ Stage.requests) (herror : m.header.isError = false)
    (htakes : s.TakesAll via) :
    let after := (i.receive s via m).2
    ∃ called asked refusal answers, i.Ruling s m' called asked refusal ∧
      after.calls = s.calls ++ called ∧ after.sentSince s = asked.sentSince s ++ answers ∧
      if stage = Stage.publish ∧ refusal = none then answers = []
      else ∃ e, answers = [e] ∧
        e.header.stage = some (if stage = Stage.publish then Stage.publish else stage + 1) ∧
        e.header.transaction = m.header.transaction ∧ e.error? = refusal := by
  intro after
  -- a request for the broker both before and after the check of security
  have hintake : m'.header.intake = .broker :=
    Header.intake_of_requests (hsame.pattern.trans hpattern) (hsame.stage.trans hstage) hrequest
      (hsame.isError.trans herror)
  have hat : m'.header.stageOrZero = stage := by
    simp only [Header.stageOrZero, hsame.stage, hstage, Option.getD_some]
  have hreturn := Header.errorReplyStage_of_requests hpattern hstage hrequest herror
  obtain ⟨called, asked, htakes', houtcome⟩ :=
    receive_ruling s via hsecurity hintake hat hrequest htakes
  -- whatever the ruling, the answers come after what the broker sends by itself
  have hsplit {refusal : Option StandardError} {answers : List Message}
      (hruling : i.Ruling s m' called asked refusal) (hanswers : asked.Sends after answers) :
      after.calls = s.calls ++ called ∧ after.sentSince s = asked.sentSince s ++ answers := by
    obtain ⟨own, hown⟩ := hruling.sends
    refine ⟨?_, ?_⟩
    · rw [i.receive_calls, hruling.called hsecurity hintake]
    · rw [(hown.trans hanswers).sentSince_eq, hown.sentSince_eq]
  rcases houtcome with ⟨failure, hruling, hreceive⟩ | ⟨hruling, hreceive⟩
  · -- a refusal: the error goes out in place of an acknowledgement
    obtain ⟨e, hsends, hanswer⟩ := returnFailure_sends hreturn htakes' failure
    rw [← hreceive] at hsends
    obtain ⟨hcalls, hsent⟩ := hsplit hruling hsends
    refine ⟨called, asked, _, [e], hruling, hcalls, hsent, ?_⟩
    rw [if_neg (fun h => Option.some_ne_none _ h.2)]
    exact ⟨e, rfl, hanswer⟩
  · by_cases hpublish : stage = Stage.publish
    · -- an accepted publish is answered by silence
      rw [if_pos hpublish] at hreceive
      obtain ⟨hcalls, hsent⟩ := hsplit hruling (.of_sent_eq (congrArg (·.transport.sent) hreceive))
      refine ⟨called, asked, none, [], hruling, hcalls, hsent, ?_⟩
      rw [if_pos ⟨hpublish, rfl⟩]
    · rw [if_neg hpublish] at hreceive
      -- any other accepted request by its acknowledgement
      have hsends := (htakes'.sends
        { header := m'.header.reply asked.now (stage + 1) false, body := .empty,
          properties := m'.properties }).2
      obtain ⟨hcalls, hsent⟩ := hsplit hruling (hreceive ▸ hsends)
      refine ⟨called, asked, none, _, hruling, hcalls, hsent, ?_⟩
      rw [if_neg (fun h => hpublish h.1), if_neg hpublish]
      exact ⟨_, rfl, rfl, hsame.transaction, rfl⟩

/-- A broker sends something by itself and refuses a registration: its own message leaves first, and
    then the one answer. -/
theorem answered_once_refused :
    let own : Message :=
      { header := { uriFrom := "b", uriTo := "other", pattern := .send, stage := none,
                    timestamp := 0 } }
    let b : Broker :=
      { name := "b", slot := 0
        conduct := fun _ memory _ _ =>
          .send ⟨0, "b"⟩ own fun _ => .finish memory (.error (.internal "full")) }
    let i := (Instance.create {} .system 0).bindBroker "b" b
    let s : Site :=
      { now := 0, transport := { endpoints := [{ name := "e", uri := "b", faults := [none] }] } }
    let m : Message :=
      { header := { uriFrom := "c", uriTo := "b", pattern := .pubSub, stage := some 1,
                    timestamp := 0, transaction := some 7 },
        body := .subscription { id := "s", entities := [] } }
    ∃ e, (i.receive s ⟨0, "b"⟩ m).2.sentSince s = [own, e] ∧
      e.header.stage = some 2 ∧ e.header.transaction = some 7 ∧
      e.error? = some (.withInfo StandardError.internal "full") := by
  intro own b i s m
  have htakes : s.TakesAll ⟨0, "b"⟩ := ⟨_, rfl, rfl, by decide⟩
  obtain ⟨called, asked, refusal, answers, hruling, -, hsent, hanswers⟩ :=
    @answered_once i s ⟨0, "b"⟩ m m 1 rfl (.refl _) rfl rfl (by decide) rfl htakes
  rw [if_neg (fun h => absurd h.1 (by decide))] at hanswers
  obtain ⟨e, rfl, hat, htransaction, herror⟩ := hanswers
  -- the broker is bound and the body fits, so it is the broker that refuses
  cases hruling with
  | unbound hbroker => cases hbroker
  | misfit _ hfits => exact absurd (.inr rfl) hfits
  | refused hbroker _ hrequest hanswer =>
    cases hbroker
    cases hrequest
    cases hanswer
    exact ⟨e, hsent, hat, htransaction, herror⟩
  | accepted hbroker _ hrequest hanswer =>
    cases hbroker
    cases hrequest
    -- the broker of this input accepts nothing
    cases hanswer

/-! ## Acknowledgements that are lost -/

/-- Why a request that a broker was asked about is denied: the failure that is returned for it, and
    the site where it came to this failure. -/
inductive Denial (i : Instance) (s : Site) (via : EndpointRef) (m : Message) (b : Broker)
    (h : Header) (request : BrokerRequest) : Failure → Site → Prop where
  /-- The broker fails. -/
  | refused {failure : Failure} {asked : Site}
      (hanswer : s.ask b h request = (.error failure, asked)) :
      Denial i s via m b h request failure asked
  /-- The broker does not fail, but the endpoint does not take the acknowledgement. -/
  | lost {m' : Message} {stage : Stage} {failure : Failure} {asked unacknowledged : Site}
      (hsecurity : i.security m = .ok m') (hanswer : s.ask b h request = (.ok (), asked))
      (hstage : request.ackStage? = some stage)
      (hsend : asked.respondVia via m'.header m'.properties stage .empty =
        (.error failure, unacknowledged)) :
      Denial i s via m b h request failure unacknowledged

namespace Denial

variable {b : Broker} {h : Header} {request : BrokerRequest} {failure : Failure} {s' : Site}

/-- Until then nothing is sent but what the broker sends by itself. -/
private theorem sends (hdenial : i.Denial s via m b h request failure s') :
    (s.ask b h request).2.Sends s' [] := by
  cases hdenial with
  -- a refusal sends nothing
  | refused hanswer =>
    rw [hanswer]
    exact .of_sent_eq rfl
  -- nor does an acknowledgement that is lost
  | lost _ hanswer _ hsend =>
    rw [hanswer]
    exact Site.sends_of_send_error hsend

/-- The failure is returned to the sender. -/
private theorem receive (hdenial : i.Denial s via m b h request failure s')
    (hcalled : i.called m = [.asked b h request]) :
    (i.receive s via m).2 = returnFailure s' via m.header failure := by
  obtain ⟨m', hsecurity, -, rfl, -, -⟩ := called_asked hcalled
  rw [receive_asked s via hsecurity hcalled]
  cases hdenial with
  | refused hanswer => rw [hanswer]
  | lost hsecurity' hanswer hstage hsend =>
    obtain rfl := Except.ok.inj (hsecurity.symm.trans hsecurity')
    simp only [hanswer, hstage, hsend]

/-- The sender is told exactly this failure, if it waits for an answer and the endpoint takes the
    error. -/
theorem told_iff (hdenial : i.Denial s via m b h request failure s')
    (hcalled : i.called m = [.asked b h request]) {stage : Stage}
    (hpattern : m.header.pattern = .pubSub) (hstage : m.header.stage = some stage)
    (hrequest : stage ∈ Stage.requests) (hack : stage ≠ Stage.publish) (error : StandardError) :
    (∃ e ∈ (i.receive s via m).2.sentSince (s.ask b h request).2,
        e.header.stage = some (stage + 1) ∧ e.error? = some error) ↔
      m.header.isError = false ∧ failure.standardError = error ∧
        (s'.respondErrorVia via m.header (stage + 1) error).1 = .ok () := by
  rw [hdenial.receive hcalled]
  cases hflag : m.header.isError with
  | true =>
    -- the sender of an error waits for nothing
    have hsends : (s.ask b h request).2.Sends (returnFailure s' via m.header failure) [] := by
      simpa [returnFailure, Header.errorReplyStage, hflag] using hdenial.sends
    rw [hsends.sentSince_eq]
    simp
  | false =>
    rw [returnFailure_of_ack hpattern hstage hrequest hack hflag]
    cases hsend : s'.respondErrorVia via m.header (stage + 1) failure.standardError with
    | mk result s'' =>
      cases result with
      | error unsent =>
        -- the error is lost as well, so the sender is told nothing
        rw [(hdenial.sends.trans (Site.sends_of_send_error hsend)).sentSince_eq]
        constructor
        · rintro ⟨e, hmem, -⟩
          cases hmem
        · rintro ⟨-, rfl, hok⟩
          rw [hsend] at hok
          cases hok
      | ok _ =>
        -- the error leaves, and it is all that is sent after the denial
        rw [(hdenial.sends.trans (Site.sends_of_send_ok hsend)).sentSince_eq]
        constructor
        · rintro ⟨e, hmem, -, herror⟩
          obtain rfl := List.mem_singleton.1 hmem
          obtain rfl := Option.some.inj herror
          exact ⟨rfl, rfl, congrArg Prod.fst hsend⟩
        · rintro ⟨-, rfl, -⟩
          exact ⟨_, .head _, rfl, rfl⟩

end Denial

/-- A request that is not denied is answered with an acknowledgement, or not at all. -/
private theorem receive_of_not_denial {b : Broker} {h : Header} {request : BrokerRequest}
    (hcalled : i.called m = [.asked b h request])
    (hnot : ∀ failure s', ¬ i.Denial s via m b h request failure s') :
    ∃ answers, (s.ask b h request).2.Sends (i.receive s via m).2 answers ∧
      ∀ e ∈ answers, e.error? = none := by
  obtain ⟨m', hsecurity, -, rfl, -, -⟩ := called_asked hcalled
  have hreceive := receive_asked s via hsecurity hcalled
  cases hanswer : s.ask b m'.header request with
  | mk result asked =>
    rw [hanswer] at hreceive
    -- a refusal is a denial
    cases result with
    | error failure => exact absurd (.refused hanswer) (hnot failure asked)
    | ok _ =>
      -- so is an acknowledgement that is lost
      cases hstage : request.ackStage? with
      | none =>
        rw [hstage] at hreceive
        -- a publish: nothing is sent
        exact ⟨[], .of_sent_eq (congrArg (·.transport.sent) hreceive), fun e he => nomatch he⟩
      | some stage =>
        rw [hstage] at hreceive
        cases hsend : asked.respondVia via m'.header m'.properties stage .empty with
        | mk result acknowledged =>
          simp only [hsend] at hreceive
          cases result with
          | error failure => exact absurd (.lost hsecurity hanswer hstage hsend) (hnot _ _)
          | ok _ =>
            -- the acknowledgement leaves, and carries no error
            rw [hreceive]
            refine ⟨_, Site.sends_of_send_ok hsend, fun e hmem => ?_⟩
            obtain rfl := List.mem_singleton.1 hmem
            rfl

/-- What an error at the stage of the acknowledgement says about a request that its broker was asked
    about: the broker refused it, or it accepted it and its acknowledgement was lost. The error is
    that of the broker, or that of the send. Nothing else keeps it from being sent than that the
    endpoint does not take it, or that the request was itself flagged as an error. -/
theorem denied_iff (i : Instance) (s : Site) (via : EndpointRef) {m : Message} {stage : Stage}
    {b : Broker} {h : Header} {request : BrokerRequest} (hpattern : m.header.pattern = .pubSub)
    (hstage : m.header.stage = some stage) (hrequest : stage ∈ Stage.requests)
    (hack : stage ≠ Stage.publish) (hcalled : i.called m = [.asked b h request])
    (error : StandardError) :
    (∃ e ∈ (i.receive s via m).2.sentSince (s.ask b h request).2,
        e.header.stage = some (stage + 1) ∧ e.error? = some error) ↔
      m.header.isError = false ∧ ∃ failure s', i.Denial s via m b h request failure s' ∧
        failure.standardError = error ∧
        (s'.respondErrorVia via m.header (stage + 1) error).1 = .ok () := by
  have htold {failure : Failure} {s' : Site} (hdenial : i.Denial s via m b h request failure s') :=
    hdenial.told_iff hcalled hpattern hstage hrequest hack error
  constructor
  · -- an error that was sent comes from a denial
    rintro ⟨e, hmem, hat, herror⟩
    by_cases hdenied : ∃ failure s', i.Denial s via m b h request failure s'
    · obtain ⟨failure, s', hdenial⟩ := hdenied
      obtain ⟨hflag, hfailure, hok⟩ := (htold hdenial).1 ⟨e, hmem, hat, herror⟩
      exact ⟨hflag, failure, s', hdenial, hfailure, hok⟩
    · -- an acknowledgement is no error
      have hnot : ∀ failure s', ¬ i.Denial s via m b h request failure s' :=
        fun failure s' hdenial => hdenied ⟨failure, s', hdenial⟩
      obtain ⟨answers, hsends, hnone⟩ := receive_of_not_denial hcalled hnot
      rw [hsends.sentSince_eq] at hmem
      cases (hnone e hmem).symm.trans herror
  · rintro ⟨hflag, failure, s', hdenial, hfailure, hok⟩
    exact (htold hdenial).2 ⟨hflag, hfailure, hok⟩

/-- The endpoint fails the send of an acknowledgement and takes the next message, which is the error
    about it. -/
theorem denied_iff_lost :
    let b : Broker :=
      { name := "b", slot := 0, conduct := fun _ memory _ _ => .finish memory (.ok ()) }
    let i := (Instance.create {} .system 0).bindBroker "b" b
    let endpoint : Endpoint :=
      { name := "e", uri := "b", faults := [some (.transport "unreachable")] }
    let s : Site := { now := 0, transport := { endpoints := [endpoint] } }
    let m : Message :=
      { header := { uriFrom := "c", uriTo := "b", pattern := .pubSub, stage := some 9,
                    timestamp := 0 } }
    ∃ e ∈ (i.receive s ⟨0, "b"⟩ m).2.sentSince (s.ask b m.header .publishDeregister).2,
      e.header.stage = some (9 + 1) ∧
        e.error? = some (.withInfo StandardError.deliveryFailed "unreachable") := by
  intro b i endpoint s m
  -- the acknowledgement of this input is lost, so the request is denied
  have hdenied := @denied_iff i s ⟨0, "b"⟩ m 9 b m.header .publishDeregister rfl rfl (by decide)
    (by decide) rfl
  exact (hdenied _).2 ⟨rfl, _, _, .lost rfl rfl rfl rfl, rfl, rfl⟩

/-- A subscriber is told that its registration failed, and the broker keeps the subscription. -/
theorem denied_accepted :
    let subscription : Subscription := { id := "s", entities := [] }
    let b : Broker :=
      { name := "b", slot := 0
        conduct := fun _ memory h _ =>
          .finish { memory with subscriptions := memory.subscriptions ++ [(h, subscription)] }
            (.ok ()) }
    let i := (Instance.create {} .system 0).bindBroker "b" b
    let endpoint : Endpoint :=
      { name := "e", uri := "b", faults := [some Endpoint.simulatedFailure] }
    let s : Site := { now := 0, transport := { endpoints := [endpoint] } }
    let m : Message :=
      { header := { uriFrom := "c", uriTo := "b", pattern := .pubSub, stage := some 1,
                    timestamp := 0, transaction := some 7 },
        body := .subscription subscription }
    let after := (i.receive s ⟨0, "b"⟩ m).2
    after.calls = [.asked b m.header (.register subscription)] ∧
      (s.ask b m.header (.register subscription)).1 = .ok () ∧
      (after.memory b).subscriptions = [(m.header, subscription)] ∧
      (after.sentSince s).map (fun e => (e.header.stage, e.header.transaction, e.error?)) =
        [(some 2, some 7, some Endpoint.simulatedFailure.standardError)] := by
  intro subscription b i endpoint s m after
  exact ⟨rfl, rfl, rfl, rfl⟩

end Instance

end Mal
