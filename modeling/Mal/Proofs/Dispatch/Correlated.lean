import Mal.Proofs.Dispatch.Called

/-!
# Replies correlate with what they answer

Every reply is made from the header of the message that it answers: of a provider bound to the URI
that the message is for, or of the instance itself where no provider is involved, with an error or
without. `Message.Correlates` says what such a message has in common with the one it answers.

What an instance sends when a message comes in is first what a broker sends by itself, if one is
asked, and then replies to the message. A handler may keep its respondent; whatever is sent through
that later is a reply to the message as well.

## Key results

- `Message.correlates_reply`: what is made from the header of a message correlates with it
- `Respondent.answer_isReply`: a respondent sends nothing but replies
- `Instance.replies_correlate`: all that is sent when a message comes in
-/

namespace Mal

/-- A check that lets messages pass as they are, or refuses them. -/
def Security.OnlyRefuses (check : Security) : Prop :=
  ∀ m m', check m = .ok m' → m' = m

theorem Security.onlyRefuses_unrestricted : unrestricted.OnlyRefuses := by
  intro m m' h
  cases h
  rfl

private theorem Security.onlyRefuses_allowing (allowed : List Bytes) :
    (allowing allowed).OnlyRefuses := by
  intro m m' h
  simp only [allowing] at h
  split at h
  · -- the only message that passes is the one that was checked
    cases h
    rfl
  · cases h

/-- The stages at which a message of the pattern is answered that comes in at a stage, with an error
    or without. A publish is answered only if it is rejected. -/
def Pattern.replyStages (p : Pattern) (stage : Option Stage) (isError : Bool) : List Stage :=
  match p, stage with
  | .submit, some 1 => [Stage.submitAck]
  | .request, some 1 => [Stage.requestResponse]
  | .invoke, some 1 => [Stage.invokeAck, Stage.invokeResponse]
  | .progress, some 1 => [Stage.progressAck, Stage.progressUpdate, Stage.progressResponse]
  | .pubSub, some 1 => [Stage.registerAck]
  | .pubSub, some 3 => [Stage.publishRegisterAck]
  | .pubSub, some 5 => if isError then [Stage.publish] else []
  | .pubSub, some 7 => [Stage.deregisterAck]
  | .pubSub, some 9 => [Stage.publishDeregisterAck]
  | _, _ => []

/-- The message `e`, sent from `uri`, answers the message `m`. -/
structure Message.Correlates (m : Message) (uri : String) (e : Message) : Prop where
  transaction : e.header.transaction = m.header.transaction
  pattern : e.header.pattern = m.header.pattern
  service : e.header.service = m.header.service
  qos : e.header.qos = m.header.qos
  scope : e.header.scope = m.header.scope
  uriTo : e.header.uriTo = m.header.uriFrom
  uriFrom : e.header.uriFrom = uri
  stage : ∃ stage ∈ m.header.pattern.replyStages m.header.stage e.header.isError,
    e.header.stage = some stage
  properties : e.header.isError = false → e.properties = m.properties

/-- What is made from the header of a message, at a stage at which it is answered, correlates with
    the message, whatever sender and authentication id are put in afterwards. -/
theorem Message.correlates_reply (m : Message) {stage : Stage} {isError : Bool}
    (hstage : stage ∈ m.header.pattern.replyStages m.header.stage isError) (now : UInt64)
    (uri : String) (authenticationId : Bytes) (body : Body) {properties : Properties}
    (hproperties : isError = false → properties = m.properties) :
    m.Correlates uri
      { header :=
          { m.header.reply now stage isError with
            uriFrom := uri, authenticationId := authenticationId }
        body := body
        properties := properties } where
  transaction := rfl
  pattern := rfl
  service := rfl
  qos := rfl
  scope := rfl
  uriTo := rfl
  uriFrom := rfl
  stage := ⟨stage, hstage, rfl⟩
  properties := hproperties

/-! ## Stages of replies -/

/-- The start of an interaction with a provider is at the first stage. -/
theorem Header.stage_of_intake_request {h : Header} (hintake : h.intake = .request) :
    h.stage = some Stage.initial := by
  unfold Header.intake at hintake
  split at hintake
  case h_2 hs | h_3 hs | h_4 hs | h_5 hs => exact hs
  case h_17 => split at hintake <;> cases hintake
  all_goals cases hintake

/-- The stage at which an error ends an interaction with a provider is one of a reply. -/
private theorem ReplyProgress.mem_replyStages {p : ReplyProgress} {pattern : Pattern}
    {stage : Stage} (h : p.errorStage pattern = some stage) (isError : Bool) :
    stage ∈ pattern.replyStages (some Stage.initial) isError := by
  unfold errorStage at h
  split at h
  · cases h
  · cases pattern with
    | send | pubSub => cases h
    | submit | request =>
      cases h
      exact .head _
    -- the stage is the first reply's or the last's, as the acknowledgement was sent or not
    | invoke | progress =>
      cases hack : p.acknowledged <;> simp only [hack, Option.some.injEq] at h <;> subst h <;>
        simp [Pattern.replyStages]

/-- So is the stage of every reply that a call sends. -/
private theorem ReplyCall.mem_replyStages {call : ReplyCall} {pattern : Pattern} {p : ReplyProgress}
    {step : ReplyStep} (h : call.step? pattern p = some (some step)) (isError : Bool) :
    step.stage ∈ pattern.replyStages (some Stage.initial) isError := by
  cases pattern <;> cases call <;>
    simp only [step?, Option.some.injEq, Option.map_eq_some_iff, reduceCtorEq] at h
  -- either the call has a stage of its own, or it returns an error at the stage that is due
  all_goals
    first
      | subst h
        simp [Pattern.replyStages]
      | obtain ⟨stage, hp, rfl⟩ := h
        exact p.mem_replyStages hp isError

/-- So is the stage at which a failure is returned. -/
private theorem Header.mem_replyStages {h : Header} {stage : Stage}
    (hstage : h.errorReplyStage = some stage) :
    stage ∈ h.pattern.replyStages h.stage true := by
  unfold errorReplyStage at hstage
  split at hstage
  · cases hstage
  · split at hstage <;> cases hstage
    all_goals simp_all [Pattern.replyStages]

/-- So is the stage at which a request to a broker is acknowledged. -/
private theorem BrokerRequest.mem_replyStages {m : Message} {request : BrokerRequest}
    {stage : Stage} (hintake : m.header.intake = .broker) (hrequest : ofMessage m = .ok request)
    (hstage : request.ackStage? = some stage) :
    stage ∈ m.header.pattern.replyStages m.header.stage false := by
  rw [Header.pattern_of_intake_broker hintake]
  -- the stage is not the one that stands for a missing stage, so it is in the header
  have hat {k : Stage} (hk : m.header.stageOrZero = k) (hne : k ≠ 0) : m.header.stage = some k := by
    unfold Header.stageOrZero at hk
    cases hs : m.header.stage with
    | none =>
      rw [hs] at hk
      exact absurd hk.symm hne
    | some s =>
      rw [hs] at hk
      exact congrArg some hk
  unfold ofMessage at hrequest
  split at hrequest
  -- a notification has no acknowledgement
  case h_3 =>
    cases hrequest
    cases hstage
  case h_6 => cases hrequest
  -- the acknowledgement goes back at the stage after that of the request
  case h_1 hs _ | h_2 hs _ | h_4 hs _ | h_5 hs =>
    cases hrequest
    cases hstage
    rw [hat hs (by decide)]
    exact .head _

/-! ## Respondents -/

namespace Respondent

variable {r : Respondent} {call : ReplyCall} {e : Message}

/-- What a call sends correlates with the request. -/
private theorem IsReply.correlates (h : r.IsReply call e)
    (hintake : r.request.header.intake = .request ∨ r.request.header.intake = .send) :
    r.request.Correlates r.address.uri e := by
  rcases hintake with hintake | hintake
  · obtain ⟨now, p, step, hstep, rfl⟩ := h
    have hstage (isError : Bool) :
        step.stage ∈ r.request.header.pattern.replyStages r.request.header.stage isError := by
      rw [Header.stage_of_intake_request hintake]
      exact ReplyCall.mem_replyStages hstep isError
    unfold replyMessage
    -- the handler's error is a reply without properties, anything else has those of the request
    split
    · exact r.request.correlates_reply (hstage true) now _ _ _ (by simp)
    · exact r.request.correlates_reply (hstage false) now _ _ _ fun _ => rfl
  · -- a send is given to a provider as well, but no call replies to it
    exact absurd (Header.pattern_of_intake_send hintake) h.pattern_ne_send

/-- A respondent sends nothing but replies, whatever happens between the calls. -/
theorem answer_isReply (r : Respondent) (s : Site) (calls : List ((Site → Site) × ReplyCall)) :
    ∀ e ∈ (r.answer s calls).2, ∃ call, r.IsReply call e := by
  -- induction on the calls; the respondent changes, but only in its progress
  induction calls generalizing r s with
  | nil => simp [answer]
  | cons c rest ih =>
    obtain ⟨others, call⟩ := c
    obtain ⟨⟨out, hout, hreplies⟩, _, p, hp⟩ := (others s).reply_sends r call
    rw [answer_cons]
    intro e he
    rcases List.mem_append.1 he with he | he
    · -- sent by the first call
      rw [hout.sentSince_eq] at he
      exact ⟨call, hreplies e he⟩
    · -- what a reply is does not depend on the progress
      have hlater := ih _ _ e he
      rw [hp] at hlater
      exact hlater

end Respondent

/-- Serving a message leaves a respondent for it, under the address that it was served at. -/
private theorem Site.serve_respondent (s : Site) (a : Address) (m : Message) :
    (s.serve a m).2.1.request = m ∧ (s.serve a m).2.1.address = a := by
  let r : Respondent := { request := m, address := a }
  obtain ⟨ms, _, hcalls⟩ := (a.handler.conduct m).run_answer r (s.note (.served a m))
  obtain ⟨calls, hanswer⟩ := hcalls s
  obtain ⟨p, hp⟩ := r.answer_progress s calls
  rw [hanswer] at hp
  exact ⟨congrArg Respondent.request hp, congrArg Respondent.address hp⟩

/-! ## Everything that is sent -/

namespace Instance

/-- The URI that replies to a message come from: that of the provider which the message is given to,
    and the one that the message is for, if it is given to none. -/
def answersFrom (i : Instance) (m : Message) : String :=
  match i.called m with
  | [.served a _] => a.uri
  | _ => m.header.uriTo

/-- The message `e` is one that a broker sends by itself when it is asked what `m` says. -/
def Forwards (i : Instance) (s : Site) (m e : Message) : Prop :=
  ∃ b request, i.called m = [.asked b m.header request] ∧
    (b.conduct s.now (s.memory b) m.header request).Sends e

/-- Between the sites `s` and `s'` replies to `m` are sent, perhaps after what a broker sends by
    itself; and a respondent that is kept will send nothing but replies to `m` either. -/
structure Correlated (i : Instance) (s : Site) (m : Message) (s' : Site) : Prop where
  sent : ∃ own replies, s.Sends s' (own ++ replies) ∧ (∀ e ∈ own, i.Forwards s m e) ∧
    ∀ e ∈ replies, m.Correlates (i.answersFrom m) e
  respondents : s'.respondents = s.respondents ∨
    ∃ r, s'.respondents = s.respondents ++ [r] ∧
      ∀ s₀ calls, ∀ e ∈ (r.answer s₀ calls).2, m.Correlates (i.answersFrom m) e

variable {i : Instance} {s : Site} {via : EndpointRef} {m : Message} {a : Address}

namespace Correlated

/-- Nothing is sent, and nothing is kept. -/
private theorem of_eq {s' : Site} (hsent : s'.transport.sent = s.transport.sent)
    (hrespondents : s'.respondents = s.respondents) : i.Correlated s m s' where
  sent := ⟨[], [], .of_sent_eq hsent, by simp, by simp⟩
  respondents := .inl hrespondents

/-- One more reply is sent, or cannot be. -/
private theorem send {s' : Site} (h : i.Correlated s m s') (endpoint : EndpointRef) {e : Message}
    (he : m.Correlates (i.answersFrom m) e) : i.Correlated s m (s'.send endpoint e).2 where
  sent := by
    obtain ⟨own, replies, hsends, hown, hreplies⟩ := h.sent
    rcases s'.send_cases endpoint e with ⟨_, hs⟩ | ⟨_, _, hs⟩
    · -- it was sent, so it is one more reply
      refine ⟨own, replies ++ [e], ?_, hown, ?_⟩
      · rw [← List.append_assoc]
        exact hsends.trans hs
      · intro e' hmem
        rcases List.mem_append.1 hmem with hmem | hmem
        · exact hreplies e' hmem
        · obtain rfl := List.mem_singleton.1 hmem
          exact he
    · -- it was not, so what was sent is as before
      refine ⟨own, replies, ?_, hown, hreplies⟩
      rw [← List.append_nil (own ++ replies)]
      exact hsends.trans hs
  respondents := h.respondents

/-- A message is served. -/
private theorem serve (hcalled : i.called m = [.served a m])
    (hintake : m.header.intake = .request ∨ m.header.intake = .send) :
    i.Correlated s m (s.serve a m).2.2 := by
  have hfrom : i.answersFrom m = a.uri := by rw [answersFrom, hcalled]
  obtain ⟨hrequest, haddress⟩ := s.serve_respondent a m
  obtain ⟨⟨ms, hms, hreplies⟩, _⟩ := s.serve_sends a m
  refine ⟨⟨[], ms, hms, by simp, ?_⟩, .inr ⟨(s.serve a m).2.1, s.serve_respondents a m, ?_⟩⟩
  · -- what the handler itself replies
    intro e he
    obtain ⟨call, _, hreply⟩ := hreplies e he
    rw [hfrom]
    exact hreply.correlates hintake
  · -- and what a respondent that it keeps can still reply, from any site
    intro s₀ calls e he
    obtain ⟨call, hreply⟩ := Respondent.answer_isReply _ s₀ calls e he
    have hcorrelates := hreply.correlates (by rw [hrequest]; exact hintake)
    rw [hrequest, haddress] at hcorrelates
    rw [hfrom]
    exact hcorrelates

/-- Listeners are told, and nothing else happens. -/
private theorem of_onlyTells {i₀ i' : Instance} {s' : Site} (h : OnlyTells i₀ s i' s') :
    i.Correlated s m s' := by
  obtain ⟨_, _, _, rfl⟩ := h
  exact .of_eq rfl rfl

end Correlated

/-! ## The ways of a message -/

/-- A message that is given to a provider. -/
private theorem called_provider (hsecurity : i.security m = .ok m)
    (hintake : m.header.intake = .request ∨ m.header.intake = .send)
    (hprovider : i.provider m.header = .ok a) : i.called m = [.served a m] := by
  rcases hintake with hintake | hintake <;>
    simp only [called, hsecurity, hintake, providerCalls, hprovider]

/-- A message that no provider is bound for. -/
private theorem called_of_provider_error (hsecurity : i.security m = .ok m)
    (hintake : m.header.intake = .request ∨ m.header.intake = .send) {failure : Failure}
    (hprovider : i.provider m.header = .error failure) : i.called m = [] := by
  rcases hintake with hintake | hintake <;>
    simp only [called, hsecurity, hintake, providerCalls, hprovider]

/-- A message that is for no provider is answered from the URI that it is for. -/
private theorem answersFrom_of_intake (hsecurity : i.security m = .ok m)
    (hrequest : m.header.intake ≠ .request) (hsend : m.header.intake ≠ .send) :
    i.answersFrom m = m.header.uriTo := by
  simp only [answersFrom, called, hsecurity]
  cases hintake : m.header.intake with
  | request => exact absurd hintake hrequest
  | send => exact absurd hintake hsend
  | broker =>
    simp only [brokerCalls]
    -- no provider is called on this way, whether the broker takes the request or not
    cases i.bindings.broker? m.header.uriTo with
    | none => rfl
    | some b => cases BrokerRequest.ofMessage m <;> rfl
  | reply | publishError | notify | unexpected => rfl

private theorem dispatchSend_correlated (s : Site) (hsecurity : i.security m = .ok m)
    (hintake : m.header.intake = .send) :
    i.Correlated s m (i.dispatchSend s m).1 ∧
      ∀ failure, (i.dispatchSend s m).2 = .error failure → i.answersFrom m = m.header.uriTo := by
  unfold dispatchSend
  cases hprovider : i.provider m.header with
  | error failure =>
    -- no provider was called, so the failure comes back from the URI that the message is for
    have hcalled := called_of_provider_error hsecurity (.inr hintake) hprovider
    exact ⟨.of_eq rfl rfl, fun _ _ => by rw [answersFrom, hcalled]⟩
  | ok a =>
    have hcalled := called_provider hsecurity (.inr hintake) hprovider
    exact ⟨.serve hcalled (.inr hintake), fun _ h => by cases h⟩

private theorem dispatchRequest_correlated (s : Site) (hsecurity : i.security m = .ok m)
    (hintake : m.header.intake = .request) :
    i.Correlated s m (i.dispatchRequest s m).1 ∧
      ∀ failure, (i.dispatchRequest s m).2 = .error failure →
        i.answersFrom m = m.header.uriTo := by
  cases hprovider : i.provider m.header with
  | error failure =>
    have hcalled := called_of_provider_error hsecurity (.inl hintake) hprovider
    simp only [dispatchRequest, hprovider]
    exact ⟨.of_eq rfl rfl, fun _ _ => by rw [answersFrom, hcalled]⟩
  | ok a =>
    have hcalled := called_provider hsecurity (.inl hintake) hprovider
    have hserved : i.Correlated s m (s.serve a m).2.2 := .serve hcalled (.inl hintake)
    obtain ⟨hok, _⟩ := dispatchRequest_cases s hprovider
    -- what a provider was given does not fail in dispatch
    refine ⟨?_, fun _ h => by rw [hok] at h; cases h⟩
    simp only [dispatchRequest, hprovider]
    split
    · exact hserved
    · next failure _ =>
      split
      · -- a failure after which nothing is due stays unsaid
        exact hserved
      · next stage hstage =>
        -- the failure of the handler comes from the provider as well
        obtain ⟨hrequest, _⟩ := s.serve_respondent a m
        rw [Respondent.errorStage, Respondent.pattern, hrequest] at hstage
        have hmem : stage ∈ m.header.pattern.replyStages m.header.stage true := by
          rw [Header.stage_of_intake_request hintake]
          exact ReplyProgress.mem_replyStages hstage true
        refine hserved.send a.endpoint ?_
        rw [answersFrom, hcalled]
        exact m.correlates_reply hmem _ a.uri a.authenticationId _ (by simp)

private theorem dispatchBroker_correlated (s : Site) (via : EndpointRef)
    (hsecurity : i.security m = .ok m) (hintake : m.header.intake = .broker) :
    i.Correlated s m (i.dispatchBroker s via m).1 := by
  have hfrom : i.answersFrom m = m.header.uriTo :=
    answersFrom_of_intake hsecurity (by simp [hintake]) (by simp [hintake])
  unfold dispatchBroker
  cases hbroker : i.bindings.broker? m.header.uriTo with
  | none => exact .of_eq rfl rfl
  | some b =>
    cases hrequest : BrokerRequest.ofMessage m with
    | error failure => exact .of_eq rfl rfl
    | ok request =>
      have hcalled : i.called m = [.asked b m.header request] := by
        simp only [called, hsecurity, hintake, brokerCalls, hbroker, hrequest]
      obtain ⟨⟨ms, hms, hsends⟩, hrespondents⟩ := s.ask_sends b m.header request
      have hasked : i.Correlated s m (s.ask b m.header request).2 := by
        refine ⟨⟨ms, [], ?_, ?_, by simp⟩, .inl hrespondents⟩
        · rw [List.append_nil]
          exact hms
        · intro e he
          exact ⟨b, request, hcalled, hsends e he⟩
      simp only []
      -- what the broker answers matters, not how it came to it
      generalize s.ask b m.header request = asked at hasked
      obtain ⟨result, s'⟩ := asked
      cases result with
      | error failure => exact hasked
      | ok _ =>
        simp only []
        -- a notification is not acknowledged
        split
        · exact hasked
        · next stage hstage =>
          -- the acknowledgement comes after what the broker sends by itself
          refine hasked.send via ?_
          rw [hfrom]
          exact m.correlates_reply (BrokerRequest.mem_replyStages hintake hrequest hstage) _
            m.header.uriTo m.header.authenticationId _ fun _ => rfl

private theorem receiveReply_correlated (s : Site) (m' : Message) :
    i.Correlated s m (i.receiveReply s m').2.1 := by
  unfold receiveReply
  split
  · exact .of_eq rfl rfl
  · exact .of_eq rfl rfl
  · next c r _ => exact .of_onlyTells (report_onlyTells { i with correlator := c } s r)

/-- All that the dispatch of a message sends; and where it fails, no provider was given the
    message. -/
private theorem dispatch_correlated (hrefuses : i.security.OnlyRefuses) (s : Site)
    (via : EndpointRef) (m : Message) :
    i.Correlated s m (i.dispatch s via m).2.1 ∧
      ∀ failure, (i.dispatch s via m).2.2 = .error failure →
        i.answersFrom m = m.header.uriTo := by
  unfold dispatch
  cases hsecurity : i.security m with
  | error failure =>
    exact ⟨.of_eq rfl rfl, fun _ _ => by simp only [answersFrom, called, hsecurity]⟩
  | ok m' =>
    -- a check that only refuses let the very message pass
    obtain rfl := hrefuses m m' hsecurity
    simp only []
    cases hintake : m'.header.intake with
    | send => exact dispatchSend_correlated s hsecurity hintake
    | request => exact dispatchRequest_correlated s hsecurity hintake
    | broker =>
      exact ⟨dispatchBroker_correlated s via hsecurity hintake,
        fun _ _ => answersFrom_of_intake hsecurity (by simp [hintake]) (by simp [hintake])⟩
    | reply =>
      exact ⟨receiveReply_correlated s m',
        fun _ _ => answersFrom_of_intake hsecurity (by simp [hintake]) (by simp [hintake])⟩
    | publishError =>
      exact ⟨.of_onlyTells (i.dispatchPublishError_onlyTells s m'), fun _ h => by cases h⟩
    | notify =>
      exact ⟨.of_onlyTells (i.dispatchNotify_onlyTells s m'),
        fun _ _ => answersFrom_of_intake hsecurity (by simp [hintake]) (by simp [hintake])⟩
    | unexpected =>
      exact ⟨.of_eq rfl rfl,
        fun _ _ => answersFrom_of_intake hsecurity (by simp [hintake]) (by simp [hintake])⟩

/-- Every reply correlates with its request. Whatever state an instance is in, if its security
    check passes messages on as they are or not at all, then all it sends when a message comes in is
    what a broker sends by itself, if one is asked, and replies to the message; and whatever is sent
    later through the respondent that the handler was given is a reply to the message as well.

    Each of these replies has the transaction id, the pattern, the service, the quality of service
    and the scope of the message, goes back to its sender, comes from the provider that was given
    the message, or from the URI that the message is for if there is none, is at a stage at which
    the message is answered, and has the properties of the message if it is no error. -/
theorem replies_correlate (i : Instance) (hrefuses : i.security.OnlyRefuses) (s : Site)
    (via : EndpointRef) (m : Message) :
    let after := (i.receive s via m).2
    (∃ own replies, after.sentSince s = own ++ replies ∧ (∀ e ∈ own, i.Forwards s m e) ∧
        ∀ e ∈ replies, m.Correlates (i.answersFrom m) e) ∧
      (after.respondents = s.respondents ∨
        ∃ r, after.respondents = s.respondents ++ [r] ∧
          ∀ s₀ calls, ∀ e ∈ (r.answer s₀ calls).2, m.Correlates (i.answersFrom m) e) := by
  intro after
  suffices h : i.Correlated s m after by
    obtain ⟨own, replies, hsends, hown, hreplies⟩ := h.sent
    exact ⟨⟨own, replies, hsends.sentSince_eq, hown, hreplies⟩, h.respondents⟩
  obtain ⟨hdispatch, hfailed⟩ := dispatch_correlated hrefuses s via m
  -- what dispatch did is all, unless it failed and the failure can be returned
  simp only [after, receive]
  generalize i.dispatch s via m = result at hdispatch hfailed
  obtain ⟨i', s', answer⟩ := result
  cases answer with
  | ok _ => exact hdispatch
  | error failure =>
    simp only [returnFailure]
    split
    · exact hdispatch
    · next stage hstage =>
      refine hdispatch.send via ?_
      rw [hfailed failure rfl]
      exact m.correlates_reply (Header.mem_replyStages hstage) _ m.header.uriTo
        m.header.authenticationId _ (by simp)

/-- An Invoke comes in from a sender whose authentication id is on the list. The handler
    acknowledges it and fails, having kept its respondent, through which a response is sent later:
    all three answer the Invoke, and come from the URI that the provider answers under. -/
theorem replies_correlate_invoke :
    let handler : Handler :=
      { name := "h"
        conduct := fun _ => .keep "k" (.reply (.acknowledge .empty) fun _ =>
          .finish (.error (.internal "boom"))) }
    let a : Address := { endpoint := ⟨0, "p"⟩, uri := "p/h", handler := handler }
    let i : Instance :=
      { (Instance.create {} .system 0).bindProvider {} a with security := .allowing [[1]] }
    let s : Site := { now := 5, transport := { endpoints := [{ name := "e", uri := "p" }] } }
    let m : Message :=
      { header := { uriFrom := "c", uriTo := "p/h", pattern := .invoke, stage := some 1,
                    timestamp := 0, authenticationId := [1], qos := ⟨.assured, 7⟩,
                    scope := { domain := ["x", "y"], session := .replay },
                    transaction := some 5 }
        properties := [("k", "v")] }
    let after := (i.receive s ⟨0, "p"⟩ m).2
    ∃ ack error response r, after.sentSince s = [ack, error] ∧ ack.header.isError = false ∧
      error.header.isError = true ∧ after.respondents = [r] ∧
      (r.answer after [(id, .respond .empty)]).2 = [response] ∧
      m.Correlates "p/h" ack ∧ m.Correlates "p/h" error ∧ m.Correlates "p/h" response := by
  intro handler a i s m after
  have hsecurity : i.security m = .ok m := by rfl
  have hprovider : i.provider m.header = .ok a := by rfl
  have hcalled : i.called m = [.served a m] := called_provider hsecurity (.inl rfl) hprovider
  obtain ⟨⟨own, replies, hsent, hown, hreplies⟩, hrespondents⟩ :=
    i.replies_correlate (Security.onlyRefuses_allowing [[1]]) s ⟨0, "p"⟩ m
  -- no broker is asked, so all that is sent are replies
  obtain rfl : own = [] := by
    rw [List.eq_nil_iff_forall_not_mem]
    intro e he
    obtain ⟨b, request, hasked, _⟩ := hown e he
    cases hcalled.symm.trans hasked
  have hfrom : i.answersFrom m = "p/h" := by rw [answersFrom, hcalled]
  rw [hfrom] at hreplies hrespondents
  have hreplies : ∀ e ∈ after.sentSince s, m.Correlates "p/h" e := by
    rw [hsent]
    exact hreplies
  obtain ⟨ack, error, hboth, hack, herror⟩ : ∃ ack error, after.sentSince s = [ack, error] ∧
      ack.header.isError = false ∧ error.header.isError = true := ⟨_, _, rfl, rfl, rfl⟩
  obtain ⟨r, response, hkept, hanswer⟩ : ∃ r response, after.respondents = [r] ∧
      (r.answer after [(id, .respond .empty)]).2 = [response] := ⟨_, _, rfl, rfl⟩
  rw [hboth] at hreplies
  refine ⟨ack, error, response, r, hboth, hack, herror, hkept, hanswer, hreplies _ (.head _),
    hreplies _ (.tail _ (.head _)), ?_⟩
  -- the respondent that the theorem speaks of is the one that the handler kept
  rcases hrespondents with hnone | ⟨r', hadded, hlater⟩
  · cases hkept.symm.trans hnone
  · obtain rfl : r = r' := List.singleton_inj.1 (hkept.symm.trans hadded)
    refine hlater after [(id, .respond .empty)] response ?_
    rw [hanswer]
    exact .head _

end Instance

end Mal
