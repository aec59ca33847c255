import Mal.Proofs.Provider.Lifetime

/-!
# What a message brings about

When a message comes in, an instance may send others: the replies of a provider to it, the
acknowledgement of a broker, a failure, or whatever a broker sends by itself. `Instance.Reacts`
lists these, each with where it comes from. Apart from what brokers send by themselves, they all go
back to the sender under the transaction id of the message, and none of them starts anything.

Besides, the pending interactions change by at most one reply, the site keeps at most one more
respondent, and the bindings and the security check stay as they are (`Instance.Reception`).

## Key results

- `Conduct.run_sends`: a handler sends nothing but replies, by the calls in its conduct
- `Respondent.IsReply.intake`: replies are taken in as replies
- `Instance.receive_reception`: all that happens when a message comes in
- `Instance.failTransmission_onlyTells`: what a failure of the transport brings about
-/

namespace Mal

/-! ## Conduct of handlers and brokers -/

/-- A conduct makes a reply call, in some course of events. -/
inductive Conduct.Makes (call : ReplyCall) : Conduct → Prop where
  | here (next : ReplyResult → Conduct) : Makes call (.reply call next)
  | afterReply {call' : ReplyCall} {next : ReplyResult → Conduct} (result : ReplyResult)
      (h : Makes call (next result)) : Makes call (.reply call' next)
  | afterFault {next : Conduct} (h : Makes call next) : Makes call (.failNextSend next)
  | afterKeeping {name : String} {next : Conduct} (h : Makes call next) :
      Makes call (.keep name next)

/-- A broker's conduct sends a message, in some course of events. -/
inductive BrokerConduct.Sends (m : Message) : BrokerConduct → Prop where
  | here (e : EndpointRef) (next : Except Failure Unit → BrokerConduct) : Sends m (.send e m next)
  | later {e : EndpointRef} {m' : Message} {next : Except Failure Unit → BrokerConduct}
      (result : Except Failure Unit) (h : Sends m (next result)) : Sends m (.send e m' next)

/-- A handler answers Requests with nothing but the body it was given, or an error. -/
def Handler.EchoesRequests (h : Handler) : Prop :=
  ∀ m b, m.header.pattern = .request → (h.conduct m).Makes (.respond b) → b = m.body

/-- A broker sends nothing but notifies by itself. -/
def Broker.OnlyNotifies (b : Broker) : Prop :=
  ∀ now memory h request m, (b.conduct now memory h request).Sends m → m.header.intake = .notify

/-! ## Replies -/

/-- A message that a call on a respondent can send, whatever the progress. -/
def Respondent.IsReply (r : Respondent) (call : ReplyCall) (m : Message) : Prop :=
  ∃ now p step, call.step? r.pattern p = some (some step) ∧
    m = r.replyMessage now step.stage call

/-- An error that ends an interaction is returned at a stage at which the pattern has replies. -/
theorem Header.intake_of_errorStage {h : Header} {p : ReplyProgress} {stage : Stage}
    (hp : p.errorStage h.pattern = some stage) (hstage : h.stage = some stage) :
    h.intake = .reply := by
  unfold ReplyProgress.errorStage at hp
  split at hp
  · -- a completed interaction has no such stage
    cases hp
  · cases hack : p.acknowledged <;> cases hpattern : h.pattern <;>
      simp only [hpattern, hack, Option.some.injEq, reduceCtorEq] at hp
    all_goals
      -- each stage that is left is one at which replies of the pattern come in
      subst hp
      simp [intake, hpattern, hstage]

/-- So is every reply that a call sends. -/
private theorem ReplyCall.intake_of_step? {call : ReplyCall} {p : ReplyProgress} {step : ReplyStep}
    {h : Header} (hstep : call.step? h.pattern p = some (some step))
    (hstage : h.stage = some step.stage) : h.intake = .reply := by
  cases hpattern : h.pattern <;> cases call <;>
    simp only [hpattern, step?, Option.some.injEq, Option.map_eq_some_iff, reduceCtorEq] at hstep
  -- either the call has a stage of its own, or it returns an error at the stage that is due
  all_goals
    first
      | subst hstep
        simp [Header.intake, hpattern, hstage]
      | obtain ⟨stage, hp, rfl⟩ := hstep
        exact h.intake_of_errorStage (hpattern ▸ hp) hstage

namespace Respondent

variable {r : Respondent} {call : ReplyCall} {m : Message}

/-- A reply goes back to the sender under the transaction id of the request. -/
theorem IsReply.header (h : r.IsReply call m) :
    m.header.uriTo = r.request.header.uriFrom ∧
      m.header.transaction = r.request.header.transaction := by
  obtain ⟨now, p, step, _, rfl⟩ := h
  unfold replyMessage
  split <;> exact ⟨rfl, rfl⟩

/-- A reply is taken in as one. -/
theorem IsReply.intake (h : r.IsReply call m) : m.header.intake = .reply := by
  obtain ⟨now, p, step, hstep, rfl⟩ := h
  unfold replyMessage
  split <;> exact ReplyCall.intake_of_step? hstep rfl

/-- To a Request there is one reply that is no error, the response. -/
theorem IsReply.respond (h : r.IsReply call m) (hpattern : r.pattern = .request)
    (herror : m.header.isError = false) : call = .respond m.body := by
  obtain ⟨now, p, step, hstep, rfl⟩ := h
  rw [hpattern] at hstep
  -- an error is flagged, and a Request has no acknowledgement and no updates
  cases call with
  | respond body => rfl
  | fail | failUpdate => cases herror
  | acknowledge | update => cases hstep

/-- A Send is not replied to. -/
theorem IsReply.pattern_ne_send (h : r.IsReply call m) : r.pattern ≠ .send := by
  obtain ⟨now, p, step, hstep, rfl⟩ := h
  intro hpattern
  rw [hpattern] at hstep
  cases call <;> cases hstep

/-- What a call begins to send is a reply. -/
private theorem isReply_of_begin {begun : Respondent} {now : UInt64}
    (h : r.begin now call = some (.ok (begun, m))) : r.IsReply call m := by
  simp only [Respondent.begin] at h
  split at h
  · cases h
  · cases h
  · next step hstep =>
    split at h
    · cases h
    · cases h
      exact ⟨now, r.progress, step, hstep, rfl⟩

end Respondent

namespace Site

/-- A reply call sends its reply or nothing, and changes nothing of the respondent but its
    progress. -/
theorem reply_sends (s : Site) (r : Respondent) (call : ReplyCall) :
    (∃ ms, s.Sends (s.reply r call).2.2 ms ∧ ∀ m ∈ ms, r.IsReply call m) ∧
      (s.reply r call).2.2.respondents = s.respondents ∧
      ∃ p, (s.reply r call).2.1 = { r with progress := p } := by
  unfold reply
  cases hbegin : r.begin s.now call with
  -- a call that sends nothing, or is refused
  | none => exact ⟨⟨[], .of_sent_eq rfl, by simp⟩, rfl, r.progress, rfl⟩
  | some result =>
    cases result with
    | error failure => exact ⟨⟨[], .of_sent_eq rfl, by simp⟩, rfl, r.progress, rfl⟩
    | ok begunMessage =>
      obtain ⟨begun, m⟩ := begunMessage
      obtain ⟨p, _, rfl⟩ := Respondent.begin_eq_ok hbegin
      have hreply : r.IsReply call m := Respondent.isReply_of_begin hbegin
      refine ⟨?_, rfl, ?_⟩
      · rcases s.send_cases r.address.endpoint m with ⟨_, hs⟩ | ⟨_, _, hs⟩
        · -- the message leaves, or its send fails
          refine ⟨[m], hs, ?_⟩
          rintro m' hmem
          obtain rfl := List.mem_singleton.1 hmem
          exact hreply
        · exact ⟨[], hs, by simp⟩
      · -- a failed send takes the progress back
        simp only []
        cases (s.send r.address.endpoint m).1 with
        | ok => exact ⟨p, rfl⟩
        | error => exact ⟨r.progress, rfl⟩

end Site

/-! ## Handlers and brokers at work -/

/-- A handler sends nothing but replies, each by a call that it makes, and goes on with the request
    it was given. -/
theorem Conduct.run_sends (c : Conduct) (r : Respondent) (s : Site) :
    (∃ ms, s.Sends (c.run r s).2.2 ms ∧ ∀ m ∈ ms, ∃ call, c.Makes call ∧ r.IsReply call m) ∧
      (c.run r s).2.1.request = r.request := by
  -- by the conduct; what is sent is collected call by call
  induction c generalizing r s with
  | finish result => exact ⟨⟨[], .of_sent_eq rfl, by simp⟩, rfl⟩
  | reply call next ih =>
    obtain ⟨⟨out, hout, hreplies⟩, _, p, hp⟩ := s.reply_sends r call
    obtain ⟨⟨ms, hms, hlater⟩, hrequest⟩ :=
      ih (s.reply r call).1 (s.reply r call).2.1 (s.replyNoted r call).2.2
    rw [hp] at hlater
    refine ⟨⟨out ++ ms, hout.trans hms, ?_⟩, ?_⟩
    · intro m hmem
      rcases List.mem_append.1 hmem with hnow | hthen
      · -- a message is sent by this call or by a later one
        exact ⟨call, .here next, hreplies m hnow⟩
      · obtain ⟨call', hmakes, hreply⟩ := hlater m hthen
        exact ⟨call', .afterReply _ hmakes, hreply⟩
    · exact hrequest.trans (by rw [hp])
  | failNextSend next ih =>
    obtain ⟨⟨ms, hms, hreplies⟩, hrequest⟩ := ih r _
    refine ⟨⟨ms, hms, ?_⟩, hrequest⟩
    intro m hmem
    obtain ⟨call, hmakes, hreply⟩ := hreplies m hmem
    exact ⟨call, .afterFault hmakes, hreply⟩
  | keep name next ih =>
    obtain ⟨⟨ms, hms, hreplies⟩, hrequest⟩ := ih r _
    refine ⟨⟨ms, hms, ?_⟩, hrequest⟩
    intro m hmem
    obtain ⟨call, hmakes, hreply⟩ := hreplies m hmem
    exact ⟨call, .afterKeeping hmakes, hreply⟩

/-- A broker sends what its conduct says. -/
private theorem BrokerConduct.run_sends (c : BrokerConduct) (s : Site) :
    (∃ ms, s.Sends (c.run s).2.2 ms ∧ ∀ m ∈ ms, c.Sends m) ∧
      (c.run s).2.2.respondents = s.respondents := by
  induction c generalizing s with
  | finish memory result => exact ⟨⟨[], .of_sent_eq rfl, by simp⟩, rfl⟩
  | send e m next ih =>
    obtain ⟨⟨ms, hms, hlater⟩, hrespondents⟩ := ih (s.send e m).1 (s.send e m).2
    have hsends (m' : Message) (hmem : m' ∈ ms) : (send e m next).Sends m' :=
      .later _ (hlater m' hmem)
    refine ⟨?_, hrespondents⟩
    rcases s.send_cases e m with ⟨_, hs⟩ | ⟨_, _, hs⟩
    · refine ⟨[m] ++ ms, hs.trans hms, ?_⟩
      intro m' hmem
      rcases List.mem_cons.1 hmem with rfl | hmem
      · exact .here e next
      · exact hsends m' hmem
    · -- the send failed, so the message did not leave
      exact ⟨[] ++ ms, hs.trans hms, hsends⟩

namespace Site

/-- While a message is served, replies to it are sent; the respondent keeps the message. -/
theorem serve_sends (s : Site) (a : Address) (m : Message) :
    (∃ ms, s.Sends (s.serve a m).2.2 ms ∧
      ∀ e ∈ ms, ∃ call, (a.handler.conduct m).Makes call ∧
        Respondent.IsReply { request := m, address := a } call e) ∧
      (s.serve a m).2.1.request = m :=
  (a.handler.conduct m).run_sends { request := m, address := a } (s.note (.served a m))

/-- While a broker is asked, it sends what its conduct says. -/
theorem ask_sends (s : Site) (b : Broker) (h : Header) (request : BrokerRequest) :
    (∃ ms, s.Sends (s.ask b h request).2 ms ∧
      ∀ e ∈ ms, (b.conduct s.now (s.memory b) h request).Sends e) ∧
      (s.ask b h request).2.respondents = s.respondents := by
  have hrun := (b.conduct s.now (s.memory b) h request).run_sends (s.note (.asked b h request))
  simp only [ask]
  split <;> exact hrun

end Site

/-! ## Failures that are returned -/

/-- A failure is returned in a message that is taken in as a reply, or as the rejection of a
    publish. -/
private theorem Header.intake_of_errorReplyStage {h h' : Header} {stage : Stage}
    (hstage : h.errorReplyStage = some stage) (hpattern : h'.pattern = h.pattern)
    (hstage' : h'.stage = some stage) (herror : h'.isError = true) :
    h'.intake = .reply ∨ h'.intake = .publishError := by
  unfold errorReplyStage at hstage
  split at hstage
  · cases hstage
  · split at hstage <;> cases hstage
    all_goals simp_all [intake]

/-- A message that is taken in as a Send is one. -/
theorem Header.pattern_of_intake_send {h : Header} (hintake : h.intake = .send) :
    h.pattern = .send := by
  unfold intake at hintake
  split at hintake <;> first | assumption | cases hintake | (split at hintake <;> cases hintake)

/-- A message that is taken in by a broker belongs to PubSub. -/
theorem Header.pattern_of_intake_broker {h : Header} (hintake : h.intake = .broker) :
    h.pattern = .pubSub := by
  unfold intake at hintake
  split at hintake <;> first | assumption | cases hintake

/-- The acknowledgement of a broker is taken in as a reply. -/
theorem Header.intake_of_ackStage? {h h' : Header} {request : BrokerRequest} {stage : Stage}
    (hintake : h.intake = .broker) (hstage : request.ackStage? = some stage)
    (hpattern : h'.pattern = h.pattern) (hstage' : h'.stage = some stage) :
    h'.intake = .reply := by
  have hpubSub := pattern_of_intake_broker hintake
  cases request <;> cases hstage <;> simp [intake, hpattern, hpubSub, hstage']

/-! ## Everything that happens -/

namespace Instance

/-- Where a message comes from that is sent when `m` comes in at the site `s`. -/
inductive Reacts (i : Instance) (s : Site) (m e : Message) : Prop where
  /-- A failure, returned to the sender of `m`. -/
  | failed (herror : e.header.isError = true)
      (hintake : e.header.intake = .reply ∨ e.header.intake = .publishError)
  /-- What a broker bound here sends by itself when it is asked. -/
  | forwarded {m' : Message} {b : Broker} {request : BrokerRequest}
      (hsecurity : i.security m = .ok m') (hintake : m'.header.intake = .broker)
      (hbroker : i.bindings.broker? m'.header.uriTo = some b)
      (hsends : (b.conduct s.now (s.memory b) m'.header request).Sends e)
  /-- The acknowledgement of a request to a broker. -/
  | acknowledged {m' : Message} (hsecurity : i.security m = .ok m')
      (hbroker : m'.header.intake = .broker) (hintake : e.header.intake = .reply)
      (huri : e.header.uriTo = m'.header.uriFrom)
      (htransaction : e.header.transaction = m'.header.transaction)
  /-- A reply of a provider bound here. -/
  | answered {m' : Message} {a : Address} {call : ReplyCall} (hsecurity : i.security m = .ok m')
      (hrequest : m'.header.intake = .request) (hprovider : i.provider m'.header = .ok a)
      (hmakes : (a.handler.conduct m').Makes call)
      (hreply : Respondent.IsReply { request := m', address := a } call e)

/-- What is different after a message `m` has come in. -/
structure Reception (i : Instance) (s : Site) (m : Message) (i' : Instance) (s' : Site) :
    Prop where
  sent : ∃ ms, s.Sends s' ms ∧ ∀ e ∈ ms, i.Reacts s m e
  correlator : i'.correlator = i.correlator ∨
    ∃ m', i.security m = .ok m' ∧ m'.header.intake = .reply ∧
      i'.correlator = (i.correlator.receive m').1
  respondents : s'.respondents = s.respondents ∨
    ∃ r, i.security m = .ok r.request ∧
      (r.request.header.intake = .request ∨ r.request.header.intake = .send) ∧
      s'.respondents = s.respondents ++ [r]
  bindings : i'.bindings = i.bindings
  security : i'.security = i.security

variable {i : Instance} {s : Site} {m m' : Message}

/-- Telling listeners changes nothing but routes and the record of what happened. -/
def OnlyTells (i : Instance) (s : Site) (i' : Instance) (s' : Site) : Prop :=
  ∃ routing events, i' = { i with routing := routing } ∧ s' = { s with events := events }

theorem report_onlyTells (i : Instance) (s : Site) (r : Report) :
    OnlyTells i s (i.report s r).1 (i.report s r).2 := by
  refine ⟨(i.report s r).1.routing, (i.report s r).2.events, rfl, ?_⟩
  simp only [report, Site.tell]
  split <;> rfl

theorem reportAll_onlyTells (i : Instance) (s : Site) (rs : List Report) :
    OnlyTells i s (i.reportAll s rs).1 (i.reportAll s rs).2 := by
  induction rs generalizing i s with
  | nil => exact ⟨i.routing, s.events, rfl, rfl⟩
  | cons r rest ih =>
    -- one listener after the other; the routing and the record of the first go on to the next
    obtain ⟨_, _, hi, hs⟩ := i.report_onlyTells s r
    obtain ⟨routing, events, hi', hs'⟩ := ih (i.report s r).1 (i.report s r).2
    refine ⟨routing, events, hi'.trans ?_, hs'.trans ?_⟩
    · rw [hi]
    · rw [hs]

/-- Each of the listeners is told, in this order. -/
theorem tellNotifyError_eq (s : Site) (h : Header) (e : StandardError) (names : List String) :
    tellNotifyError s h e names =
      { s with
        events := s.events ++ names.map fun name => .told ⟨name, .notifyError, .error h e⟩ } := by
  induction names generalizing s with
  | nil => simp [tellNotifyError]
  | cons name rest ih =>
    refine (ih (s.note (.told ⟨name, .notifyError, .error h e⟩))).trans ?_
    simp [Site.note]

private theorem tellNotifyError_events (s : Site) (h : Header) (e : StandardError)
    (names : List String) :
    ∃ events, tellNotifyError s h e names = { s with events := events } :=
  ⟨_, tellNotifyError_eq s h e names⟩

theorem dispatchNotify_onlyTells (i : Instance) (s : Site) (m : Message) :
    OnlyTells i s (i.dispatchNotify s m).1 (i.dispatchNotify s m).2.1 := by
  unfold dispatchNotify
  split
  · -- an error is told to all listeners of the URI
    next e _ =>
    obtain ⟨events, hevents⟩ := tellNotifyError_events s m.header e
      ((i.routing.notifyOn m.header.uriTo).map Prod.snd)
    exact ⟨_, events, rfl, hevents⟩
  · -- a notification is told to the one listener that it is for, if its route is there
    split
    · dsimp only
      split
      · exact ⟨i.routing, _, rfl, rfl⟩
      · exact ⟨i.routing, s.events, rfl, rfl⟩
    · exact ⟨i.routing, s.events, rfl, rfl⟩

theorem dispatchPublishError_onlyTells (i : Instance) (s : Site) (m : Message) :
    OnlyTells i s (i.dispatchPublishError s m).1 (i.dispatchPublishError s m).2 := by
  simp only [dispatchPublishError]
  split
  · exact ⟨_, _, rfl, rfl⟩
  · exact ⟨i.routing, s.events, rfl, rfl⟩

/-- A failure of the transport ends at most one pending interaction; for the rest, listeners are
    told. -/
theorem failTransmission_onlyTells (i : Instance) (s : Site) (uri : String) (h : Option Header)
    (failure : Failure) :
    ∃ c, (c = i.correlator ∨ ∃ h, c = (i.correlator.fail s.now h failure).1) ∧
      OnlyTells { i with correlator := c } s (i.failTransmission s uri h failure).1
        (i.failTransmission s uri h failure).2 := by
  have hsame : OnlyTells i s i s := ⟨i.routing, s.events, rfl, rfl⟩
  unfold failTransmission
  split
  · -- a failure of one message
    next h =>
    split
    · refine ⟨i.correlator, .inl rfl, ?_⟩
      -- a Publish is for the listener of its publisher
      split
      · exact ⟨i.routing, _, rfl, rfl⟩
      · exact hsame
    · -- any other one ends the interaction it belongs to, if that is pending
      split
      · exact ⟨_, .inr ⟨h, rfl⟩, reportAll_onlyTells _ s _⟩
      · exact ⟨i.correlator, .inl rfl, hsame⟩
  · -- a failure without a message is told to all listeners of the URI
    obtain ⟨events, hevents⟩ := tellNotifyError_events s
      { uriFrom := "", uriTo := uri, pattern := .pubSub, stage := some Stage.notify,
        timestamp := s.now, isError := true }
      failure.standardError ((i.routing.notifyOn uri).map Prod.snd)
    exact ⟨i.correlator, .inl rfl, _, events, rfl, hevents⟩

/-- Closing an instance ends what is pending; for the rest, listeners are told. -/
theorem close_onlyTells (i : Instance) (s : Site) :
    OnlyTells { i with correlator := (i.correlator.shutdown s.now).1 } s (i.close s).1
      (i.close s).2 :=
  reportAll_onlyTells _ s _

namespace Reception

/-- Nothing happens. -/
private theorem refl (i : Instance) (s : Site) (m : Message) : i.Reception s m i s where
  sent := ⟨[], .of_sent_eq rfl, by simp⟩
  correlator := .inl rfl
  respondents := .inl rfl
  bindings := rfl
  security := rfl

/-- Listeners are told, perhaps after a reply was taken in. -/
private theorem told {c : Correlator} {i' : Instance} {s' : Site}
    (hc : c = i.correlator ∨ ∃ m', i.security m = .ok m' ∧ m'.header.intake = .reply ∧
      c = (i.correlator.receive m').1)
    (h : OnlyTells { i with correlator := c } s i' s') : i.Reception s m i' s' := by
  obtain ⟨routing, events, rfl, rfl⟩ := h
  exact
    { sent := ⟨[], .of_sent_eq rfl, by simp⟩
      correlator := hc
      respondents := .inl rfl
      bindings := rfl
      security := rfl }

/-- One more send, successful or not, by which the instance reacts. -/
private theorem send {i' : Instance} {s' : Site} (h : i.Reception s m i' s') (e : EndpointRef)
    {m' : Message} (hreacts : i.Reacts s m m') : i.Reception s m i' (s'.send e m').2 where
  sent := by
    obtain ⟨ms, hms, hall⟩ := h.sent
    -- the message comes after those before it, if its send succeeds
    rcases s'.send_cases e m' with ⟨_, hs⟩ | ⟨_, _, hs⟩
    · refine ⟨ms ++ [m'], hms.trans hs, ?_⟩
      intro e' hmem
      rcases List.mem_append.1 hmem with hmem | hmem
      · exact hall e' hmem
      · obtain rfl := List.mem_singleton.1 hmem
        exact hreacts
    · exact ⟨ms ++ [], hms.trans hs, by simpa using hall⟩
  correlator := h.correlator
  respondents := h.respondents
  bindings := h.bindings
  security := h.security

end Reception

/-- The provider of a message is bound to the URI it is for. -/
theorem provider_eq_ok {h : Header} {a : Address} (hprovider : i.provider h = .ok a) :
    i.bindings.provider? h.uriTo h.service = some a := by
  unfold provider at hprovider
  split at hprovider
  · next hbound =>
    cases hprovider
    exact hbound
  · cases hprovider

/-- A Send is served, and nothing is sent. -/
private theorem dispatchSend_reception (hsecurity : i.security m = .ok m')
    (hintake : m'.header.intake = .send) :
    i.Reception s m i (i.dispatchSend s m').1 := by
  unfold dispatchSend
  split
  · -- without a provider nothing is done
    exact .refl i s m
  · next a hprovider =>
    obtain ⟨⟨ms, hms, hreplies⟩, hrequest⟩ := s.serve_sends a m'
    refine ⟨⟨ms, hms, ?_⟩, .inl rfl, .inr ⟨(s.serve a m').2.1, ?_, ?_, s.serve_respondents a m'⟩,
      rfl, rfl⟩
    · -- there are no replies to a Send
      intro e hmem
      obtain ⟨call, _, hreply⟩ := hreplies e hmem
      exact absurd (Header.pattern_of_intake_send hintake) hreply.pattern_ne_send
    · rw [hrequest, hsecurity]
    · rw [hrequest]
      exact .inr hintake

/-- The start of an interaction is served, and its replies are sent, perhaps with an error at the
    end. -/
private theorem dispatchRequest_reception (hsecurity : i.security m = .ok m')
    (hintake : m'.header.intake = .request) :
    i.Reception s m i (i.dispatchRequest s m').1 := by
  unfold dispatchRequest
  -- without a provider nothing is done
  split
  · exact .refl i s m
  · next a hprovider =>
    obtain ⟨⟨ms, hms, hreplies⟩, hrequest⟩ := s.serve_sends a m'
    have hserved : i.Reception s m i (s.serve a m').2.2 := by
      refine ⟨⟨ms, hms, ?_⟩, .inl rfl,
        .inr ⟨(s.serve a m').2.1, ?_, ?_, s.serve_respondents a m'⟩, rfl, rfl⟩
      · intro e hmem
        obtain ⟨call, hmakes, hreply⟩ := hreplies e hmem
        exact .answered hsecurity hintake hprovider hmakes hreply
      · rw [hrequest, hsecurity]
      · rw [hrequest]
        exact .inl hintake
    simp only []
    -- a handler that returns adds nothing to its replies
    split
    · exact hserved
    · next failure _ =>
      -- the failure of one that gives up is sent, if there is a stage for it
      split
      · exact hserved
      · next stage hstage =>
        simp only [Respondent.errorStage, Respondent.pattern, hrequest] at hstage
        exact hserved.send a.endpoint (.failed rfl (.inl (Header.intake_of_errorStage hstage rfl)))

/-- A request to a broker is acknowledged when the broker has accepted it. -/
private theorem dispatchBroker_reception (via : EndpointRef) (hsecurity : i.security m = .ok m')
    (hintake : m'.header.intake = .broker) :
    i.Reception s m i (i.dispatchBroker s via m').1 := by
  unfold dispatchBroker
  split
  · exact .refl i s m
  · next b hbroker =>
    -- a body that does not fit the stage is not passed on to the broker
    split
    · exact .refl i s m
    · next request _ =>
      obtain ⟨⟨ms, hms, hsends⟩, hrespondents⟩ := s.ask_sends b m'.header request
      have hasked : i.Reception s m i (s.ask b m'.header request).2 := by
        refine ⟨⟨ms, hms, ?_⟩, .inl rfl, .inl hrespondents, rfl, rfl⟩
        intro e hmem
        exact .forwarded hsecurity hintake hbroker (hsends e hmem)
      generalize s.ask b m'.header request = asked at hasked ⊢
      obtain ⟨result, s'⟩ := asked
      cases result with
      -- a broker that refuses acknowledges nothing
      | error failure => exact hasked
      | ok _ =>
        simp only []
        split
        · exact hasked
        · next stage hstage =>
          refine hasked.send via (.acknowledged hsecurity hintake ?_ rfl rfl)
          exact Header.intake_of_ackStage? hintake hstage rfl rfl

/-- A reply is taken in by the pending interaction that it is for. -/
private theorem receiveReply_reception (hsecurity : i.security m = .ok m')
    (hintake : m'.header.intake = .reply) :
    i.Reception s m (i.receiveReply s m').1 (i.receiveReply s m').2.1 := by
  unfold receiveReply
  split
  · -- a reply that is refused changes nothing
    exact .refl i s m
  · next c hreceive =>
    refine .told (c := c) (.inr ⟨m', hsecurity, hintake, ?_⟩) ⟨i.routing, s.events, rfl, rfl⟩
    rw [hreceive]
  · -- the listener is told of it
    next c r hreceive =>
    refine .told (c := c) (.inr ⟨m', hsecurity, hintake, ?_⟩) (report_onlyTells _ s r)
    rw [hreceive]

/-- All that happens when a message comes in. -/
theorem receive_reception (i : Instance) (s : Site) (via : EndpointRef) (m : Message) :
    i.Reception s m (i.receive s via m).1 (i.receive s via m).2 := by
  have hdispatch : i.Reception s m (i.dispatch s via m).1 (i.dispatch s via m).2.1 := by
    unfold dispatch
    split
    · -- a message that the check refuses is not dispatched
      exact .refl i s m
    · -- each kind of message is dispatched by its own lemma above
      next m' hsecurity =>
      split
      · next hintake => exact dispatchSend_reception hsecurity hintake
      · next hintake => exact dispatchRequest_reception hsecurity hintake
      · next hintake => exact receiveReply_reception hsecurity hintake
      · next hintake => exact .told (.inl rfl) (i.dispatchPublishError_onlyTells s m')
      · next hintake => exact .told (.inl rfl) (i.dispatchNotify_onlyTells s m')
      · next hintake => exact dispatchBroker_reception via hsecurity hintake
      · exact .refl i s m
  unfold receive
  generalize i.dispatch s via m = result at hdispatch ⊢
  obtain ⟨i', s', answer⟩ := result
  cases answer with
  | ok _ => exact hdispatch
  | error failure =>
    simp only [returnFailure]
    split
    · exact hdispatch
    · -- a failure is returned to a sender that waits
      next stage hstage =>
      exact hdispatch.send via
        (.failed rfl (Header.intake_of_errorReplyStage hstage rfl rfl rfl))

end Instance

end Mal
