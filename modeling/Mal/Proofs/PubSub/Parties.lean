import Mal.Broker.Distributor
import Mal.Proofs.Correlation.Idle
import Mal.Proofs.Dispatch.Brokered
import Mal.Proofs.Network.Failures

/-!
# The three parties to a publish

What a subscriber, a publisher and a distributing broker do when nothing stands in their way: their
security checks let everything pass, and their endpoints take everything. Each step is an equation
for what the instance becomes, together with what happens at the site in between (`Site.Passes`).

## Key results

- `Instance.start_of_idle`: an idle instance starts what its consumer asks for
- `Distributor.ask_finish`, `Distributor.ask_publish`: the broker answers
- `Instance.receive_accepted`, `Instance.receive_published`, `Instance.receive_rejected`: a request
  comes in where the broker is bound
- `Instance.receive_reported`, `Instance.receive_collected`: its acknowledgement comes back
- `Instance.receive_notify`, `Instance.receive_publishError`: what comes of a publish
-/

namespace Mal

/-! ## What happens at a site -/

/-- Between two states of a site the messages `ms` were sent and listeners were told `told`, and
    every endpoint that took everything still does. -/
structure Site.Passes (s s' : Site) (ms : List Message) (told : List Notice) : Prop where
  sends : s.Sends s' ms
  events : ∃ es, s'.events = s.events ++ es ∧ es.filterMap Event.notice? = told
  takes (e : EndpointRef) : s.TakesAll e → s'.TakesAll e

/-- What was sent, oldest first, as it grows. -/
theorem Site.Sends.map_sent {s s' : Site} {ms : List Message} (h : s.Sends s' ms) :
    s'.transport.sent.map Prod.snd = s.transport.sent.map Prod.snd ++ ms := by
  obtain ⟨out, hout, rfl⟩ := h
  rw [hout, List.map_append]

namespace Site.Passes

variable {s s' s'' : Site} {ms ms' : List Message} {told told' : List Notice}

theorem refl (s : Site) : s.Passes s [] [] where
  sends := .of_sent_eq rfl
  events := ⟨[], (List.append_nil _).symm, rfl⟩
  takes _ h := h

theorem trans (h : s.Passes s' ms told) (h' : s'.Passes s'' ms' told') :
    s.Passes s'' (ms ++ ms') (told ++ told') where
  sends := h.sends.trans h'.sends
  events := by
    obtain ⟨es, hes, rfl⟩ := h.events
    obtain ⟨es', hes', rfl⟩ := h'.events
    exact ⟨es ++ es', by rw [hes', hes, List.append_assoc], List.filterMap_append⟩
  takes e htakes := h'.takes e (h.takes e htakes)

theorem noticesSince_eq (h : s.Passes s' ms told) : s'.noticesSince s = told := by
  obtain ⟨es, hes, rfl⟩ := h.events
  rw [noticesSince, hes, List.drop_left]

/-- An endpoint that takes everything sends. -/
theorem send {e : EndpointRef} (htakes : s.TakesAll e) (m : Message) :
    s.Passes (s.send e m).2 [m] [] where
  sends := (htakes.sends m).2
  events := ⟨[], (List.append_nil _).symm, rfl⟩
  takes _ h := h.after_send e m

/-- A listener is told something. -/
theorem tell (s : Site) (n : Option Notice) : s.Passes (s.tell n) [] n.toList := by
  cases n with
  | none => exact refl s
  | some n => exact ⟨.of_sent_eq rfl, ⟨[.told n], rfl, rfl⟩, fun _ h => h⟩

end Site.Passes

@[simp] theorem Site.memory_tell (s : Site) (n : Option Notice) (b : Broker) :
    (s.tell n).memory b = s.memory b := by
  cases n <;> rfl

/-! ## Requests of consumers -/

/-- A reply at the stage is accepted, and is the last. -/
def ReplyState.EndsAt (st : ReplyState) (stage : Stage) : Prop :=
  ∀ header : Header, header.stage = some stage →
    ∃ next, st.receive header = .ok next ∧ next.isFinished = true

namespace Demand

/-- The request to a broker that a demand makes. -/
def request? : Demand → Option BrokerRequest
  | register subscription _ => some (.register subscription)
  | deregister ids => some (.deregister ids)
  | publishRegister keys _ => some (.publishRegister keys)
  | publish updates => some (.publish updates)
  | publishDeregister => some .publishDeregister
  | send .. | submit .. | request .. | invoke .. | progress .. => none

variable {d : Demand} {request : BrokerRequest}

/-- The first message of such a demand is taken in as the request. -/
theorem ofMessage_message (h : d.request? = some request) (a : Addressing) (now : UInt64)
    (id : TransactionId) :
    BrokerRequest.ofMessage (d.message a now id) = .ok request ∧
      (d.message a now id).header.intake = .broker ∧ d.pattern = .pubSub := by
  cases d <;> cases h <;> exact ⟨rfl, rfl, rfl⟩

/-- The first message goes from the consumer to the broker. -/
theorem uriTo_message (h : d.request? = some request) (a : Addressing) (now : UInt64)
    (id : TransactionId) :
    (d.message a now id).header.uriTo = a.brokerUri.getD a.uriTo := by
  simp only [message, Addressing.header, (ofMessage_message h a now id).2.2, if_true]

/-- If the request is acknowledged, its interaction has one reply, the acknowledgement; otherwise it
    has none. -/
theorem initial_of_request? (h : d.request? = some request) :
    match request.ackStage? with
    | none => ReplyState.initial d.pattern d.stage = .ok none
    | some stage => d.isAnswered = true ∧ d.isStaged = false ∧
        ∃ st, ReplyState.initial d.pattern d.stage = .ok (some st) ∧ st.EndsAt stage := by
  -- the acknowledgement is the one reply, and ends the interaction
  have hsingle (stage : Stage) : (ReplyState.single stage false).EndsAt stage := by
    intro header hstage
    refine ⟨.single stage true, ?_, rfl⟩
    simp [ReplyState.receive, ReplyState.accept, Header.stageOrZero, hstage]
  -- so it is for publishers, whatever its stage
  have hpublish (stage : Stage) : (ReplyState.publish stage false).EndsAt stage := by
    intro header _
    refine ⟨.publish stage true, ?_, rfl⟩
    simp [ReplyState.receive, ReplyState.accept]
  cases d with
  -- a subscriber is acknowledged
  | register | deregister =>
    cases h
    exact ⟨rfl, rfl, _, rfl, hsingle _⟩
  | publishRegister | publishDeregister =>
    cases h
    exact ⟨rfl, rfl, _, rfl, hpublish _⟩
  -- a publish is not
  | publish =>
    cases h
    rfl
  -- the others are no requests to a broker
  | send | submit | request | invoke | progress => cases h

end Demand

namespace Instance

variable {i : Instance} {s : Site} {via : EndpointRef} {m : Message}

/-- An instance on which nothing is pending starts what a consumer asks for: its routes are
    prepared, its interaction is pending if it has replies, and the first message is sent. -/
theorem start_of_idle (hidle : i.correlator.Idle) {c : Consumer}
    (htakes : s.TakesAll c.addressing.endpoint) {d : Demand} {state? : Option ReplyState}
    (hstate : ReplyState.initial d.pattern d.stage = .ok state?) (reporter : Option String) :
    ∃ id k, k.Idle ∧ i.start s c d reporter =
      ({ i with
          routing := d.prepare c.addressing i.routing
          correlator := match state? with
            | none => k
            | some st => k.add id d.pattern st (reporter.map fun r => d.listener c.addressing r) },
        (s.send c.addressing.endpoint (d.message c.addressing s.now id)).2, .ok id) := by
  obtain ⟨id, a, hinitiate⟩ := hidle.initiate (i.clock.seconds s.now) hstate
    (reporter.map fun r => d.listener c.addressing r)
  -- the send succeeds, so the interaction stays
  have hok := (htakes.sends (d.message c.addressing s.now id)).1
  refine ⟨id, _, hidle.allocator a, ?_⟩
  simp only [start, launch, initiate, hinitiate]
  generalize s.send c.addressing.endpoint (d.message c.addressing s.now id) = sending at hok
  obtain ⟨result, s'⟩ := sending
  obtain rfl : result = .ok () := hok
  rfl

end Instance

/-! ## The broker -/

namespace Distributor

variable {name : String} {slot : Nat} {endpoint : EndpointRef} {s : Site} {h : Header}

/-- The broker accepts a request, which is to be acknowledged at a stage, and remembers `memory'`
    then. -/
structure Accepts (endpoint : EndpointRef) (now : UInt64) (memory : BrokerMemory) (h : Header)
    (request : BrokerRequest) (stage : Stage) (memory' : BrokerMemory) : Prop where
  stage : request.ackStage? = some stage
  conduct : conduct endpoint now memory h request = .finish memory' (.ok ())
  calls : memory'.calls = memory.calls

/-- The broker answers at once, with another memory. -/
theorem ask_finish {request : BrokerRequest} {memory : BrokerMemory} {result : Except Failure Unit}
    (hconduct : conduct endpoint s.now (s.memory (broker name slot endpoint)) h request =
      .finish memory result)
    (hcalls : memory.calls = (s.memory (broker name slot endpoint)).calls) :
    ∃ asked, s.ask (broker name slot endpoint) h request = (result, asked) ∧
      s.Passes asked [] [] ∧ asked.memory (broker name slot endpoint) = memory := by
  have hrun : (broker name slot endpoint).conduct s.now (s.memory (broker name slot endpoint)) h
      request = .finish memory result := hconduct
  refine ⟨{ s.note (.asked (broker name slot endpoint) h request) with
    memories := s.memories.put slot memory }, ?_,
    ⟨.of_sent_eq rfl, ⟨[_], rfl, rfl⟩, fun _ htakes => htakes⟩, ?_⟩
  · simp only [Site.ask, hrun, BrokerConduct.run, hcalls, if_true]
    rfl
  · simp [Site.memory, broker]

/-- Messages are sent one after another where the endpoint takes them all. -/
private theorem run_sendAll (memory : BrokerMemory) (ms : List Message)
    (htakes : s.TakesAll endpoint) :
    ∃ s', (sendAll endpoint memory ms).run s = (.ok (), memory, s') ∧ s.Passes s' ms [] ∧
      s'.memories = s.memories := by
  -- the endpoint goes on taking messages after each send
  induction ms generalizing s with
  | nil => exact ⟨s, rfl, .refl s, rfl⟩
  | cons m rest ih =>
    obtain ⟨s', hrun, hpasses, hmemories⟩ := ih (htakes.after_send endpoint m)
    have hok : (s.send endpoint m).1 = .ok () := (htakes.sends m).1
    refine ⟨s', ?_, (Site.Passes.send htakes m).trans hpasses, hmemories⟩
    simp only [sendAll, BrokerConduct.run, hok]
    exact hrun

/-- A registered publisher publishes: the notifies are sent, and the memory stays as it is. -/
theorem ask_publish (updates : List Update)
    (hregistered : h.uriFrom ∈ (s.memory (broker name slot endpoint)).publishers)
    (htakes : s.TakesAll endpoint) :
    ∃ asked, s.ask (broker name slot endpoint) h (.publish updates) = (.ok (), asked) ∧
      s.Passes asked ((s.memory (broker name slot endpoint)).subscriptions.filterMap
        (notify? s.now updates)) [] ∧
      asked.memory (broker name slot endpoint) = s.memory (broker name slot endpoint) := by
  obtain ⟨s', hrun, hpasses, hmemories⟩ := run_sendAll
    (s := s.note (.asked (broker name slot endpoint) h (.publish updates)))
    (s.memory (broker name slot endpoint))
    ((s.memory (broker name slot endpoint)).subscriptions.filterMap (notify? s.now updates)) htakes
  have hasked : s.Passes (s.note (.asked (broker name slot endpoint) h (.publish updates))) [] [] :=
    ⟨.of_sent_eq rfl, ⟨[_], rfl, rfl⟩, fun _ h => h⟩
  refine ⟨{ s' with memories := s'.memories.put slot (s.memory (broker name slot endpoint)) },
    ?_, hasked.trans ⟨hpasses.sends, hpasses.events, hpasses.takes⟩, ?_⟩
  · -- a registered publisher is let through, and its notifies are all that is sent
    have hconduct : (broker name slot endpoint).conduct s.now
        (s.memory (broker name slot endpoint)) h (.publish updates) =
          sendAll endpoint (s.memory (broker name slot endpoint))
            ((s.memory (broker name slot endpoint)).subscriptions.filterMap
              (notify? s.now updates)) := if_pos hregistered
    simp only [Site.ask, hconduct, hrun, if_true]
    rfl
  · simp [Site.memory, broker]

end Distributor

/-! ## Requests that come in -/

namespace Instance

variable {i : Instance} {s : Site} {via : EndpointRef} {m : Message}

/-- A request to a broker changes nothing about the instance. -/
private theorem receive_broker_fst (hsecurity : i.security m = .ok m)
    (hintake : m.header.intake = .broker) : (i.receive s via m).1 = i := by
  simp only [receive, dispatch, hsecurity, hintake]
  split <;> next heq => exact (congrArg Prod.fst heq).symm

variable {b : Broker} {request : BrokerRequest} {asked : Site}

/-- The broker is asked, and only the broker. -/
private theorem called_broker (hsecurity : i.security m = .ok m)
    (hintake : m.header.intake = .broker) (hbound : i.bindings.broker? m.header.uriTo = some b)
    (hrequest : BrokerRequest.ofMessage m = .ok request) :
    i.called m = [.asked b m.header request] := by
  simp only [called, hsecurity, hintake, brokerCalls, hbound, hrequest]

/-- A request that the broker accepts is acknowledged. -/
theorem receive_accepted (hsecurity : i.security m = .ok m) (hintake : m.header.intake = .broker)
    (hbound : i.bindings.broker? m.header.uriTo = some b)
    (hrequest : BrokerRequest.ofMessage m = .ok request)
    (hanswer : s.ask b m.header request = (.ok (), asked)) {stage : Stage}
    (hstage : request.ackStage? = some stage) (htakes : asked.TakesAll via) :
    i.receive s via m = (i, (asked.respondVia via m.header m.properties stage .empty).2) := by
  have hsent : (asked.respondVia via m.header m.properties stage .empty).1 = .ok () :=
    (htakes.sends _).1
  refine Prod.ext (receive_broker_fst hsecurity hintake) ?_
  rw [receive_asked s via hsecurity (called_broker hsecurity hintake hbound hrequest), hanswer]
  simp only [hstage]
  generalize asked.respondVia via m.header m.properties stage .empty = sending at hsent
  obtain ⟨result, s'⟩ := sending
  obtain rfl : result = .ok () := hsent
  rfl

/-- A publish that the broker accepts is not acknowledged. -/
theorem receive_published (hsecurity : i.security m = .ok m) (hintake : m.header.intake = .broker)
    (hbound : i.bindings.broker? m.header.uriTo = some b)
    (hrequest : BrokerRequest.ofMessage m = .ok request)
    (hanswer : s.ask b m.header request = (.ok (), asked)) (hstage : request.ackStage? = none) :
    i.receive s via m = (i, asked) := by
  refine Prod.ext (receive_broker_fst hsecurity hintake) ?_
  rw [receive_asked s via hsecurity (called_broker hsecurity hintake hbound hrequest), hanswer]
  simp only [hstage]

/-- A request that the broker refuses is answered with the failure. -/
theorem receive_rejected (hsecurity : i.security m = .ok m) (hintake : m.header.intake = .broker)
    (hbound : i.bindings.broker? m.header.uriTo = some b)
    (hrequest : BrokerRequest.ofMessage m = .ok request) {failure : Failure}
    (hanswer : s.ask b m.header request = (.error failure, asked)) :
    i.receive s via m = (i, returnFailure asked via m.header failure) := by
  refine Prod.ext (receive_broker_fst hsecurity hintake) ?_
  rw [receive_asked s via hsecurity (called_broker hsecurity hintake hbound hrequest), hanswer]

/-! ## Replies that come in -/

/-- A reply that is no error leaves the route of a registration alone. -/
private theorem droppedRoute?_message (l : Listener) (m : Message) :
    l.droppedRoute? (.message m) = none := by
  cases l with
  -- only a registration has a route of its own
  | interaction | publishing => rfl
  | registration name route =>
    -- and it is dropped for an error alone
    have hcallback : (Outcome.message m).interactionCallback? ≠ some .registerError := by
      simp only [Outcome.interactionCallback?, Outcome.isError]
      repeat' split
      all_goals simp
    simp only [Listener.droppedRoute?, if_neg hcallback]

/-- A reply that is reported to a listener, and is no error. -/
theorem receive_reported (hsecurity : i.security m = .ok m) (hintake : m.header.intake = .reply)
    (hplain : m.header.isError = false) {k : Correlator} {serial : Nat} {l : Listener}
    (hreport : i.correlator.receive m = (k, .ok (some ⟨serial, l, .ofMessage m⟩))) :
    i.receive s via m = ({ i with correlator := k }, s.tell (l.notice? (.message m))) := by
  simp only [receive, dispatch, hsecurity, hintake, receiveReply, hreport, report,
    Outcome.ofMessage_of_plain hplain, droppedRoute?_message]

/-- A reply that waits to be collected. -/
theorem receive_collected (hsecurity : i.security m = .ok m) (hintake : m.header.intake = .reply)
    {k : Correlator} (hreceive : i.correlator.receive m = (k, .ok none)) :
    i.receive s via m = ({ i with correlator := k }, s) := by
  simp only [receive, dispatch, hsecurity, hintake, receiveReply, hreceive]

/-! ## What comes of a publish -/

/-- A notify goes to the listener of its subscription, if there is one. -/
theorem receive_notify {m' : Message} (hsecurity : i.security m = .ok m')
    (hintake : m'.header.intake = .notify) (hplain : m'.header.isError = false) {n : Notification}
    (hbody : m'.body = .notify n) :
    i.receive s via m = (i, s.tell ((i.routing.notify? m'.header.uriTo n.subscriptionId).map
      fun listener => ⟨listener, .notify, .message m'⟩)) := by
  have hnone : m'.error? = none := by simp [Message.error?, hplain]
  simp only [receive, dispatch, hsecurity, hintake, dispatchNotify, hnone, hbody]
  cases i.routing.notify? m'.header.uriTo n.subscriptionId <;> rfl

/-- The rejection of a publish goes to the publisher's listener, if there is one, and takes its
    route down. -/
theorem receive_publishError {m' : Message} (hsecurity : i.security m = .ok m')
    (hintake : m'.header.intake = .publishError) :
    i.receive s via m =
      match i.routing.publisher? (i.routing.publisherKeyFor m'.header) with
      | none => (i, s)
      | some listener =>
        ({ i with
            routing := i.routing.removePublisher (i.routing.publisherKeyFor m'.header) },
          s.tell (some ⟨listener, .publishError, .error m'.header
            (m'.error?.getD { number := StandardError.unknown })⟩)) := by
  simp only [receive, dispatch, hsecurity, hintake, dispatchPublishError]
  cases i.routing.publisher? (i.routing.publisherKeyFor m'.header) <;> rfl

end Instance

end Mal
