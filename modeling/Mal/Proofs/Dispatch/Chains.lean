import Mal.Broker.Distributor
import Mal.Proofs.Dispatch.Called
import Mal.Proofs.Network.Traffic

/-!
# Chains of messages

A message may make an instance send others, and these come in somewhere else. All of them are
replies, notifies and rejections of a publish (`Instance.Reacts.unanswered`), and no instance sends
anything when one of those comes in: it is given to no handler, and a failure is not returned to its
sender (`Instance.receive_unanswered`). So a chain of messages has two links at most.

Brokers may send by themselves. What is asked of them here is that they send notifies and nothing
else, at the site where they are asked. A distributor does (`Distributor.brokerNotifies`), because
it only remembers headers of register messages.

## Key results

- `Instance.Reacts.unanswered`: what an instance sends when a message comes in
- `Instance.receive_unanswered`: what comes in as a reply, a notify or a rejection is not answered
- `Instance.chain_ends`: the two together
-/

namespace Mal

/-! ## Messages that nobody answers -/

/-- A message with this header comes in as a reply, as a notify or as the rejection of a publish. -/
def Header.Unanswered (h : Header) : Prop :=
  h.intake = .reply ∨ h.intake = .notify ∨ h.intake = .publishError

/-- An error is returned about the start of an interaction. -/
private theorem Header.starts_of_errorReplyStage {h : Header} {stage : Stage}
    (hstage : h.errorReplyStage = some stage) : h.Starts := by
  unfold errorReplyStage at hstage
  split at hstage
  · cases hstage
  · -- by pattern and stage, as far as there is a stage to return the error at
    split at hstage <;> cases hstage
    all_goals simp_all [Starts, intake]

/-- The sender of such a message waits for nothing, so no failure is returned to it. -/
private theorem Header.Unanswered.errorReplyStage {h : Header} (hu : h.Unanswered) :
    h.errorReplyStage = none := by
  cases hstage : h.errorReplyStage with
  | none => rfl
  | some stage =>
    have hstarts := Header.starts_of_errorReplyStage hstage
    rcases hu with hintake | hintake | hintake <;>
      exact absurd hstarts (Header.not_starts hintake (by decide) (by decide))

/-- A broker, asked at this site, sends nothing but notifies by itself. -/
def Broker.NotifiesAt (b : Broker) (s : Site) : Prop :=
  ∀ h request e, h.intake = .broker →
    (b.conduct s.now (s.memory b) h request).Sends e → e.header.intake = .notify

namespace Instance

variable {i : Instance} {s : Site} {via : EndpointRef} {m e : Message}

/-- Whatever an instance sends when a message comes in, nobody answers. -/
theorem Reacts.unanswered (h : i.Reacts s m e)
    (hbrokers : ∀ uri b, i.bindings.broker? uri = some b → b.NotifiesAt s) :
    e.header.Unanswered := by
  cases h with
  -- a returned failure
  | failed _ hintake =>
    rcases hintake with hintake | hintake
    · exact .inl hintake
    · exact .inr (.inr hintake)
  | @forwarded m' b request _ hbroker hbound hsends =>
    -- what a broker sends by itself
    exact .inr (.inl (hbrokers _ b hbound m'.header request e hbroker hsends))
  -- an acknowledgement, and the replies of a provider
  | acknowledged _ _ hintake => exact .inl hintake
  | answered _ _ _ _ hreply => exact .inl hreply.intake

/-- Such a message is given to no handler, if the security check lets it pass as it is. -/
private theorem called_of_unanswered (hfaithful : i.security.Faithful) (hu : m.header.Unanswered) :
    i.called m = [] := by
  unfold called
  cases hsecurity : i.security m with
  | error failure => rfl
  | ok m' =>
    -- what the check lets pass is still on the same way
    have hintake : m'.header.intake = m.header.intake := (hfaithful m m' hsecurity).intake
    simp only [hintake]
    rcases hu with hu | hu | hu <;> rw [hu]

/-- Nothing is sent when such a message comes in, and nothing is even attempted to be sent. -/
theorem receive_unanswered (i : Instance) (hfaithful : i.security.Faithful) (s : Site)
    (via : EndpointRef) (hu : m.header.Unanswered) :
    (i.receive s via m).2.transport = s.transport :=
  receive_transport via (called_of_unanswered hfaithful hu) hu.errorReplyStage

/-- What was sent between two states of a site is what left it. -/
private theorem reacts_of_sentSince (h : e ∈ (i.receive s via m).2.sentSince s) :
    i.Reacts s m e := by
  obtain ⟨ms, hsends, hreacts⟩ := (i.receive_reception s via m).sent
  rw [hsends.sentSince_eq] at h
  exact hreacts e h

end Instance

/-! ## The distributing broker -/

namespace Distributor

variable {endpoint : EndpointRef} {now : UInt64} {memory : BrokerMemory}

/-- All subscriptions came in messages of PubSub. -/
def Subscribed (memory : BrokerMemory) : Prop :=
  ∀ r ∈ memory.subscriptions, r.1.pattern = .pubSub

/-- Nothing is sent but what is to be sent. -/
private theorem mem_of_sends_sendAll {ms : List Message} {e : Message}
    (h : (sendAll endpoint memory ms).Sends e) : e ∈ ms := by
  induction ms with
  | nil => cases h
  -- the message is the first to be sent, or one of those after it
  | cons m rest ih =>
    cases h with
    | here => exact .head _
    | later result h =>
      cases result with
      | ok _ => exact .tail _ (ih h)
      -- a failed send ends the sending
      | error failure => cases h

/-- Sending changes nothing of what is remembered. -/
private theorem run_sendAll_memory (ms : List Message) (s : Site) :
    ((sendAll endpoint memory ms).run s).2.1 = memory := by
  induction ms generalizing s with
  | nil => rfl
  | cons m rest ih =>
    simp only [sendAll, BrokerConduct.run]
    generalize s.send endpoint m = sent
    obtain ⟨result, s'⟩ := sent
    cases result with
    | ok _ => exact ih s'
    | error failure => rfl

/-- A notify for a subscription is taken in as one. -/
theorem intake_of_notify? {updates : List Update} {r : Header × Subscription} {e : Message}
    (hpattern : r.1.pattern = .pubSub) (h : notify? now updates r = some e) :
    e.header.intake = .notify := by
  simp only [notify?] at h
  split at h
  · cases h
  · cases h
    simp [Header.intake, Header.reply, hpattern]

/-- A distributor with such subscriptions sends notifies and nothing else. -/
private theorem intake_of_sends (hmemory : Subscribed memory) {h : Header} {request : BrokerRequest}
    {e : Message} (hsends : (conduct endpoint now memory h request).Sends e) :
    e.header.intake = .notify := by
  cases request with
  | publish updates =>
    simp only [conduct] at hsends
    -- only a publish makes the distributor send
    split at hsends
    · obtain ⟨r, hr, hnotify⟩ := List.mem_filterMap.1 (mem_of_sends_sendAll hsends)
      exact intake_of_notify? (hmemory r hr) hnotify
    · -- the publisher is not registered
      cases hsends
  | register | publishRegister | deregister | publishDeregister => cases hsends

/-- A request of PubSub leaves the distributor with such subscriptions. -/
private theorem Subscribed.run (hmemory : Subscribed memory) (endpoint : EndpointRef) (now : UInt64)
    {h : Header} (hpattern : h.pattern = .pubSub) (request : BrokerRequest) (s : Site) :
    Subscribed ((conduct endpoint now memory h request).run s).2.1 := by
  -- what is left of the subscriptions was remembered before
  have hwithout (uri : String) (ids : List String) :
      ∀ r ∈ without uri ids memory, r.1.pattern = .pubSub := by
    intro r hr
    exact hmemory r (List.mem_filter.1 hr).1
  cases request with
  | register subscription =>
    -- the new subscription came in this message
    intro r hr
    rcases List.mem_append.1 hr with hr | hr
    · exact hwithout _ _ r hr
    · obtain rfl := List.mem_singleton.1 hr
      exact hpattern
  | publish updates =>
    simp only [conduct]
    split
    · rw [run_sendAll_memory]
      exact hmemory
    · exact hmemory
  | deregister ids => exact hwithout _ _
  | publishRegister | publishDeregister => exact hmemory

/-- So a distributor only notifies at a site where it remembers such subscriptions, and it still
    does after it was asked. -/
theorem brokerNotifies (name : String) (slot : Nat) (endpoint : EndpointRef) {s : Site}
    (hmemory : Subscribed (s.memory (broker name slot endpoint))) :
    (broker name slot endpoint).NotifiesAt s ∧
      ∀ h request, h.intake = .broker →
        (broker name slot endpoint).NotifiesAt (s.ask (broker name slot endpoint) h request).2 := by
  have hnotifies {s : Site} (hmemory : Subscribed (s.memory (broker name slot endpoint))) :
      (broker name slot endpoint).NotifiesAt s :=
    fun _ _ _ _ hsends => intake_of_sends hmemory hsends
  refine ⟨hnotifies hmemory, fun h request hintake => hnotifies ?_⟩
  have hrun := hmemory.run endpoint s.now (Header.pattern_of_intake_broker hintake) request
    (s.note (.asked (broker name slot endpoint) h request))
  have hremembered : (s.ask (broker name slot endpoint) h request).2.memory
      (broker name slot endpoint) =
        ((conduct endpoint s.now (s.memory (broker name slot endpoint)) h request).run
          (s.note (.asked (broker name slot endpoint) h request))).2.1 := by
    -- what a request leaves is remembered under the slot of the broker
    simp only [Site.ask]
    split <;> simp [Site.memory, Site.note, broker]
  rw [hremembered]
  exact hrun

end Distributor

/-! ## The end of a chain -/

namespace Instance

variable {i : Instance} {s : Site} {via : EndpointRef} {m e : Message}

/-- Whatever an instance sends when a message comes in, if that comes in at any instance in any
    state, nothing more is sent. The check of that instance has to let messages pass as they are,
    as the one does that lets everything pass, and the one that goes by the authentication id. -/
theorem chain_ends (hbrokers : ∀ uri b, i.bindings.broker? uri = some b → b.NotifiesAt s)
    (he : e ∈ (i.receive s via m).2.sentSince s) (i' : Instance)
    (hfaithful : i'.security.Faithful) (s' : Site) (via' : EndpointRef) :
    (i'.receive s' via' e).2.transport = s'.transport :=
  i'.receive_unanswered hfaithful s' via' ((reacts_of_sentSince he).unanswered hbrokers)

/-- A publish makes a distributor notify its subscriber, whose instance sends nothing. -/
theorem chain_ends_notify :
    let b := Distributor.broker "b" 0 ⟨0, "b"⟩
    let i := (Instance.create {} .system 0).bindBroker "b" b
    let registered : Header :=
      { uriFrom := "c", uriTo := "b", pattern := .pubSub, stage := some Stage.register,
        timestamp := 0, transaction := some 1 }
    let memory : BrokerMemory :=
      { subscriptions := [(registered, ⟨"x", [.named "k"]⟩)], publishers := ["q"] }
    let s : Site :=
      { now := 0, transport := { endpoints := [{ name := "e", uri := "b" }] }
        memories := Directory.empty.put 0 memory }
    let m : Message :=
      { header := { registered with uriFrom := "q", stage := some Stage.publish }
        body := .updates [⟨⟨0, "q", .update, .named "k"⟩, []⟩] }
    let i' := Instance.create {} .system 0
    let s' : Site := { now := 0 }
    (∀ uri b, i.bindings.broker? uri = some b → b.NotifiesAt s) ∧ i'.security.Faithful ∧
      ∃ e, (i.receive s ⟨0, "b"⟩ m).2.sentSince s = [e] ∧
        e.header.mark = (Stage.notify, false) ∧
        (i'.receive s' ⟨1, "c"⟩ e).2.transport = s'.transport := by
  intro b i registered memory s m i' s'
  -- the only broker is the distributor, which remembers one subscription
  have hbrokers (uri : String) (b' : Broker) (hbound : i.bindings.broker? uri = some b') :
      b'.NotifiesAt s := by
    have hbroker : i.bindings.broker? uri = if "b" = uri then some b else none := by rfl
    rw [hbroker] at hbound
    split at hbound
    · cases hbound
      refine (Distributor.brokerNotifies "b" 0 ⟨0, "b"⟩ ?_).1
      intro r hr
      obtain rfl : r = (registered, ⟨"x", [.named "k"]⟩) := List.mem_singleton.1 hr
      rfl
    · cases hbound
  have hfaithful : i'.security.Faithful := Security.faithful_unrestricted
  refine ⟨hbrokers, hfaithful, _, rfl, rfl, ?_⟩
  exact @chain_ends i s ⟨0, "b"⟩ m _ hbrokers (.head _) i' hfaithful s' ⟨1, "c"⟩

end Instance

end Mal
