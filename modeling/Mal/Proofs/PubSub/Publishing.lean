import Mal.Proofs.Dispatch.Chains
import Mal.Proofs.PubSub.Conversation

/-!
# What comes of a publish

A publish is not acknowledged. If the broker accepts it, notifies are sent for the subscriptions
that ask for any of its updates; each of them is delivered to the subscriber's instance, which tells
the listener that it is routed to and changes nothing (`Scene.deliver_notify`). So the notifies may
be delivered in any order (`Scene.deliver_notifies`). If the broker refuses the publish, an error is
sent to the publisher's instance, which tells the publisher's listener and takes its route down.

## Key results

- `Scene.settle_published`: a publish that the broker accepts
- `Scene.settle_refused`: a publish that the broker refuses
-/

namespace Mal.PubSub

/-- What the listener of a subscription is told of a notify, where notifies are routed like this. -/
def notice? (route : String → Option String) (m : Message) : Option Notice :=
  match m.body with
  | .notify n => (route n.subscriptionId).map fun listener => ⟨listener, .notify, .message m⟩
  | _ => none

/-- The messages in the places after a list, looked up there. -/
private theorem filterMap_places {α β : Type} (f : α → Option β) (l l' : List α) :
    (List.range' l.length l'.length).filterMap (fun place => (l ++ l')[place]?.bind f) =
      l'.filterMap f := by
  induction l' generalizing l with
  | nil => rfl
  | cons a rest ih =>
    -- the first message moves over to those before
    have hrest := ih (l ++ [a])
    rw [List.append_assoc, List.length_append] at hrest
    rw [List.length_cons, List.range'_succ, List.filterMap_cons, List.filterMap_cons,
      List.getElem?_append_right (Nat.le_refl _), Nat.sub_self]
    simp only [List.length_cons, List.length_nil, List.singleton_append, Nat.zero_add] at hrest
    rw [hrest]
    rfl

namespace Scene

variable {sc : Scene} {n : Network} {place : Nat}

/-- Where notifies for the subscriber are routed to. -/
def route (sc : Scene) (n : Network) (id : String) : Option String :=
  (n.nodes (sc.name sc.subscriber)).inst.routing.notify? sc.subscriber.addressing.endpoint.uri id

/-- The message is a notify for the subscriber. -/
structure Notifies (sc : Scene) (m : Message) : Prop where
  receiver : m.header.uriTo = sc.subscriber.addressing.endpoint.uri
  intake : m.header.intake = .notify
  plain : m.header.isError = false
  body : ∃ n, m.body = .notify n

private theorem subscriber_mem : sc.subscriber ∈ sc.consumers := .head _

theorem publisher_mem : sc.publisher ∈ sc.consumers := .tail _ (.head _)

/-- A notify that is delivered is told, and changes nothing else. -/
theorem deliver_notify (hopen : sc.Open n) {m : Message} (hsent : n.sent[place]? = some m)
    (hm : sc.Notifies m) :
    sc.deliver n place = n.withSite (n.site.tell (notice? (sc.route n) m)) := by
  obtain ⟨notification, hbody⟩ := hm.body
  rw [deliver_eq_withSite hsent (congrArg sc.home hm.receiver) (Instance.receive_notify
    (hopen.passes_name subscriber_mem m) hm.intake hm.plain hbody), hm.receiver, notice?, hbody]
  rfl

/-- Notifies that are delivered, one after another and in any order, are told in this order. -/
theorem deliver_notifies (hopen : sc.Open n) (places : List Nat)
    (hnotifies : ∀ place ∈ places, ∃ m, n.sent[place]? = some m ∧ sc.Notifies m) :
    ∃ s, places.foldl sc.deliver n = n.withSite s ∧
      n.site.Passes s []
        (places.filterMap fun place => n.sent[place]?.bind (notice? (sc.route n))) ∧
      s.memory sc.broker = n.site.memory sc.broker := by
  induction places generalizing n with
  | nil => exact ⟨n.site, rfl, .refl _, rfl⟩
  | cons place rest ih =>
    -- a delivery sends nothing, so the others are still in their places
    obtain ⟨m, hsent, hm⟩ := hnotifies place (.head _)
    have htold := Site.Passes.tell n.site (notice? (sc.route n) m)
    let next := n.withSite (n.site.tell (notice? (sc.route n) m))
    have hnext : next.sent = n.sent := htold.sends.map_sent.trans (List.append_nil _)
    obtain ⟨s, hrest, hpasses, hmemory⟩ := ih (hopen.withSite htold.takes) fun p hp => by
      rw [hnext]
      exact hnotifies p (.tail _ hp)
    refine ⟨s, ?_, ?_, ?_⟩
    · rw [List.foldl_cons, deliver_notify hopen hsent hm]
      exact hrest
    · have hall := htold.trans hpasses
      rw [hnext] at hall
      simp only [List.filterMap_cons, hsent, Option.bind_some]
      -- the notify goes to a listener or to nobody
      cases hnotice : notice? (sc.route n) m with
      | none =>
        rw [hnotice] at hall
        exact hall
      | some x =>
        rw [hnotice] at hall
        exact hall
    · exact hmemory.trans (Site.memory_tell ..)

/-- The notifies of a subscription that the subscriber registered are for the subscriber. -/
theorem notifies_of_notify? {now : UInt64} {updates : List Update} {r : Header × Subscription}
    {m : Message} (hnotify : Distributor.notify? now updates r = some m)
    (hfrom : r.1.uriFrom = sc.subscriber.addressing.endpoint.uri)
    (hpattern : r.1.pattern = .pubSub) : sc.Notifies m := by
  have hintake := Distributor.intake_of_notify? hpattern hnotify
  simp only [Distributor.notify?] at hnotify
  -- a notify is made where some update is wanted
  cases hwanted : updates.filter fun u => Distributor.wants r.2 u.header.key with
  | nil =>
    rw [hwanted] at hnotify
    cases hnotify
  | cons u rest =>
    rw [hwanted] at hnotify
    obtain rfl := Option.some.inj hnotify
    exact ⟨hfrom, hintake, rfl, _, rfl⟩

variable {c : Consumer} {q : Message} {updates : List Update} {id : TransactionId}

/-- A publish that the broker accepts: the notifies are sent and told, in some order. -/
theorem settle_published (hopen : sc.Open n)
    (h : sc.Asks n.sent place c q (.publish updates) id)
    (hregistered : q.header.uriFrom ∈ (n.site.memory sc.broker).publishers)
    (hheaders : ∀ r ∈ (n.site.memory sc.broker).subscriptions,
      r.1.uriFrom = sc.subscriber.addressing.endpoint.uri ∧ r.1.pattern = .pubSub)
    (courier : Courier) :
    let notifies := (n.site.memory sc.broker).subscriptions.filterMap
      (Distributor.notify? n.site.now updates)
    ∃ s told, sc.settle n place courier = n.withSite s ∧ n.site.Passes s notifies told ∧
      told.Perm (notifies.filterMap (notice? (sc.route n))) ∧
      s.memory sc.broker = n.site.memory sc.broker := by
  intro notifies
  -- the broker accepts, and sends the notifies
  obtain ⟨asked, hanswer, hasked, hmemory⟩ :=
    Distributor.ask_publish updates hregistered (hopen.takes _ hub_mem)
  have hdeliver : sc.deliver n place = n.withSite asked := by
    refine deliver_eq_withSite h.last (by rw [h.receiver]) ?_
    exact Instance.receive_published (hopen.passes hub_mem q) h.intake (h.receiver ▸ hopen.bound)
      h.request hanswer rfl
  -- the notifies are in the places after the publish
  have hsent : (n.withSite asked).sent = n.sent ++ notifies := hasked.sends.map_sent
  -- the courier delivers these places, in an order of its own
  let places := List.range' n.sent.length notifies.length
  have hplaces : List.range' (place + 1) ((n.withSite asked).sent.length - (place + 1)) =
      places := by
    rw [hsent, List.length_append, h.length, Nat.add_sub_cancel_left, ← h.length]
  have hnotifies : ∀ p ∈ courier.order places, ∃ m, (n.withSite asked).sent[p]? = some m ∧
      sc.Notifies m := by
    intro p hp
    obtain ⟨hle, hlt⟩ := List.mem_range'_1.1 ((courier.perm places).mem_iff.1 hp)
    have hlt' : p - n.sent.length < notifies.length := by omega
    obtain ⟨r, hr, hnotify⟩ := List.mem_filterMap.1 (List.getElem_mem hlt')
    refine ⟨notifies[p - n.sent.length], ?_, notifies_of_notify? hnotify (hheaders r hr).1
      (hheaders r hr).2⟩
    rw [hsent, List.getElem?_append_right hle, List.getElem?_eq_getElem hlt']
  obtain ⟨s, hdelivered, hpasses, hmemory'⟩ :=
    deliver_notifies (hopen.withSite hasked.takes) (courier.order places) hnotifies
  have hall := hasked.trans hpasses
  rw [List.append_nil, List.nil_append] at hall
  -- all in all: the publish and the notifies were sent, and the notifies were told
  refine ⟨s, _, settle_eq h.length hdeliver ?_ ?_, hall, ?_, hmemory'.trans hmemory⟩
  · rw [hplaces]
    exact hdelivered
  · exact hpasses.sends.map_sent.trans (List.append_nil _)
  · rw [← filterMap_places (notice? (sc.route n)) n.sent notifies, hsent]
    exact (courier.perm places).filterMap _

/-- A publish that the broker refuses: an error is sent to the publisher, its listener is told, if
    it has one, and has no route any more. -/
theorem settle_refused (hopen : sc.Open n)
    (h : sc.Asks n.sent place sc.publisher q (.publish updates) id)
    (hreturn : q.header.errorReplyStage = some Stage.publish)
    (hscope : q.header.scope = sc.publisher.addressing.scope)
    (hregistered : q.header.uriFrom ∉ (n.site.memory sc.broker).publishers) (courier : Courier) :
    let name := sc.name sc.publisher
    let x := n.nodes name
    let a := sc.publisher.addressing
    ∃ s m outcome r, sc.settle n place courier = n.put name (x.withRouting r) s ∧
      n.site.Passes s [m]
        ((x.inst.routing.publisher? (x.inst.routing.publisherKey a)).toList.map fun listener =>
          ⟨listener, .publishError, outcome⟩) ∧
      m.header.intake = .publishError ∧ r.publisher? (r.publisherKey a) = none ∧
      s.memory sc.broker = n.site.memory sc.broker := by
  intro name x a
  -- the broker refuses, and says so
  obtain ⟨failure, hconduct⟩ : ∃ failure, Distributor.conduct sc.hub n.site.now
      (n.site.memory sc.broker) q.header (.publish updates) =
        .finish (n.site.memory sc.broker) (.error failure) := ⟨_, if_neg hregistered⟩
  obtain ⟨asked, hanswer, hasked, hmemory⟩ := Distributor.ask_finish hconduct rfl
  let m := Message.ofError (q.header.reply asked.now Stage.publish true) failure.standardError
  have hsend := Site.Passes.send (hasked.takes _ (hopen.takes _ hub_mem)) m
  have hrejected : sc.deliver n place = n.withSite (asked.send sc.hub m).2 := by
    refine deliver_eq_withSite h.last (by rw [h.receiver]) ?_
    rw [h.entrance_eq, Instance.receive_rejected (hopen.passes hub_mem q) h.intake
      (h.receiver ▸ hopen.bound) h.request hanswer]
    simp only [Instance.returnFailure, hreturn]
    rfl
  obtain ⟨hsent, hsettle⟩ := settle_of_single h.length hrejected (hasked.trans hsend).sends courier
  -- the error comes in
  have hintake : m.header.intake = .publishError := by
    have hpattern : m.header.pattern = .pubSub := h.pattern
    simp only [Header.intake, hpattern]
    rfl
  -- the key of the error is that of the publisher's own registration
  have hkey : x.inst.routing.publisherKeyFor m.header = x.inst.routing.publisherKey a :=
    Prod.ext h.sender (congrArg (·.key x.inst.routing.separator) hscope)
  have hname : sc.home m.header.uriTo = name := congrArg sc.home h.sender
  have hreceive (via : EndpointRef) := @Instance.receive_publishError x.inst
    (asked.send sc.hub m).2 via m m (hopen.passes_name publisher_mem m) hintake
  rw [hkey] at hreceive
  -- whatever the publisher makes of the error, nothing more is sent
  have hsettled {r : Routing} {s : Site} {told : List Notice}
      (hpasses : (asked.send sc.hub m).2.Passes s [] told)
      (hreceived : ∀ via, x.inst.receive (asked.send sc.hub m).2 via m =
        ((x.withRouting r).inst, s)) :
      sc.settle n place courier = n.put name (x.withRouting r) s := by
    refine hsettle _ ?_ (hpasses.sends.map_sent.trans (List.append_nil _))
    rw [deliver_eq hsent hname (hreceived _)]
    rfl
  cases hlistener : x.inst.routing.publisher? (x.inst.routing.publisherKey a) with
  -- there is no listener, so the error is told nobody
  | none =>
    rw [hlistener] at hreceive
    exact ⟨_, m, .message m, x.inst.routing, hsettled (.refl _) hreceive, hasked.trans hsend,
      hintake, hlistener, hmemory⟩
  | some listener =>
    -- the listener is told, and its route is taken down
    rw [hlistener] at hreceive
    refine ⟨_, m, _, _, hsettled (.tell _ _) hreceive, (hasked.trans hsend).trans (.tell _ _),
      hintake, ?_, (Site.memory_tell ..).trans hmemory⟩
    exact (Routing.publisher?_removePublisher ..).trans (if_pos rfl)

end Scene

end Mal.PubSub
