import Mal.Proofs.PubSub.Publishing

/-!
# What is subscribed is delivered

Three places have to be kept in step, and only messages do it: what the broker remembers, the notify
routes of the subscriber, and the route of the publisher. Each of them goes its own way: the routes
are changed before a request is sent, the memory when it comes in, and the route of a publisher once
more when a publish is rejected. After each call they are in step again (`Scene.Agrees`), and what
they then come to is the ledger of the calls so far.

So a publish that the broker accepts brings the listener of each subscription what the ledger says
is due to it, by one callback, and nobody is told anything else. A publish that the broker does not
accept brings no notify; the publisher's listener is told so, by one callback, and has no route any
more.

## Key results

- `Scene.Agrees.perform`, `Scene.Agrees.run`: memory and routes stay in step with the ledger
- `Scene.Agrees.publish_accepted`, `Scene.Agrees.publish_refused`: what comes of a publish
- `Scene.delivers_subscribed`: what comes of a publish after any calls
-/

namespace Mal

/-- What a listener of a subscription is told, if the notice is of a notify. -/
def Notice.delivered? (x : Notice) : Option (String × Notification) :=
  match x.callback, x.outcome with
  | .notify, .message m =>
    match m.body with
    | .notify n => some (x.listener, n)
    | _ => none
  | _, _ => none

namespace PubSub

/-- There is one order of at most one thing. -/
private theorem eq_of_perm {α : Type} {xs ys : List α} (hys : ys.length ≤ 1) (hperm : xs.Perm ys) :
    xs = ys := by
  match ys with
  | [] => exact List.perm_nil.1 hperm
  | [y] => exact List.perm_singleton.1 hperm

namespace Ledger

/-- Each subscription is due one notification, or none. -/
private theorem length_due (l : Ledger) (updates : List Update) (id : String) :
    (l.due updates id).length ≤ 1 := by
  unfold due
  split
  · exact Nat.zero_le 1
  · split
    · exact Nat.zero_le 1
    · exact Nat.le_refl 1

end Ledger

namespace Scene

variable {sc : Scene} {n : Network} {l : Ledger}

/-- The listener of the publisher. -/
def listener? (sc : Scene) (n : Network) : Option String :=
  let r := (n.nodes (sc.name sc.publisher)).inst.routing
  r.publisher? (r.publisherKey sc.publisher.addressing)

/-- The broker's memory and the routes of the subscriber and the publisher are what the ledger says,
    and the scene is ready for the next call. -/
structure Agrees (sc : Scene) (n : Network) (l : Ledger) : Prop extends sc.Ready n where
  remembers : Remembers sc.subscriber.addressing.endpoint.uri sc.publisher.addressing.endpoint.uri
    (n.site.memory sc.broker) l
  routed (id : String) : sc.route n id = (l.subscriptions id).map Prod.snd
  listener : sc.listener? n = l.listener

/-! ## Routes -/

variable {x : Node} {s : Site}

private theorem route_put_subscriber (id : String) :
    sc.route (n.put (sc.name sc.subscriber) x s) id =
      x.inst.routing.notify? sc.subscriber.addressing.endpoint.uri id := by
  rw [route, Network.put_nodes_self]

private theorem route_put_publisher (id : String) :
    sc.route (n.put (sc.name sc.publisher) x s) id = sc.route n id := by
  rw [route, Network.put_nodes_of_ne n x s name_ne, route]

private theorem listener?_put_publisher :
    sc.listener? (n.put (sc.name sc.publisher) x s) =
      x.inst.routing.publisher? (x.inst.routing.publisherKey sc.publisher.addressing) := by
  rw [listener?, Network.put_nodes_self]

private theorem listener?_put_subscriber :
    sc.listener? (n.put (sc.name sc.subscriber) x s) = sc.listener? n := by
  rw [listener?, Network.put_nodes_of_ne n x s name_ne.symm, listener?]

/-! ## Demands that are acknowledged -/

variable {a : Action} {d : Demand} {request : BrokerRequest} {stage : Stage}

/-- The broker makes of a request what the ledger makes of the action. -/
private theorem conduct_accepts (hd : a.demand? = some d) (hrequest : d.request? = some request)
    (hstage : request.ackStage? = some stage) {memory : BrokerMemory}
    (h : Remembers sc.subscriber.addressing.endpoint.uri sc.publisher.addressing.endpoint.uri
      memory l) (now : UInt64) {header : Header}
    (hfrom : header.uriFrom = (sc.consumer d).addressing.endpoint.uri)
    (hpattern : header.pattern = .pubSub) :
    ∃ memory', Distributor.Accepts sc.hub now memory header request stage memory' ∧
      Remembers sc.subscriber.addressing.endpoint.uri sc.publisher.addressing.endpoint.uri
        memory' (l.record a) := by
  -- action by action, the broker takes the step of the ledger
  cases a with
  | register s listener =>
    cases hd
    cases hrequest
    exact ⟨_, ⟨hstage, rfl, rfl⟩, h.register hfrom hpattern s listener⟩
  | deregister ids =>
    cases hd
    cases hrequest
    exact ⟨_, ⟨hstage, rfl, rfl⟩, h.deregister hfrom ids⟩
  | publishRegister keys listener =>
    cases hd
    cases hrequest
    exact ⟨_, ⟨hstage, rfl, rfl⟩, h.publishRegister hfrom keys listener⟩
  | publishDeregister =>
    cases hd
    cases hrequest
    exact ⟨_, ⟨hstage, rfl, rfl⟩, h.publishDeregister hfrom⟩
  | publish =>
    -- a publish is not acknowledged
    cases hd
    cases hrequest
    cases hstage
  | revoke => cases hd

/-- The consumer makes of its routes what the ledger makes of the action. -/
private theorem Agrees.prepare (h : sc.Agrees n l) (hd : a.demand? = some d)
    (hanswered : d.isAnswered = true) (desk : Desk) (s : Site) :
    let c := sc.consumer d
    let x := n.nodes (sc.name c)
    let next := n.put (sc.name c)
      ((x.withRouting (d.prepare c.addressing x.inst.routing)).withDesk desk) s
    (∀ id, sc.route next id = ((l.record a).subscriptions id).map Prod.snd) ∧
      sc.listener? next = (l.record a).listener := by
  let uri := sc.subscriber.addressing.endpoint.uri
  let r := (n.nodes (sc.name sc.subscriber)).inst.routing
  have hrouted (id : String) : r.notify? uri id = (l.subscriptions id).map Prod.snd := h.routed id
  -- a subscriber's action leaves the publisher's listener alone, and the other way round
  cases a with
  | register subscription listener =>
    cases hd
    refine ⟨fun id => ?_, listener?_put_subscriber.trans h.listener⟩
    refine (route_put_subscriber id).trans
      ((Routing.notify?_addNotify r uri subscription.id listener uri id).trans ?_)
    -- the new route is the one under the id, and the others stay
    by_cases hid : subscription.id = id
    · simp [Ledger.record, hid]
    · simp [Ledger.record, hid, hrouted]
  | deregister ids =>
    cases hd
    refine ⟨fun id => ?_, listener?_put_subscriber.trans h.listener⟩
    refine (route_put_subscriber id).trans
      ((Routing.notify?_removeNotify r uri ids uri id).trans ?_)
    -- the routes under these ids are gone, and the others stay
    by_cases hid : id ∈ ids
    · simp [Ledger.record, hid]
    · simp [Ledger.record, hid, hrouted]
  | publishRegister keys listener =>
    cases hd
    refine ⟨fun id => (route_put_publisher id).trans (hrouted id), ?_⟩
    exact listener?_put_publisher.trans ((Routing.publisher?_addPublisher ..).trans (if_pos rfl))
  | publishDeregister =>
    cases hd
    refine ⟨fun id => (route_put_publisher id).trans (hrouted id), ?_⟩
    exact listener?_put_publisher.trans
      ((Routing.publisher?_removePublisher ..).trans (if_pos rfl))
  -- a publish is not acknowledged, and a revocation is asked for by nobody
  | publish => cases hd; cases hanswered
  | revoke => cases hd

/-- A demand that is acknowledged does what the ledger says. -/
private theorem Agrees.converse (h : sc.Agrees n l) (hd : a.demand? = some d)
    (hrequest : d.request? = some request) (hstage : request.ackStage? = some stage)
    (hanswered : d.isAnswered = true) (reporter : Option String) (courier : Courier) :
    sc.Agrees (sc.converse n d reporter courier) (l.record a) := by
  obtain ⟨desk, s, ms, told, hidle, hpasses, hremembers, hconverse⟩ :=
    h.converse_accepted hrequest hstage
      (fun now header => conduct_accepts (l := l) hd hrequest hstage h.remembers now)
      reporter courier
  obtain ⟨hrouted, hlistener⟩ := h.prepare hd hanswered desk s
  rw [hconverse]
  exact
    { toReady := h.put (consumer_mem d) rfl hidle hpasses.takes
      remembers := hremembers
      routed := hrouted
      listener := hlistener }

/-! ## Publishes -/

variable {updates : List Update}

/-- A publish that is under way leaves everything as it is. -/
private theorem Agrees.started (h : sc.Agrees n l) (updates : List Update) (id : TransactionId)
    {k : Correlator} (hidle : k.Idle) : sc.Agrees (sc.started n (.publish updates) id k) l where
  toReady := h.put publisher_mem rfl hidle (h.started_passes (.publish updates) id k).takes
  remembers := h.remembers
  routed id := (route_put_publisher id).trans (h.routed id)
  listener := listener?_put_publisher.trans h.listener

/-- Listeners may be told something. -/
private theorem Agrees.withSite (h : sc.Agrees n l) {ms : List Message} {told : List Notice}
    (hpasses : n.site.Passes s ms told) (hmemory : s.memory sc.broker = n.site.memory sc.broker) :
    sc.Agrees (n.withSite s) l where
  toOpen := h.toOpen.withSite hpasses.takes
  idle := h.idle
  remembers := by
    have hremembers := h.remembers
    rw [← hmemory] at hremembers
    exact hremembers
  routed := h.routed
  listener := h.listener

/-- A publish is not waited for. -/
private theorem Agrees.converse_publish (h : sc.Agrees n l) (updates : List Update)
    (reporter : Option String) (courier : Courier) :
    ∃ id k, k.Idle ∧ sc.converse n (.publish updates) reporter courier =
      sc.settle (sc.started n (.publish updates) id k) n.sent.length courier := by
  have hinitial : ReplyState.initial .pubSub (some Stage.publish) = .ok none := rfl
  obtain ⟨id, k, hidle, hconverse⟩ :=
    h.converse_eq (d := .publish updates) hinitial reporter courier
  exact ⟨id, k, hidle, hconverse.trans (if_neg fun hanswered => nomatch hanswered.1)⟩

/-- What is told of notifies for the subscriber is delivered. -/
private theorem isSome_delivered? {route : String → Option String} {m : Message} {x : Notice}
    (hm : sc.Notifies m) (hx : notice? route m = some x) :
    x.delivered?.isSome = true ∧
      x.outcome.header.uriTo = sc.subscriber.addressing.endpoint.uri := by
  obtain ⟨notification, hbody⟩ := hm.body
  simp only [notice?, hbody] at hx
  obtain ⟨listener, -, rfl⟩ := Option.map_eq_some_iff.1 hx
  refine ⟨?_, hm.receiver⟩
  simp only [Notice.delivered?, hbody, Option.isSome_some]

/-- What is delivered is what is passed on. -/
private theorem delivered?_notice? (route : String → Option String) (m : Message) :
    (notice? route m).bind Notice.delivered? = passed route m := by
  unfold notice? passed
  cases hbody : m.body with
  -- the notice is told if there is a route, and then to its listener
  | notify n =>
    simp only
    cases route n.subscriptionId <;> simp [Notice.delivered?, hbody]
  | _ => rfl

/-- A publish that the broker accepts delivers what is due, and nothing else. -/
theorem Agrees.publish_accepted (h : sc.Agrees n l) (haccepted : l.accepted = true)
    (updates : List Update) (reporter : Option String) (courier : Courier) :
    let after := sc.converse n (.publish updates) reporter courier
    ∃ ms told, sc.Agrees after (l.record (.publish updates)) ∧
      n.site.Passes after.site ms told ∧
      (∀ x ∈ told, x.delivered?.isSome = true ∧
        x.outcome.header.uriTo = sc.subscriber.addressing.endpoint.uri) ∧
      ∀ id, (told.filterMap Notice.delivered?).filter (·.2.subscriptionId = id) =
        l.due updates id := by
  intro after
  obtain ⟨id, k, hidle, hconverse⟩ := h.converse_publish updates reporter courier
  have hstarted := h.started updates id hidle
  have hsent := h.started_passes (.publish updates) id k
  have hasks := h.started_asks (d := .publish updates) rfl id k
  -- the broker's memory says that the publisher is registered
  obtain ⟨s, told, hsettle, hpasses, hperm, hmemory⟩ := settle_published hstarted.toOpen hasks
    (by rw [hasks.sender]; exact hstarted.remembers.accepted.2 haccepted)
    hstarted.remembers.headers courier
  have hafter : after = (sc.started n (.publish updates) id k).withSite s :=
    hconverse.trans hsettle
  have hrecord : l.record (.publish updates) = l := if_pos haccepted
  rw [hafter, hrecord]
  refine ⟨_, told, hstarted.withSite hpasses hmemory, hsent.trans hpasses, ?_, ?_⟩
  · -- what is told is told of a notify, and this of a subscription of the subscriber
    intro x hx
    obtain ⟨m, hm, hnotice⟩ := List.mem_filterMap.1 (hperm.mem_iff.1 hx)
    obtain ⟨r, hr, hnotify⟩ := List.mem_filterMap.1 hm
    obtain ⟨hfrom, hpattern⟩ := hstarted.remembers.headers r hr
    exact isSome_delivered? (notifies_of_notify? hnotify hfrom hpattern) hnotice
  · -- what is due under an id is one thing at most, so the order of deliveries does not show
    intro id'
    have hdue := hstarted.remembers.due hstarted.routed updates
      (sc.started n (.publish updates) id k).site.now id'
    have hpassed := (hperm.filterMap Notice.delivered?).filter (·.2.subscriptionId = id')
    rw [List.filterMap_filterMap] at hpassed
    simp only [delivered?_notice?] at hpassed
    rw [hdue] at hpassed
    exact eq_of_perm (l.length_due updates id') hpassed

/-- A publish that the broker refuses: there is no notify, the listener of the publisher is told by
    one callback, if there is one, and is no listener any more. -/
theorem Agrees.publish_refused (h : sc.Agrees n l) (hrefused : l.accepted = false)
    (updates : List Update) (reporter : Option String) (courier : Courier) :
    let after := sc.converse n (.publish updates) reporter courier
    ∃ ms outcome, sc.Agrees after (l.record (.publish updates)) ∧
      n.site.Passes after.site ms
        (l.listener.toList.map fun listener => ⟨listener, .publishError, outcome⟩) ∧
      ∀ m ∈ ms, m.header.intake ≠ .notify := by
  intro after
  obtain ⟨id, k, hidle, hconverse⟩ := h.converse_publish updates reporter courier
  have hstarted := h.started updates id hidle
  have hsent := h.started_passes (.publish updates) id k
  have hasks := h.started_asks (d := .publish updates) rfl id k
  -- the broker's memory says that it is not
  have hregistered : sc.publisher.addressing.endpoint.uri ∉
      ((sc.started n (.publish updates) id k).site.memory sc.broker).publishers := by
    rw [hstarted.remembers.accepted, hrefused]
    exact Bool.noConfusion
  obtain ⟨s, m, outcome, r, hsettle, hpasses, hintake, hnone, hmemory⟩ :=
    settle_refused hstarted.toOpen hasks rfl rfl (by rw [hasks.sender]; exact hregistered) courier
  have hafter : after = (sc.started n (.publish updates) id k).put (sc.name sc.publisher) _ s :=
    hconverse.trans hsettle
  have hlistener := hstarted.listener
  rw [listener?] at hlistener
  rw [hlistener] at hpasses
  have hrecord : l.record (.publish updates) = { l with listener := none } :=
    if_neg (by rw [hrefused]; exact Bool.noConfusion)
  -- the memory of the broker stays as it is
  have hremembers := hstarted.remembers.publish updates
  rw [← hmemory] at hremembers
  rw [hafter]
  refine ⟨_, outcome, ?_, hsent.trans hpasses, ?_⟩
  · exact
      { toReady := hstarted.put publisher_mem rfl (hstarted.idle _ publisher_mem) hpasses.takes
        remembers := hremembers
        routed := fun id => by
          rw [route_put_publisher, hstarted.routed, hrecord]
        listener := by
          rw [listener?_put_publisher, hrecord]
          exact hnone }
  · -- the publish and its rejection are all that is sent
    intro m' hm
    rw [List.singleton_append, List.mem_cons, List.mem_singleton] at hm
    rcases hm with rfl | rfl
    · exact Intake.noConfusion
    · rw [hintake]
      exact Intake.noConfusion

/-! ## Calls -/

/-- Time goes on. -/
private theorem passes_pass (sc : Scene) (n : Network) (now : UInt64) :
    n.site.Passes (n.step sc.home
      (.pass now n.site.transport.endpoints n.site.memories)).site [] [] where
  sends := .of_sent_eq rfl
  events := ⟨[], (List.append_nil _).symm, rfl⟩
  takes _ h := h

private theorem Agrees.pass (h : sc.Agrees n l) (now : UInt64) :
    sc.Agrees (n.step sc.home (.pass now n.site.transport.endpoints n.site.memories)) l :=
  h.withSite (passes_pass sc n now) rfl

/-- The broker takes a right away, and tells nobody. -/
private theorem Agrees.revoke (h : sc.Agrees n l) (now : UInt64) :
    sc.Agrees (n.step sc.home (.pass now n.site.transport.endpoints (n.site.memories.put sc.slot
      (Distributor.revoke sc.publisher.addressing.endpoint.uri (n.site.memory sc.broker)))))
      (l.record .revoke) where
  toOpen := h.toOpen.withSite fun _ htakes => htakes
  idle := h.idle
  remembers := by
    have hremembers := h.remembers.revoke
    generalize Distributor.revoke _ (n.site.memory sc.broker) = memory at hremembers ⊢
    have hmemory : ((n.site.memories.put sc.slot memory).get? sc.slot).getD {} = memory := by
      rw [Directory.get?_put_self]
      rfl
    rw [← hmemory] at hremembers
    exact hremembers
  routed := h.routed
  listener := h.listener

/-- A call does what the ledger says. -/
theorem Agrees.perform (h : sc.Agrees n l) (c : Call) :
    sc.Agrees (sc.perform n c) (l.record c.action) := by
  have hpassed := h.pass c.now
  unfold Scene.perform
  generalize haction : c.action = a
  cases a with
  -- what is acknowledged is done in one way
  | register subscription listener => exact hpassed.converse rfl rfl rfl rfl c.reporter c.courier
  | deregister ids => exact hpassed.converse rfl rfl rfl rfl c.reporter c.courier
  | publishRegister keys listener => exact hpassed.converse rfl rfl rfl rfl c.reporter c.courier
  | publishDeregister => exact hpassed.converse rfl rfl rfl rfl c.reporter c.courier
  | publish updates =>
    -- what comes of a publish depends on the publisher's right
    cases haccepted : l.accepted with
    | true =>
      obtain ⟨_, _, hagrees, -⟩ :=
        hpassed.publish_accepted haccepted updates c.reporter c.courier
      exact hagrees
    | false =>
      obtain ⟨_, _, hagrees, -⟩ := hpassed.publish_refused haccepted updates c.reporter c.courier
      exact hagrees
  | revoke => exact h.revoke c.now

/-- So do several. -/
theorem Agrees.run (h : sc.Agrees n l) (calls : List Call) :
    sc.Agrees (sc.run n calls) (l.after (calls.map Call.action)) := by
  induction calls generalizing n l with
  | nil => exact h
  | cons c rest ih => exact ih (h.perform c)

/-- The scene is ready, and nothing has been asked of the broker yet. -/
structure Fresh (sc : Scene) (n : Network) : Prop extends sc.Ready n where
  memory : n.site.memory sc.broker = {}
  routed (id : String) : sc.route n id = none
  listener : sc.listener? n = none

/-- A fresh scene agrees with an empty ledger. -/
private theorem Fresh.agrees (h : sc.Fresh n) : sc.Agrees n {} where
  toReady := h.toReady
  remembers := by
    rw [h.memory]
    exact .empty
  routed := h.routed
  listener := h.listener

/-- What a publish comes to, whatever calls were made before it. If the broker accepts it, then what
    the listeners of all instances are told are notifies to the subscriber, and for each
    subscription id its listener is told what is due to it, and once. Otherwise no notify is sent,
    what listeners are told is one error to the publisher's listener, if it has one, and after that
    it has none. -/
theorem delivers_subscribed (sc : Scene) {n : Network} (hfresh : sc.Fresh n) (calls : List Call)
    {c : Call} {updates : List Update} (hpublish : c.action = .publish updates) :
    let before := sc.run n calls
    let after := sc.perform before c
    let ledger := Ledger.after {} (calls.map Call.action)
    let told := after.site.noticesSince before.site
    if ledger.accepted then
      (∀ x ∈ told, x.delivered?.isSome = true ∧
          x.outcome.header.uriTo = sc.subscriber.addressing.endpoint.uri) ∧
        ∀ id, (told.filterMap Notice.delivered?).filter (·.2.subscriptionId = id) =
          ledger.due updates id
    else
      (∀ m ∈ after.site.sentSince before.site, m.header.intake ≠ .notify) ∧
        (∃ outcome, told = ledger.listener.toList.map fun listener =>
          ⟨listener, .publishError, outcome⟩) ∧
        sc.listener? after = none := by
  intro before after ledger told
  have hbefore : sc.Agrees before ledger := hfresh.agrees.run calls
  -- the publish begins when its time has come
  have hafter : after = sc.converse (before.step sc.home
      (.pass c.now before.site.transport.endpoints before.site.memories)) (.publish updates)
      c.reporter c.courier := by
    simp only [after, perform, hpublish, Action.demand?]
  have hpassed := passes_pass sc before c.now
  -- by whether the broker accepts
  split
  next haccepted =>
    obtain ⟨ms, told', -, hpasses, hdelivered, hdue⟩ :=
      (hbefore.pass c.now).publish_accepted haccepted updates c.reporter c.courier
    rw [← hafter] at hpasses
    obtain rfl : told = told' := (hpassed.trans hpasses).noticesSince_eq
    exact ⟨hdelivered, hdue⟩
  next hrefused =>
    have hfalse : ledger.accepted = false := Bool.eq_false_iff.2 hrefused
    obtain ⟨ms, outcome, hagrees, hpasses, hnone⟩ :=
      (hbefore.pass c.now).publish_refused hfalse updates c.reporter c.courier
    rw [← hafter] at hpasses hagrees
    have hall := hpassed.trans hpasses
    refine ⟨?_, ⟨outcome, hall.noticesSince_eq⟩, ?_⟩
    · rw [hall.sends.sentSince_eq]
      exact hnone
    · exact hagrees.listener.trans (congrArg Ledger.listener (if_neg hrefused))

/-- A subscription is registered once more under its id, with another listener and for other keys,
    and one that is registered besides is given up. Then a publish tells the listener that was given
    last what was asked for last. When the broker does not accept the publisher any more, a publish
    tells the publisher's listener that. -/
theorem delivers_subscribed_again :
    let sc : Scene :=
      { home := id
        subscriber := { addressing := { endpoint := ⟨0, "s"⟩, uriFrom := "s", uriTo := "b" } }
        publisher := { addressing := { endpoint := ⟨1, "p"⟩, uriFrom := "p", uriTo := "b" } }
        brokerName := "broker", slot := 0, hub := ⟨2, "b"⟩
        subscriber_reaches := ⟨rfl, rfl⟩, publisher_reaches := ⟨rfl, rfl⟩, apart := by decide }
    let i := Instance.create {} .system 0
    let n : Network :=
      { site := { now := 0, transport := { endpoints :=
          [{ name := "s", uri := "s" }, { name := "p", uri := "p" },
           { name := "b", uri := "b" }] } }
        nodes := fun name => { inst := if name = "b" then i.bindBroker "b" sc.broker else i } }
    let update (key : String) : Update :=
      { header := { timestamp := 0, sourceUri := "p", kind := .update, key := .named key }
        value := [] }
    let calls : List Call :=
      [{ action := .register { id := "1", entities := [.named "*"] } "first" },
       { action := .register { id := "1", entities := [.named "x"] } "second", reporter := "r" },
       { action := .register { id := "2", entities := [.named "*"] } "third" },
       { action := .deregister ["2", "3"] },
       { action := .publishRegister [] "publisher" }]
    let publish : Call :=
      { action := .publish [update "x", update "y", update "x"]
        courier := { order := List.reverse, perm := List.reverse_perm } }
    let told (calls : List Call) :=
      (sc.perform (sc.run n calls) publish).site.noticesSince (sc.run n calls).site
    sc.Fresh n ∧
      (∀ id, ((told calls).filterMap Notice.delivered?).filter (·.2.subscriptionId = id) =
        if id = "1" then [("second", ⟨"1", [update "x", update "x"]⟩)] else []) ∧
      ∃ outcome, told (calls ++ [{ action := .revoke }]) =
        [⟨"publisher", .publishError, outcome⟩] := by
  intro sc i n update calls publish told
  -- everything is in place, and nothing has been asked of the broker
  have hfresh : sc.Fresh n :=
    { bound := rfl
      unrestricted
        | _, .head _ | _, .tail _ (.head _) | _, .tail _ (.tail _ (.head _)) => rfl
      takes
        | _, .head _ | _, .tail _ (.head _) | _, .tail _ (.tail _ (.head _)) =>
          ⟨_, rfl, rfl, fun _ h => nomatch h⟩
      idle
        | _, .head _ | _, .tail _ (.head _) => .new ..
      memory := rfl
      routed := fun _ => rfl
      listener := rfl }
  refine ⟨hfresh, ?_, ?_⟩
  · have hdelivers := delivers_subscribed sc hfresh calls (c := publish) rfl
    -- the last right that was granted still stands
    have haccepted : (Ledger.after {} (calls.map Call.action)).accepted = true := rfl
    rw [if_pos haccepted] at hdelivers
    intro id
    rw [hdelivers.2 id]
    by_cases hid : id = "1"
    · rw [if_pos hid, hid]
      rfl
    · have hnone : (Ledger.after {} (calls.map Call.action)).subscriptions id = none := by
        simp only [calls, Ledger.after, Ledger.record, List.map_cons, List.map_nil,
          List.foldl_cons, List.foldl_nil, List.mem_cons, List.not_mem_nil, or_false,
          if_neg (Ne.symm hid), ite_eq_left_iff, not_or]
        rintro ⟨htwo, -⟩
        rw [if_neg (Ne.symm htwo)]
      rw [if_neg hid, Ledger.due, hnone]
  · let revoke : Call := { action := .revoke }
    have hdelivers := delivers_subscribed sc hfresh (calls ++ [revoke]) (c := publish) rfl
    have hrefused : (Ledger.after {} ((calls ++ [revoke]).map Call.action)).accepted ≠ true :=
      Bool.noConfusion
    rw [if_neg hrefused] at hdelivers
    exact hdelivers.2.1

end Scene

end PubSub

end Mal
