import Mal.Broker.Distributor
import Mal.Consumer.Demand
import Mathlib.Data.List.Basic

/-!
# What subscribers and publishers are entitled to

A subscriber and a publisher do one thing after another (`PubSub.Action`), and a `Ledger` keeps the
account of it: which subscriptions stand, each with the listener that was given last for it, whether
the broker accepts what the publisher publishes, and which listener the publisher has. What a
publish owes to a subscription is read off the ledger (`Ledger.due`).

Nothing here is about messages. The ledger is what messages have to bring about: the memory of a
distributing broker agrees with it (`Remembers`), and whatever a request changes in that memory, the
corresponding action changes in the ledger.

## Key results

- `Remembers.register`, `Remembers.deregister`, `Remembers.publishRegister`,
  `Remembers.publishDeregister`, `Remembers.revoke`: memory and ledger stay in agreement
- `Remembers.due`: for each subscription the broker sends what is due to it, once
-/

namespace Mal.PubSub

/-- What a subscriber or a publisher may do, and what the broker may do to the publisher. -/
inductive Action where
  | register (subscription : Subscription) (listener : String)
  | deregister (ids : List String)
  | publishRegister (keys : List EntityKey) (listener : String)
  | publish (updates : List Update)
  | publishDeregister
  /-- The broker takes the right to publish from the publisher, and tells nobody. -/
  | revoke

/-- What a consumer asks for in an action. -/
def Action.demand? : Action → Option Demand
  | register subscription listener => some (.register subscription listener)
  | deregister ids => some (.deregister ids)
  | publishRegister keys listener => some (.publishRegister keys listener)
  | publish updates => some (.publish updates)
  | publishDeregister => some .publishDeregister
  | revoke => none

/-- What the actions of a subscriber and a publisher have come to. -/
structure Ledger where
  /-- The subscription that stands under an id, as it was registered last, and the listener that was
      given then. -/
  subscriptions : String → Option (Subscription × String) := fun _ => none
  /-- Whether the broker accepts what the publisher publishes. -/
  accepted : Bool := false
  /-- The publisher's listener. -/
  listener : Option String := none

namespace Ledger

/-- Enters an action. A publish that is rejected takes the publisher's listener away. -/
def record (l : Ledger) : Action → Ledger
  | .register subscription listener =>
    { l with
      subscriptions := fun id =>
        if subscription.id = id then some (subscription, listener) else l.subscriptions id }
  | .deregister ids =>
    { l with subscriptions := fun id => if id ∈ ids then none else l.subscriptions id }
  | .publishRegister _ listener => { l with accepted := true, listener := some listener }
  | .publish _ => if l.accepted then l else { l with listener := none }
  | .publishDeregister => { l with accepted := false, listener := none }
  | .revoke => { l with accepted := false }

/-- The ledger after several actions. -/
def after (l : Ledger) (actions : List Action) : Ledger :=
  actions.foldl record l

/-- What a listener is due for the subscription under an id if updates are published: those of them
    that the subscription asks for, in one notification, or nothing if it asks for none of them. -/
def due (l : Ledger) (updates : List Update) (id : String) : List (String × Notification) :=
  match l.subscriptions id with
  | none => []
  | some (subscription, listener) =>
    match updates.filter fun u => Distributor.wants subscription u.header.key with
    | [] => []
    | wanted => [(listener, { subscriptionId := id, updates := wanted })]

/-- So of the updates exactly those are due that have the first sub-key of an entity of the
    subscription, or all of them if this is `*`. -/
theorem mem_updates_due {l : Ledger} {updates : List Update} {id : String}
    {x : String × Notification} (hx : x ∈ l.due updates id) (u : Update) :
    u ∈ x.2.updates ↔ u ∈ updates ∧ ∃ subscription, l.subscriptions id = some (subscription, x.1) ∧
      ∃ e ∈ subscription.entities, e.first = some "*" ∨ e.first = u.header.key.first := by
  unfold due at hx
  -- nothing is due without a subscription
  split at hx
  · cases hx
  · next subscription listener hid =>
    -- nor if no update is wanted
    split at hx
    · cases hx
    · obtain rfl := List.mem_singleton.1 hx
      simp only [List.mem_filter, Distributor.wants_iff, hid, Option.some.injEq, Prod.mk.injEq,
        and_true, exists_eq_left']

end Ledger

/-! ## The memory of the broker -/

/-- What the broker remembers of a subscriber and a publisher is what the ledger says, if nobody
    else asks anything of it. -/
structure Remembers (subscriber publisher : String) (memory : BrokerMemory) (l : Ledger) :
    Prop where
  headers : ∀ r ∈ memory.subscriptions, r.1.uriFrom = subscriber ∧ r.1.pattern = .pubSub
  /-- Under each id there is the one subscription that stands, or none. -/
  entry (id : String) : (memory.subscriptions.map Prod.snd).filter (·.id = id) =
    ((l.subscriptions id).map Prod.fst).toList
  publishers : memory.publishers.Nodup
  accepted : publisher ∈ memory.publishers ↔ l.accepted = true

namespace Remembers

variable {subscriber publisher : String} {memory : BrokerMemory} {l : Ledger}

theorem empty : Remembers subscriber publisher {} {} where
  headers r hr := by cases hr
  entry _ := rfl
  publishers := List.nodup_nil
  accepted := by simp

/-- All subscriptions are the subscriber's, so they are struck off by their ids alone. -/
private theorem without_eq (h : Remembers subscriber publisher memory l) (ids : List String) :
    Distributor.without subscriber ids memory =
      memory.subscriptions.filter fun r => r.2.id ∉ ids := by
  refine List.filter_congr fun r hr => ?_
  simp [(h.headers r hr).1]

/-- What is left under an id when some ids are struck off. -/
private theorem entry_without (h : Remembers subscriber publisher memory l) (ids : List String)
    (id : String) :
    ((Distributor.without subscriber ids memory).map Prod.snd).filter (·.id = id) =
      if id ∈ ids then [] else ((l.subscriptions id).map Prod.fst).toList := by
  rw [h.without_eq, ← h.entry id, List.filter_map, List.filter_map, List.filter_filter]
  split
  · -- the ids that are struck off leave nothing
    next hid =>
    rw [List.map_eq_nil_iff, List.filter_eq_nil_iff]
    rintro r - hr
    simp only [Function.comp_apply, Bool.and_eq_true, decide_eq_true_eq] at hr
    exact hr.2 (hr.1 ▸ hid)
  · next hid =>
    -- the others keep their entry
    refine congrArg _ (List.filter_congr fun r _ => ?_)
    by_cases hr : r.2.id = id <;> simp [hr, hid]

/-- A subscription replaces the one under its id. -/
theorem register (h : Remembers subscriber publisher memory l) {header : Header}
    (hfrom : header.uriFrom = subscriber) (hpattern : header.pattern = .pubSub)
    (s : Subscription) (listener : String) :
    Remembers subscriber publisher
      { memory with
        subscriptions := Distributor.without header.uriFrom [s.id] memory ++ [(header, s)] }
      (l.record (.register s listener)) where
  headers r hr := by
    rcases List.mem_append.1 hr with hr | hr
    · exact h.headers r (List.mem_filter.1 hr).1
    · obtain rfl := List.mem_singleton.1 hr
      exact ⟨hfrom, hpattern⟩
  entry id := by
    rw [hfrom, List.map_append, List.filter_append, h.entry_without]
    -- the old entry under this id was struck off, and the new one stands in its place
    by_cases hid : s.id = id
    · simp [Ledger.record, hid]
    · simp [Ledger.record, hid, Ne.symm hid]
  publishers := h.publishers
  accepted := h.accepted

/-- Ids that are given up are struck off, whether there is a subscription under them or not. -/
theorem deregister (h : Remembers subscriber publisher memory l) {header : Header}
    (hfrom : header.uriFrom = subscriber) (ids : List String) :
    Remembers subscriber publisher
      { memory with subscriptions := Distributor.without header.uriFrom ids memory }
      (l.record (.deregister ids)) where
  headers r hr := h.headers r (List.mem_filter.1 hr).1
  entry id := by
    rw [hfrom, h.entry_without]
    by_cases hid : id ∈ ids <;> simp [Ledger.record, hid]
  publishers := h.publishers
  accepted := h.accepted

theorem publishRegister (h : Remembers subscriber publisher memory l) {header : Header}
    (hfrom : header.uriFrom = publisher) (keys : List EntityKey) (listener : String) :
    Remembers subscriber publisher
      { memory with publishers := header.uriFrom :: memory.publishers.erase header.uriFrom }
      (l.record (.publishRegister keys listener)) where
  headers := h.headers
  entry := h.entry
  publishers := List.nodup_cons.2 ⟨h.publishers.not_mem_erase, h.publishers.erase _⟩
  accepted := by simp [Ledger.record, hfrom]

theorem publishDeregister (h : Remembers subscriber publisher memory l) {header : Header}
    (hfrom : header.uriFrom = publisher) :
    Remembers subscriber publisher
      { memory with publishers := memory.publishers.erase header.uriFrom }
      (l.record .publishDeregister) where
  headers := h.headers
  entry := h.entry
  publishers := h.publishers.erase _
  accepted := by
    rw [hfrom]
    simp [Ledger.record, h.publishers.not_mem_erase]

theorem revoke (h : Remembers subscriber publisher memory l) :
    Remembers subscriber publisher (Distributor.revoke publisher memory) (l.record .revoke) where
  headers := h.headers
  entry := h.entry
  publishers := h.publishers.erase _
  accepted := by simp [Ledger.record, Distributor.revoke, h.publishers.not_mem_erase]

/-- A publish leaves the memory as it is. -/
theorem publish (h : Remembers subscriber publisher memory l) (updates : List Update) :
    Remembers subscriber publisher memory (l.record (.publish updates)) := by
  simp only [Ledger.record]
  split
  · exact h
  · exact { headers := h.headers, entry := h.entry, publishers := h.publishers,
            accepted := h.accepted }

end Remembers

/-! ## What is sent for a publish -/

/-- The listener that a notification goes to where notifies are routed like this, if any, and the
    notification. -/
def passed (route : String → Option String) (m : Message) : Option (String × Notification) :=
  match m.body with
  | .notify n => (route n.subscriptionId).map fun listener => (listener, n)
  | _ => none

/-- What is passed on of updates for a subscription. -/
def share (route : String → Option String) (updates : List Update) (s : Subscription) :
    Option (String × Notification) :=
  match updates.filter fun u => Distributor.wants s u.header.key with
  | [] => none
  | wanted =>
    (route s.id).map fun listener => (listener, { subscriptionId := s.id, updates := wanted })

variable {route : String → Option String} {updates : List Update}

/-- It does not depend on how the subscription was registered. -/
private theorem passed_notify? (now : UInt64) (r : Header × Subscription) :
    (Distributor.notify? now updates r).bind (passed route) = share route updates r.2 := by
  obtain ⟨header, s⟩ := r
  simp only [Distributor.notify?, share]
  cases updates.filter fun u => Distributor.wants s u.header.key <;> rfl

/-- It goes under the id of the subscription. -/
private theorem id_of_share {s : Subscription} {x : String × Notification}
    (h : share route updates s = some x) : x.2.subscriptionId = s.id := by
  unfold share at h
  split at h
  · cases h
  · obtain ⟨listener, -, rfl⟩ := Option.map_eq_some_iff.1 h
    rfl

/-- So what goes under an id comes from the subscriptions with this id. -/
private theorem filter_share (subscriptions : List Subscription) (id : String) :
    (subscriptions.filterMap (share route updates)).filter (·.2.subscriptionId = id) =
      (subscriptions.filter (·.id = id)).filterMap (share route updates) := by
  rw [List.filter_filterMap, List.filterMap_filter]
  refine List.filterMap_congr fun s _ => ?_
  cases hshare : share route updates s with
  | none => simp
  | some x => simp [Option.filter, id_of_share hshare]

/-- Where notifies are routed as the ledger says, the notifies that the broker sends for a publish
    bring the listener of each subscription what is due to it, once. -/
theorem Remembers.due {subscriber publisher : String} {memory : BrokerMemory} {l : Ledger}
    (h : Remembers subscriber publisher memory l)
    (hroute : ∀ id, route id = (l.subscriptions id).map Prod.snd) (updates : List Update)
    (now : UInt64) (id : String) :
    ((memory.subscriptions.filterMap (Distributor.notify? now updates)).filterMap
      (passed route)).filter (·.2.subscriptionId = id) = l.due updates id := by
  -- what is passed on is a matter of the subscriptions that are remembered
  have hshares : (memory.subscriptions.filterMap (Distributor.notify? now updates)).filterMap
      (passed route) = (memory.subscriptions.map Prod.snd).filterMap (share route updates) := by
    rw [List.filterMap_filterMap, List.filterMap_map]
    exact List.filterMap_congr fun r _ => passed_notify? now r
  have hentry := h.entry id
  rw [hshares, filter_share, hentry, Ledger.due]
  cases hid : l.subscriptions id with
  | none => rfl
  | some e =>
    obtain ⟨s, listener⟩ := e
    -- what is remembered under an id has this id
    have hmem : s ∈ (memory.subscriptions.map Prod.snd).filter (·.id = id) := by
      rw [hentry, hid]
      exact .head _
    obtain rfl : s.id = id := by simpa using (List.mem_filter.1 hmem).2
    have hlistener : route s.id = some listener := by rw [hroute, hid]; rfl
    simp only [Option.map_some, Option.toList_some, List.filterMap_cons, List.filterMap_nil, share]
    cases updates.filter fun u => Distributor.wants s u.header.key with
    | nil => rfl
    | cons u rest => rw [hlistener]; rfl

end Mal.PubSub
