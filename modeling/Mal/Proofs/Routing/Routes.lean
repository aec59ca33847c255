import Mal.Consumer.Consumer

/-!
# What becomes of routes

Routes are looked up by their keys, so each operation on them is described by what it does to the
two ways of looking up, `Routing.notify?` and `Routing.publisher?`. Operations on notify routes
leave publisher routes alone, and the other way round.

Instances change routes when outcomes are reported: a report may drop a notify route, and none sets
one up (`Instance.reportAll_notify?`, `Instance.reportAll_publisher?`).
-/

namespace Mal

/-- Erasing several keys one after another erases these keys. -/
private theorem Directory.get?_foldl_erase {κ α β : Type} [DecidableEq κ] (key : β → κ) (l : List β)
    (d : Directory κ α) (k : κ) :
    (l.foldl (fun d b => d.erase (key b)) d).get? k =
      if k ∈ l.map key then none else d.get? k := by
  induction l generalizing d with
  | nil => simp
  | cons b rest ih =>
    rw [List.foldl_cons, ih, Directory.get?_erase]
    -- the first key is erased before or after the others
    by_cases hk : k = key b
    · simp [hk]
    · simp [hk]

namespace Routing

/-! ## Routes that are set up -/

theorem notify?_addNotify (r : Routing) (uri id listener uri' id' : String) :
    (r.addNotify uri id listener).notify? uri' id' =
      if (uri, id) = (uri', id') then some listener else r.notify? uri' id' :=
  Directory.get?_put ..

theorem publisher?_addPublisher (r : Routing) (a : Addressing) (listener : String)
    (key : PublisherKey) :
    (r.addPublisher a listener).publisher? key =
      if r.publisherKey a = key then some listener else r.publisher? key :=
  Directory.get?_put ..

/-! ## Routes that are taken down -/

/-- Exactly the routes of the given subscriptions on the endpoint are taken down. -/
theorem notify?_removeNotify (r : Routing) (uri : String) (ids : List String) (uri' id' : String) :
    (r.removeNotify uri ids).notify? uri' id' =
      if uri' = uri ∧ id' ∈ ids then none else r.notify? uri' id' := by
  have herased := Directory.get?_foldl_erase (fun id => (uri, id)) ids r.notify (uri', id')
  refine herased.trans (ite_congr (propext ?_) (fun _ => rfl) (fun _ => rfl))
  -- a key is erased if it is for this endpoint and one of the ids
  simp only [List.mem_map, Prod.mk.injEq]
  constructor
  · rintro ⟨id, hid, rfl, rfl⟩
    exact ⟨rfl, hid⟩
  · rintro ⟨rfl, hid⟩
    exact ⟨id', hid, rfl, rfl⟩

@[simp] theorem publisher?_removeNotify (r : Routing) (uri : String) (ids : List String)
    (key : PublisherKey) : (r.removeNotify uri ids).publisher? key = r.publisher? key := rfl

@[simp] theorem publisherKey_removeNotify (r : Routing) (uri : String) (ids : List String)
    (a : Addressing) : (r.removeNotify uri ids).publisherKey a = r.publisherKey a := rfl

theorem publisher?_removePublisher (r : Routing) (key key' : PublisherKey) :
    (r.removePublisher key).publisher? key' = if key' = key then none else r.publisher? key' :=
  Directory.get?_erase ..

end Routing

/-! ## Reports -/

namespace Instance

variable (i : Instance) (s : Site)

/-- A report drops the route that its listener owns and its outcome rejects, and no other. -/
private theorem report_notify? (r : Report) (uri id : String) :
    (i.report s r).1.routing.notify? uri id =
      if r.listener.droppedRoute? r.outcome = some (uri, id) then none
      else i.routing.notify? uri id := by
  unfold report
  cases r.listener.droppedRoute? r.outcome with
  -- a report that drops nothing leaves the routes alone
  | none => rfl
  | some key =>
    obtain ⟨uri', id'⟩ := key
    refine (Routing.notify?_removeNotify ..).trans
      (ite_congr (propext ?_) (fun _ => rfl) (fun _ => rfl))
    simp only [List.mem_singleton, Option.some.injEq, Prod.mk.injEq]
    exact and_congr eq_comm eq_comm

private theorem report_publisher? (r : Report) (key : PublisherKey) :
    (i.report s r).1.routing.publisher? key = i.routing.publisher? key := by
  unfold report
  cases r.listener.droppedRoute? r.outcome <;> rfl

private theorem report_publisherKey (r : Report) (a : Addressing) :
    (i.report s r).1.routing.publisherKey a = i.routing.publisherKey a := by
  unfold report
  cases r.listener.droppedRoute? r.outcome <;> rfl

/-- Several reports drop what each of them drops. -/
theorem reportAll_notify? (rs : List Report) (uri id : String) :
    (i.reportAll s rs).1.routing.notify? uri id =
      if ∃ r ∈ rs, r.listener.droppedRoute? r.outcome = some (uri, id) then none
      else i.routing.notify? uri id := by
  -- a route is gone after a report that drops it, whatever the others drop
  induction rs generalizing i s with
  | nil => simp [reportAll]
  | cons r rest ih =>
    refine (ih (i.report s r).1 (i.report s r).2).trans ?_
    rw [report_notify?]
    by_cases hdrops : r.listener.droppedRoute? r.outcome = some (uri, id) <;> simp [hdrops]

/-- Reports leave publishers alone. -/
theorem reportAll_publisher? (rs : List Report) (key : PublisherKey) :
    (i.reportAll s rs).1.routing.publisher? key = i.routing.publisher? key := by
  induction rs generalizing i s with
  | nil => rfl
  | cons r rest ih => exact (ih _ _).trans (i.report_publisher? s r key)

theorem reportAll_publisherKey (rs : List Report) (a : Addressing) :
    (i.reportAll s rs).1.routing.publisherKey a = i.routing.publisherKey a := by
  induction rs generalizing i s with
  | nil => rfl
  | cons r rest ih => exact (ih _ _).trans (i.report_publisherKey s r a)

/-- A reply that is waited for leaves all routes alone. -/
theorem receiveReply_routing_waited {m : Message} {id : TransactionId} {x : Exchange}
    {next : ReplyState} (hid : m.header.transaction = some id)
    (hx : i.correlator.exchanges.get? id = some x) (hstate : x.state.receive m.header = .ok next)
    (hl : x.listener = none) : (i.receiveReply s m).1.routing = i.routing := by
  simp only [receiveReply, Correlator.receive, hid, hx, hstate, hl]

/-- A reply that is reported leaves all routes alone but the one that its listener drops. -/
theorem receiveReply_notify?_listened {m : Message} {id : TransactionId} {x : Exchange}
    {next : ReplyState} {l : Listener} (hid : m.header.transaction = some id)
    (hx : i.correlator.exchanges.get? id = some x) (hstate : x.state.receive m.header = .ok next)
    (hl : x.listener = some l) (uri subscription : String) :
    (i.receiveReply s m).1.routing.notify? uri subscription =
      if l.droppedRoute? (.ofMessage m) = some (uri, subscription) then none
      else i.routing.notify? uri subscription := by
  simp only [receiveReply, Correlator.receive, hid, hx, hstate, hl]
  exact report_notify? ..

end Instance

/-! ## Registrations -/

namespace Demand

/-- The listener that the route of a registration leads to, where it is looked up with the
    registration's own key. -/
def route? (a : Addressing) (r : Routing) : Demand → Option String
  | register subscription _ => r.notify? a.endpoint.uri subscription.id
  | publishRegister .. => r.publisher? (r.publisherKey a)
  | _ => none

/-- The listener that a registration sets up a route to. -/
def routed? : Demand → Option String
  | register _ listener | publishRegister _ listener => some listener
  | _ => none

/-- A registration sets up its route. -/
theorem route?_prepare (a : Addressing) (r : Routing) (d : Demand) :
    d.route? a (d.prepare a r) = d.routed? := by
  cases d with
  | register => exact (Routing.notify?_addNotify ..).trans (if_pos rfl)
  | publishRegister => exact (Routing.publisher?_addPublisher ..).trans (if_pos rfl)
  | _ => rfl

/-- A registration that is withdrawn leaves no route. -/
theorem route?_withdraw (a : Addressing) (r : Routing) (d : Demand) :
    d.route? a (d.withdraw a r) = none := by
  cases d with
  | register => exact (Routing.notify?_removeNotify ..).trans (if_pos (by simp))
  | publishRegister => exact (Routing.publisher?_removePublisher ..).trans (if_pos rfl)
  | _ => rfl

end Demand

end Mal
