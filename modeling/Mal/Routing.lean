import Mal.Addressing
import Mal.Listener

/-!
# Publish-subscribe routes

Messages of a broker carry no transaction id that a subscriber or publisher would know, so they are
routed by what they are about. Notify routes lead from an endpoint and a subscription id to a
listener; publisher routes lead from an endpoint and a scope, written as a key, to a listener.

Subscription ids are indexed by endpoint, so that all routes of one endpoint can be taken out at
once.
-/

namespace Mal

/-- Where a publisher route leads from: endpoint URI and scope key. -/
abbrev PublisherKey := String × String

/-- The publish-subscribe routes of an instance. -/
structure Routing where
  /-- Sets the parts of a scope key apart. -/
  separator : String
  publishers : Directory PublisherKey String := .empty
  notify : Directory RouteKey String := .empty
  /-- Subscription ids with a notify route, by endpoint URI. -/
  subscriptions : Directory String (List String) := .empty

namespace Routing

/-! ## Publishers -/

/-- The publisher key of what is sent with these details. -/
def publisherKey (r : Routing) (a : Addressing) : PublisherKey :=
  (a.endpoint.uri, a.scope.key r.separator)

/-- The publisher key of an endpoint and the scope of a header. -/
def publisherKeyAt (r : Routing) (uri : String) (h : Header) : PublisherKey :=
  (uri, h.scope.key r.separator)

/-- The publisher key of the publisher that a broker's reply is addressed to. -/
def publisherKeyFor (r : Routing) (h : Header) : PublisherKey :=
  r.publisherKeyAt h.uriTo h

/-- Sets up a publisher route, replacing one with the same key. -/
def addPublisher (r : Routing) (a : Addressing) (listener : String) : Routing :=
  { r with publishers := r.publishers.put (r.publisherKey a) listener }

def publisher? (r : Routing) (key : PublisherKey) : Option String :=
  r.publishers.get? key

def removePublisher (r : Routing) (key : PublisherKey) : Routing :=
  { r with publishers := r.publishers.erase key }

/-- The listeners of all publishers on an endpoint. -/
def publishersOn (r : Routing) (uri : String) : List String :=
  (r.publishers.entries.filter fun e => e.1.1 = uri).map Prod.snd

def removePublishersOn (r : Routing) (uri : String) : Routing :=
  { r with publishers := r.publishers.eraseIf fun key _ => key.1 = uri }

/-! ## Subscribers -/

/-- Sets up a notify route, replacing one with the same endpoint and subscription id. -/
def addNotify (r : Routing) (uri id listener : String) : Routing :=
  let ids := (r.subscriptions.get? uri).getD []
  { r with
    subscriptions := r.subscriptions.put uri (if id ∈ ids then ids else ids ++ [id])
    notify := r.notify.put (uri, id) listener }

def notify? (r : Routing) (uri id : String) : Option String :=
  r.notify.get? (uri, id)

/-- The subscription ids on an endpoint, each with its listener. -/
def notifyOn (r : Routing) (uri : String) : List (String × String) :=
  ((r.subscriptions.get? uri).getD []).filterMap fun id =>
    (r.notify.get? (uri, id)).map fun listener => (id, listener)

/-- Takes out all notify routes of an endpoint. -/
def removeNotifyOn (r : Routing) (uri : String) : Routing :=
  let ids := (r.subscriptions.get? uri).getD []
  { r with
    subscriptions := r.subscriptions.erase uri
    notify := ids.foldl (fun n id => n.erase (uri, id)) r.notify }

/-- Takes out the notify routes of some subscriptions on an endpoint; unknown ids are passed
    over. -/
def removeNotify (r : Routing) (uri : String) (ids : List String) : Routing :=
  let kept := ((r.subscriptions.get? uri).getD []).filter fun id => id ∉ ids
  { r with
    notify := ids.foldl (fun n id => n.erase (uri, id)) r.notify
    subscriptions :=
      match r.subscriptions.get? uri with
      | none => r.subscriptions
      | some _ => if kept.isEmpty then r.subscriptions.erase uri else r.subscriptions.put uri kept }

end Routing

end Mal
