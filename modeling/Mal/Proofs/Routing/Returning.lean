import Mal.Proofs.Network.Failures
import Mal.Proofs.PubSub.Parties
import Mal.Proofs.Routing.Routes

/-!
# Messages that lead back to a route

Routes are set up with the details that a subscriber or publisher sends under, and are found with
the header of a message that comes in. Such a header answers one that was made from the details, so
it is addressed to their sender, and its scope is theirs; the broker that it was sent to does not
matter. The route leads from the endpoint of the details. So the header leads to the route if the
sender of the details is their endpoint, which is how details are made. Under another sender, what
comes back for a subscription is not for the endpoint of the details, and goes to whoever is
subscribed under the URI of that sender.

## Key results

- `Routing.publisherKeyFor_reply`: which publisher the answer to a header leads to
- `Instance.replies_lead_back`: the listeners of a set of details get the answers to their headers
- `Instance.replies_lead_astray`: those of details with another sender do not
-/

namespace Mal

/-- Header of a message to a broker under some details, in whatever transaction. -/
def Addressing.opening (a : Addressing) (now : UInt64) (stage : Stage) (operation : UInt16)
    (transaction : Option TransactionId) : Header :=
  { a.header now .pubSub (some stage) operation with transaction := transaction }

section
variable (a : Addressing) (made answered : UInt64) (stage reply : Stage) (operation : UInt16)
  (transaction : Option TransactionId) (isError : Bool)

/-- Which broker the header goes to does not matter to its answer. -/
private theorem Addressing.uriTo_reply_opening :
    ((a.opening made stage operation transaction).reply answered reply isError).uriTo = a.uriFrom :=
  rfl

/-- The answer to a header leads to the publisher on the endpoint that has the URI of the details'
    sender, with the scope of the details. -/
theorem Routing.publisherKeyFor_reply (r : Routing) :
    r.publisherKeyFor ((a.opening made stage operation transaction).reply answered reply isError) =
      (a.uriFrom, a.scope.key r.separator) :=
  rfl

end

namespace Instance

/-- Whatever routes there are and whatever the separator of the table, after a listener was set up
    under some details, for a message that the security check lets pass, as it lets it pass. If the
    sender of the details is their endpoint, then the rejection of a publish with a header made from
    the details is told to the publish listener, with the error that it reports; and a notify for
    the subscription that answers a registration with a header made from the details is told to the
    notify listener. If the sender is another one, the notify goes to the listener that had been set
    up for the subscription under the URI of that sender, if there is one. Nobody else is told
    anything. -/
theorem replies_lead_back (i : Instance) (s : Site) (via : EndpointRef) (a : Addressing)
    (listener : String) (made answered : UInt64) (operation : UInt16)
    (transaction : Option TransactionId) (m m' : Message) (hsecurity : i.security m = .ok m') :
    (a.uriFrom = a.endpoint.uri →
      m'.header = (a.opening made Stage.publish operation transaction).reply answered
        Stage.publish true →
      ∃ error, m'.error? = some error ∧
        ({ i with routing := i.routing.addPublisher a listener }.receive s via m).2 =
          s.tell (some ⟨listener, .publishError, .error m'.header error⟩)) ∧
    ∀ subscription : Subscription, ∀ updates,
      m'.header = (a.opening made Stage.register operation transaction).reply answered
        Stage.notify false →
      m'.body = .notify { subscriptionId := subscription.id, updates := updates } →
      ({ i with routing := i.routing.addNotify a.endpoint.uri subscription.id listener }.receive
          s via m).2 =
        s.tell ((if a.uriFrom = a.endpoint.uri then some listener
          else i.routing.notify? a.uriFrom subscription.id).map
            fun listener => ⟨listener, .notify, .message m'⟩) := by
  -- first the rejection of a publish, then a notify
  constructor
  · intro hown hheader
    have hintake : m'.header.intake = .publishError := by
      rw [hheader]
      rfl
    -- an error-flagged message has an error, whatever its body is
    have hflagged : m'.error?.isSome = true := by
      rw [Message.isSome_error?, hheader]
      rfl
    obtain ⟨error, herror⟩ := Option.isSome_iff_exists.1 hflagged
    -- the header leads to the key that the route was set up with
    let routed : Instance := { i with routing := i.routing.addPublisher a listener }
    have hroute : routed.routing.publisher? (routed.routing.publisherKeyFor m'.header) =
        some listener := by
      rw [hheader, Routing.publisherKeyFor_reply, hown]
      exact (Routing.publisher?_addPublisher ..).trans (if_pos rfl)
    have hreceive := @receive_publishError routed s via m m' hsecurity hintake
    rw [hroute, herror] at hreceive
    exact ⟨error, herror, congrArg Prod.snd hreceive⟩
  · intro subscription updates hheader hbody
    have hintake : m'.header.intake = .notify := by
      rw [hheader]
      rfl
    have hplain : m'.header.isError = false := by
      rw [hheader]
      rfl
    have hto : m'.header.uriTo = a.uriFrom := by
      rw [hheader, Addressing.uriTo_reply_opening]
    -- the notify is for the sender, and the new route for the endpoint
    let routed : Instance :=
      { i with routing := i.routing.addNotify a.endpoint.uri subscription.id listener }
    have hroute : routed.routing.notify? a.uriFrom subscription.id =
        if a.uriFrom = a.endpoint.uri then some listener
        else i.routing.notify? a.uriFrom subscription.id := by
      refine (Routing.notify?_addNotify ..).trans
        (ite_congr (propext ?_) (fun _ => rfl) (fun _ => rfl))
      rw [Prod.mk.injEq, and_iff_left rfl, eq_comm]
    have hreceive := @receive_notify routed s via m m' hsecurity hintake hplain _ hbody
    rw [hto, hroute] at hreceive
    exact congrArg Prod.snd hreceive

/-- The answers to headers that went to a broker, for a publisher and a subscriber on one
    endpoint. -/
theorem replies_lead_back_brokered :
    let a : Addressing := { endpoint := ⟨0, "c"⟩, uriFrom := "c", brokerUri := some "b" }
    let i := create {} .system 0
    let s : Site := { now := 0 }
    let rejected : Message := .ofError
      ((a.opening 0 Stage.publish 1 (some 1)).reply 5 Stage.publish true)
      { number := StandardError.unknown }
    let notify : Message :=
      { header := (a.opening 0 Stage.register 1 (some 2)).reply 5 Stage.notify false
        body := .notify { subscriptionId := "x", updates := [] } }
    ({ i with routing := i.routing.addPublisher a "pub" }.receive s a.endpoint rejected).2 =
        s.tell (some ⟨"pub", .publishError,
          .error rejected.header { number := StandardError.unknown }⟩) ∧
      ({ i with routing := i.routing.addNotify "c" "x" "sub" }.receive s a.endpoint notify).2 =
        s.tell (some ⟨"sub", .notify, .message notify⟩) := by
  intro a i s rejected notify
  -- the sender of both is their endpoint, so either answer finds its listener
  obtain ⟨error, herror, hrejected⟩ :=
    (replies_lead_back i s a.endpoint a "pub" 0 5 1 (some 1) rejected rejected rfl).1 rfl rfl
  obtain rfl := Option.some.inj herror
  have hnotified :=
    (replies_lead_back i s a.endpoint a "sub" 0 5 1 (some 2) notify notify rfl).2 ⟨"x", []⟩ []
      rfl rfl
  exact ⟨hrejected, hnotified⟩

/-- Details whose sender is another one than their endpoint: the answers to their headers are told
    to nobody, neither that of a publish nor that of a registration. With a security check that
    refuses what comes in, neither is the answer to a header of details whose sender is their
    endpoint. -/
theorem replies_lead_astray :
    let own : Addressing := { endpoint := ⟨0, "c"⟩, uriFrom := "c" }
    let other : Addressing := { own with uriFrom := "d" }
    let i := create {} .system 0
    let s : Site := { now := 0 }
    let published : Instance := { i with routing := i.routing.addPublisher other "pub" }
    let subscribed : Instance := { i with routing := i.routing.addNotify "c" "x" "sub" }
    let guarded : Instance := { subscribed with security := .denying (.security "closed") }
    let rejected : Message := .ofError
      ((other.opening 0 Stage.publish 1 none).reply 5 Stage.publish true)
      { number := StandardError.unknown }
    let notify (a : Addressing) : Message :=
      { header := (a.opening 0 Stage.register 1 none).reply 5 Stage.notify false
        body := .notify { subscriptionId := "x", updates := [] } }
    (published.receive s other.endpoint rejected).2.noticesSince s = [] ∧
      (subscribed.receive s other.endpoint (notify other)).2.noticesSince s = [] ∧
      (guarded.receive s own.endpoint (notify own)).2.noticesSince s = [] := by
  decide +kernel

end Instance

end Mal
