import Mal.Proofs.Dispatch.Closed

/-!
# Errors that concern all subscribers of an endpoint

Two things end all subscriptions on an endpoint at once: a notify that is flagged as an error, and
the loss of the endpoint's connection, which the transport reports without a header
(`Instance.Lost`). Both go by the index of subscription ids and look each route up again, so that
everybody is told, once for each subscription, depends on the agreement of index and routes, which
every history keeps.

Afterwards the endpoint has no notify route, and gets one only by a registration on it
(`Instance.Deed.subscribesOn?`); a publisher's registration, a provider or a broker on the same
endpoint does not count. Until then a notify for the endpoint is told to nobody.

## Key results

- `Instance.Lost.toldAll`: who is told, and what is left of the routes
- `Instance.notify?_perform_eq_none`: only a registration sets up a notify route
- `Instance.lost_told_once`: all this for every history
-/

namespace Mal

namespace Instance

variable {i : Instance} {s : Site} {uri : String}

/-! ## Who is told -/

/-- The header under which subscribers are told that the connection of their endpoint is gone. -/
def lossHeader (uri : String) (now : UInt64) : Header :=
  { uriFrom := "", uriTo := uri, pattern := .pubSub, stage := some Stage.notify, timestamp := now,
    isError := true }

/-- The two ways in which all subscriptions on an endpoint end with an error, each with the header
    and the error that are told, and what becomes of the instance and its site. -/
inductive Lost (i : Instance) (s : Site) (uri : String) :
    Header → StandardError → Instance × Site → Prop where
  /-- A notify for the endpoint is let pass that is flagged as an error. -/
  | notify (via : EndpointRef) {m m' : Message} {e : StandardError}
      (hsecurity : i.security m = .ok m') (hintake : m'.header.intake = .notify)
      (huri : m'.header.uriTo = uri) (herror : m'.error? = some e) :
      Lost i s uri m'.header e (i.receive s via m)
  /-- The connection is gone. -/
  | connection (failure : Failure) :
      Lost i s uri (lossHeader uri s.now) failure.standardError
        (i.failTransmission s uri none failure)

/-- Every subscriber on the endpoint is told the error, and nothing else is changed than that their
    routes are taken down. -/
structure ToldAll (i : Instance) (s : Site) (uri : String) (h : Header) (e : StandardError)
    (result : Instance × Site) : Prop where
  /-- There is one invocation for each subscription, of the callback for errors, on the listener
      that its route leads to; and there are no others. -/
  told : ∃ routes : List (String × String), (routes.map Prod.fst).Nodup ∧
    (∀ id listener, (id, listener) ∈ routes ↔ i.routing.notify? uri id = some listener) ∧
    result.2 = { s with
      events := s.events ++ routes.map fun r => .told ⟨r.2, .notifyError, .error h e⟩ }
  taken (id : String) : result.1.routing.notify? uri id = none
  others (uri' id : String) (h : uri' ≠ uri) :
    result.1.routing.notify? uri' id = i.routing.notify? uri' id
  publishers : result.1.routing.publishers = i.routing.publishers
  rest : result.1 = { i with routing := result.1.routing }

/-- Both ways come to the same: the routes that the index lists are told of, and taken down. -/
private theorem Lost.eq {h : Header} {e : StandardError} {result : Instance × Site}
    (hlost : i.Lost s uri h e result) :
    result = ({ i with routing := i.routing.removeNotifyOn uri },
      tellNotifyError s h e ((i.routing.notifyOn uri).map Prod.snd)) := by
  cases hlost with
  | notify via hsecurity hintake huri herror =>
    subst huri
    simp only [receive, dispatch, hsecurity, hintake, dispatchNotify, herror]
  | connection failure => rfl

/-- Where index and routes agree, everybody is told once, and nothing else is taken down. -/
theorem Lost.toldAll {h : Header} {e : StandardError} {result : Instance × Site}
    (hlost : i.Lost s uri h e result) (hrouting : i.routing.Consistent) :
    i.ToldAll s uri h e result := by
  -- index and routes agree, so what is taken down is what was told of
  have htaken := hrouting.notifyTaken uri
  rw [hlost.eq]
  exact {
    told := by
      refine ⟨i.routing.notifyOn uri, htaken.once, htaken.taken, ?_⟩
      rw [tellNotifyError_eq, List.map_map]
      rfl
    taken := fun id => (htaken.left uri id).trans (if_pos rfl)
    others := fun uri' id huri => (htaken.left uri' id).trans (if_neg huri)
    publishers := htaken.publishers
    rest := rfl }

/-! ## Until somebody registers again -/

/-- The URI that a deed registers a subscriber on. -/
def Deed.subscribesOn? : Deed → Option String
  | route (.addNotify uri _ _) => some uri
  | start _ c (.register _ _) _ => some c.addressing.endpoint.uri
  | _ => none

/-- A publisher that registers changes no notify route, whether or not it succeeds. -/
private theorem start_publishRegister_notify (i : Instance) (s : Site) (c : Consumer)
    (keys : List EntityKey) (listener : String) (reporter : Option String) :
    (i.start s c (.publishRegister keys listener) reporter).1.routing.notify =
      i.routing.notify := by
  rw [start_routing]
  split <;> rfl

/-- An endpoint without notify routes gets one only by a registration. -/
theorem notify?_perform_eq_none (hrouting : i.routing.Consistent) {deed : Deed}
    (hdeed : deed.subscribesOn? ≠ some uri) {id : String}
    (hnone : i.routing.notify? uri id = none) :
    (i.perform deed).routing.notify? uri id = none := by
  by_cases hother : deed.registersOn? = some uri
  · -- something else is set up on the endpoint, which leaves the notify routes alone
    have hnotify : (i.perform deed).routing.notify = i.routing.notify := by
      cases deed with
      | bindProvider | bindBroker => rfl
      | route op =>
        cases op with
        | addPublisher => rfl
        | addNotify => exact absurd hother hdeed
        | _ => cases hother
      | start s c d reporter =>
        cases d with
        -- a publisher's registration sets up a publish route
        | publishRegister keys listener => exact i.start_publishRegister_notify s c keys listener _
        | register => exact absurd hother hdeed
        | _ => cases hother
      | _ => cases hother
    rw [Routing.notify?, hnotify]
    exact hnone
  · -- nothing is set up on the endpoint at all
    exact (i.perform_routing deed).notify?_eq_none hrouting hother hnone

/-- No notify route leads from the URI, and a notify for it is told to nobody. -/
structure Unsubscribed (i : Instance) (uri : String) : Prop where
  routes (id : String) : i.routing.notify? uri id = none
  untold {s : Site} {via : EndpointRef} {m m' : Message} (hsecurity : i.security m = .ok m')
    (hintake : m'.header.intake = .notify) (huri : m'.header.uriTo = uri) :
    (i.receive s via m).1 = i ∧ (i.receive s via m).2.events = s.events

/-- Returning a failure sends a message at most. -/
private theorem returnFailure_events (s : Site) (via : EndpointRef) (h : Header)
    (failure : Failure) :
    (returnFailure s via h failure).events = s.events := by
  unfold returnFailure
  split <;> rfl

/-- Without routes there is nobody to be told. -/
private theorem unsubscribed_of_unrouted (hrouting : i.routing.Consistent)
    (hnone : ∀ id, i.routing.notify? uri id = none) : i.Unsubscribed uri where
  routes := hnone
  untold {s via m m'} hsecurity hintake huri := by
    -- without a route nothing is told, and a failure is returned at most
    obtain ⟨answer, hdispatch⟩ := dispatch_of_unrouted hnone (hrouting.index_eq_none hnone) s via
      hsecurity hintake huri
    unfold receive
    rw [hdispatch]
    cases answer with
    | ok => exact ⟨rfl, rfl⟩
    | error failure => exact ⟨rfl, returnFailure_events s via m.header failure⟩

/-- An endpoint without notify routes has none until somebody registers on it. -/
private theorem unsubscribed_after (hrouting : i.routing.Consistent)
    (hnone : ∀ id, i.routing.notify? uri id = none) {deeds : List Deed}
    (hdeeds : ∀ deed ∈ deeds, deed.subscribesOn? ≠ some uri) :
    (i.after deeds).Unsubscribed uri := by
  induction deeds generalizing i with
  | nil => exact unsubscribed_of_unrouted hrouting hnone
  | cons deed rest ih =>
    refine ih ((i.perform_routing deed).consistent hrouting) ?_ fun d hd => hdeeds d (.tail _ hd)
    exact fun id => notify?_perform_eq_none hrouting (hdeeds deed (.head _)) (hnone id)

/-! ## Every history -/

/-- Whatever has been done to an instance, with any check of incoming messages, an error that
    concerns an endpoint is told once for each subscription on it, to the listener of the
    subscription, and to nobody else. It takes down the notify routes of the endpoint and nothing
    else; and whatever is done afterwards, as long as nobody registers on the endpoint again, a
    notify for it is told to nobody. -/
theorem lost_told_once (settings : Settings) (clock : Clock) (now : UInt64) (security : Security)
    (deeds : List Deed) {s : Site} {uri : String} {h : Header} {e : StandardError}
    {result : Instance × Site} :
    let i := Instance.after { create settings clock now with security := security } deeds
    i.Lost s uri h e result →
      i.ToldAll s uri h e result ∧
        ∀ later : List Deed, (∀ deed ∈ later, deed.subscribesOn? ≠ some uri) →
          (result.1.after later).Unsubscribed uri := by
  intro i hlost
  -- no deed makes index and routes disagree
  have hempty : Routing.Consistent { separator := settings.separator } :=
    Routing.Consistent.empty settings.separator
  have hrouting : i.routing.Consistent :=
    consistent_after (i := { create settings clock now with security := security }) hempty deeds
  have htold := hlost.toldAll hrouting
  refine ⟨htold, ?_⟩
  intro later hlater
  -- the loss itself leaves them in agreement
  have hafter : result.1.routing.Consistent := by
    rw [hlost.eq]
    exact hrouting.perform (.removeNotifyOn uri)
  exact unsubscribed_after hafter htold.taken hlater

/-- Two subscriptions on an endpoint share a listener, a third is on another endpoint. When the
    connection is gone the listener is told twice; the other endpoint goes on, and a publisher that
    registers on the lost one brings no subscription back. -/
theorem lost_told_once_shared :
    let deeds : List Deed :=
      [.route (.addNotify "c" "x" "app"), .route (.addNotify "c" "y" "app"),
        .route (.addNotify "d" "x" "far")]
    let later : List Deed := [.route (.addPublisher { endpoint := ⟨0, "c"⟩, uriFrom := "c" } "pub")]
    let i := Instance.after (create {} .system 0) deeds
    let s : Site := { now := 0 }
    let result := i.failTransmission s "c" none (.transport "down")
    let told : Event := .told ⟨"app", .notifyError,
      .error (lossHeader "c" 0) (Failure.transport "down").standardError⟩
    i.Lost s "c" (lossHeader "c" 0) (Failure.transport "down").standardError result ∧
      result.2.events = [told, told] ∧
      result.1.routing.notify? "d" "x" = some "far" ∧
      (result.1.after later).routing.notify? "c" "x" = none := by
  intro deeds later i s result told
  have hlost : i.Lost s "c" (lossHeader "c" 0) (Failure.transport "down").standardError result :=
    .connection (.transport "down")
  obtain ⟨htold, hlater⟩ := lost_told_once {} .system 0 .unrestricted deeds hlost
  have hunsubscribed := hlater later (by simp [later, Deed.subscribesOn?])
  exact ⟨hlost, rfl, htold.others "d" "x" (by decide), hunsubscribed.routes "x"⟩

end Instance

end Mal
