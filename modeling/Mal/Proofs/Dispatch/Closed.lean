import Mal.Proofs.Dispatch.Brokered
import Mal.Proofs.Dispatch.Frame
import Mal.Proofs.Starting

/-!
# Endpoints that are closed

Four tables hold what is bound to a URI: the providers by URI and service, the brokers by URI, the
notify routes by URI and subscription with an index by URI, and the publishers by URI and scope.
Closing an endpoint empties all four for its URI and touches nothing else.

A history of an instance is a list of `Deed`s, all that its owner, its consumers and its transport
can do to it. Only some of them set something up, and each of those on one URI
(`Deed.registersOn?`); all else can only take bindings and routes down. So what was emptied stays
empty until something is set up on the URI again, and as long as it is, messages for the URI reach
nobody.

## Key results

- `Instance.perform_routing`, `Instance.Vacant.perform`: what one deed sets up
- `Instance.vacant_closeEndpoint`, `Instance.spares_closeEndpoint`: what closing takes, and leaves
- `Instance.Vacant.unattended`: what becomes of messages for a URI where nothing is
- `Instance.closed_after`: all this for every history
-/

namespace Mal

namespace Routing

/-- The endpoint that an operation sets up a route on. -/
def Op.addsOn? : Op → Option String
  | addPublisher a _ => some a.endpoint.uri
  | addNotify uri _ _ => some uri
  | removePublisher _ | removePublishersOn _ | removeNotify .. | removeNotifyOn _ => none

/-- Operations lead from one table to the other, and set up routes on the given endpoint at most. -/
def Leads (on? : Option String) (r r' : Routing) : Prop :=
  ∃ ops, r' = r.after ops ∧ ∀ op ∈ ops, ∀ uri, op.addsOn? = some uri → on? = some uri

namespace Leads

variable {on? : Option String} {r r' r'' : Routing}

private theorem refl (on? : Option String) (r : Routing) : r.Leads on? r :=
  ⟨[], rfl, by simp⟩

private theorem single (r : Routing) (op : Op) : r.Leads op.addsOn? (r.perform op) := by
  refine ⟨[op], rfl, ?_⟩
  intro op' hop uri huri
  rwa [List.mem_singleton.1 hop] at huri

private theorem trans (h : r.Leads on? r') (h' : r'.Leads on? r'') : r.Leads on? r'' := by
  obtain ⟨ops, rfl, hops⟩ := h
  obtain ⟨ops', rfl, hops'⟩ := h'
  refine ⟨ops ++ ops', List.foldl_append.symm, ?_⟩
  intro op hop
  rcases List.mem_append.1 hop with hop | hop
  · exact hops op hop
  · exact hops' op hop

/-- What sets up nothing sets up nothing elsewhere. -/
private theorem of_none (h : r.Leads none r') (on? : Option String) : r.Leads on? r' := by
  obtain ⟨ops, hr, hops⟩ := h
  exact ⟨ops, hr, fun op hop uri huri => nomatch hops op hop uri huri⟩

theorem consistent (h : r.Leads on? r') (hr : r.Consistent) : r'.Consistent := by
  obtain ⟨ops, rfl, -⟩ := h
  exact hr.after ops

/-- An endpoint that no notify route leads from gets none by what sets up routes elsewhere. -/
theorem notify?_eq_none (h : r.Leads on? r') (hr : r.Consistent) {uri id : String}
    (huri : on? ≠ some uri) (hnone : r.notify? uri id = none) : r'.notify? uri id = none := by
  obtain ⟨ops, rfl, hops⟩ := h
  -- induction on the operations; each writes at most the slot that it is for
  induction ops generalizing r with
  | nil => exact hnone
  | cons op rest ih =>
    refine ih (hr.perform op) ?_ fun op' hop => hops op' (.tail _ hop)
    have hop := hops op (.head _) uri
    rw [hr.notify?_perform, hnone]
    cases op with
    | addNotify uri' id' listener =>
      have hother : (uri', id') ≠ (uri, id) := fun heq =>
        huri (hop (congrArg some (congrArg Prod.fst heq)))
      simp [Op.notifyWrite?, hother]
    -- taking down leaves the slot empty, whether it was this one or not
    | removeNotify | removeNotifyOn =>
      simp only [Op.notifyWrite?]
      split <;> rfl
    | addPublisher | removePublisher | removePublishersOn => rfl

/-- Nor does it get a publisher. -/
private theorem publisher?_eq_none (h : r.Leads on? r') {key : PublisherKey}
    (huri : on? ≠ some key.1) (hnone : r.publisher? key = none) : r'.publisher? key = none := by
  obtain ⟨ops, rfl, hops⟩ := h
  induction ops generalizing r with
  | nil => exact hnone
  | cons op rest ih =>
    refine ih ?_ fun op' hop => hops op' (.tail _ hop)
    have hop := hops op (.head _) key.1
    rw [publisher?_perform, hnone]
    cases op with
    | addPublisher a listener =>
      have hother : (a.endpoint.uri, a.scope.key r.separator) ≠ key := fun heq =>
        huri (hop (congrArg some (congrArg Prod.fst heq)))
      simp [Op.publisherWrite?, hother]
    -- what is empty stays empty, as above
    | removePublisher | removePublishersOn =>
      simp only [Op.publisherWrite?]
      split <;> rfl
    | addNotify | removeNotify | removeNotifyOn => rfl

end Leads

/-- Without a list in the index there is nothing to take down. -/
private theorem removeNotifyOn_eq_self {r : Routing} {uri : String}
    (h : r.subscriptions.get? uri = none) : r.removeNotifyOn uri = r := by
  simp only [removeNotifyOn, h, Option.getD_none, List.foldl_nil,
    Directory.erase_of_get?_eq_none h]

/-- Where no notify route leads from an endpoint, the index does not list it. -/
theorem Consistent.index_eq_none {r : Routing} (hr : r.Consistent) {uri : String}
    (hnone : ∀ id, r.notify? uri id = none) : r.subscriptions.get? uri = none := by
  -- an id that is listed has a route
  have hlisted (id : String) : id ∉ r.subscribed uri := by
    rw [hr.listed, hnone]
    exact Bool.false_ne_true
  have hempty := List.eq_nil_iff_forall_not_mem.2 hlisted
  unfold subscribed at hempty
  cases hget : r.subscriptions.get? uri with
  | none => rfl
  | some ids =>
    -- a list that is there is not empty
    rw [hget, Option.getD_some] at hempty
    exact absurd (hget.trans (congrArg some hempty)) (hr.nonempty uri)

end Routing

namespace Demand

/-- A demand sets up routes on its own endpoint, and only if it is a registration. -/
private theorem leads_prepare (a : Addressing) (r : Routing) (d : Demand) :
    r.Leads (d.routed?.map fun _ => a.endpoint.uri) (d.prepare a r) := by
  cases d with
  | register subscription listener =>
    exact .single r (.addNotify a.endpoint.uri subscription.id listener)
  | publishRegister keys listener => exact .single r (.addPublisher a listener)
  | deregister ids => exact .single r (.removeNotify a.endpoint.uri ids)
  | publishDeregister => exact .single r (.removePublisher (r.publisherKey a))
  | _ => exact .refl _ r

private theorem leads_withdraw (a : Addressing) (r : Routing) (d : Demand) :
    r.Leads none (d.withdraw a r) := by
  cases d with
  | register subscription listener =>
    exact .single r (.removeNotify a.endpoint.uri [subscription.id])
  | publishRegister keys listener => exact .single r (.removePublisher (r.publisherKey a))
  | _ => exact .refl _ r

end Demand

namespace Header

/-- The same request is taken in as the same. -/
private theorem SameRequest.intake {h h' : Header} (hsame : h.SameRequest h') :
    h'.intake = h.intake := by
  simp only [Header.intake, hsame.pattern, hsame.stage, hsame.isError]

/-- The sender of a request waits for an answer. -/
private theorem exists_errorReplyStage {h : Header}
    (hintake : h.intake = .request ∨ h.intake = .broker)
    (herror : h.isError = false) : ∃ stage, h.errorReplyStage = some stage := by
  unfold intake at hintake
  unfold errorReplyStage
  split at hintake <;> simp_all

/-- The sender of a Send or a notify does not. -/
private theorem errorReplyStage_eq_none {h : Header}
    (hintake : h.intake = .send ∨ h.intake = .notify) :
    h.errorReplyStage = none := by
  unfold errorReplyStage
  split
  · rfl
  · unfold intake at hintake
    split at hintake <;> simp_all

end Header

namespace Instance

variable {i : Instance} {s : Site} {via : EndpointRef} {m m' : Message} {uri : String}

/-! ## Deeds -/

/-- What may be done to an instance. -/
inductive Deed where
  | bindProvider (service : Service) (a : Address)
  | unbindProvider (uri : String) (service : Service)
  | unbindProvidersOn (uri : String)
  | bindBroker (uri : String) (b : Broker)
  | unbindBroker (uri : String)
  /-- A subscriber or a publisher is entered in the routes, or taken out of them. -/
  | route (op : Routing.Op)
  | closeEndpoint (uri : String)
  /-- A consumer starts an interaction at the site `s`. -/
  | start (s : Site) (c : Consumer) (d : Demand) (reporter : Option String)
  | conclude (c : Consumer) (d : Demand) (id : TransactionId) (outcome : Except Failure Message)
  /-- A message comes in. -/
  | receive (s : Site) (via : EndpointRef) (m : Message)
  | failTransmission (s : Site) (uri : String) (h : Option Header) (failure : Failure)
  | close (s : Site)
  /-- Anything else becomes of the pending interactions. -/
  | correlate (c : Correlator)

/-- The instance after a deed. -/
def perform (i : Instance) : Deed → Instance
  | .bindProvider service a => i.bindProvider service a
  | .unbindProvider uri service =>
    { i with bindings := (i.bindings.unbindProvider uri service).2 }
  | .unbindProvidersOn uri => { i with bindings := (i.bindings.unbindProvidersOn uri).2 }
  | .bindBroker uri b => i.bindBroker uri b
  | .unbindBroker uri => { i with bindings := (i.bindings.unbindBroker uri).2 }
  | .route op => { i with routing := i.routing.perform op }
  | .closeEndpoint uri => i.closeEndpoint uri
  | .start s c d reporter => (i.start s c d reporter).1
  | .conclude c d id outcome => (i.conclude c d id outcome).1
  | .receive s via m => (i.receive s via m).1
  | .failTransmission s uri h failure => (i.failTransmission s uri h failure).1
  | .close s => (i.close s).1
  | .correlate c => { i with correlator := c }

/-- The instance after deeds one after another. -/
def after (i : Instance) (deeds : List Deed) : Instance :=
  deeds.foldl perform i

/-- The URI that a deed sets something up on. -/
def Deed.registersOn? : Deed → Option String
  | bindProvider _ a => some a.uri
  | bindBroker uri _ => some uri
  | route op => op.addsOn?
  | start _ c d _ => d.routed?.map fun _ => c.addressing.endpoint.uri
  | _ => none

/-- A report takes down a route at most. -/
private theorem report_leads (i : Instance) (s : Site) (r : Report) :
    i.routing.Leads none (i.report s r).1.routing := by
  unfold report
  cases r.listener.droppedRoute? r.outcome with
  | none => exact .refl none i.routing
  | some route => exact .single i.routing (.removeNotify route.1 [route.2])

private theorem reportAll_leads (i : Instance) (s : Site) (rs : List Report) :
    i.routing.Leads none (i.reportAll s rs).1.routing := by
  induction rs generalizing i s with
  | nil => exact .refl none i.routing
  | cons r rest ih => exact (i.report_leads s r).trans (ih _ _)

/-- A start prepares the routes, and withdraws them if it fails. -/
private theorem start_leads (i : Instance) (s : Site) (c : Consumer) (d : Demand)
    (reporter : Option String) :
    i.routing.Leads (d.routed?.map fun _ => c.addressing.endpoint.uri)
      (i.start s c d reporter).1.routing := by
  have hprepared := d.leads_prepare c.addressing i.routing
  rw [start_routing]
  split
  · exact hprepared
  · exact hprepared.trans ((d.leads_withdraw c.addressing _).of_none _)

/-- An operation that a message brings about takes routes down. -/
private theorem addsOn?_withdrawals {op : Routing.Op} (hop : op ∈ i.withdrawals m) :
    op.addsOn? = none := by
  unfold withdrawals at hop
  split at hop
  · split at hop
    · -- a rejected registration
      rw [List.mem_singleton.1 hop]
      rfl
    · cases hop
  · -- an acknowledged deregistration
    rw [List.mem_singleton.1 hop]
    rfl
  · -- a delivery error, which takes down all routes on the endpoint
    obtain ⟨route, -, rfl⟩ := List.mem_map.1 hop
    rfl
  all_goals cases hop

private theorem receive_leads (i : Instance) (s : Site) (via : EndpointRef) (m : Message) :
    i.routing.Leads none (i.receive s via m).1.routing := by
  cases hsecurity : i.security m with
  -- a message that security refuses changes nothing
  | error failure =>
    rw [(receive_of_refused s via hsecurity).1]
    exact .refl none i.routing
  | ok m' =>
    -- any other leads to the withdrawals of the message, which are operations
    rw [receive_instance s via hsecurity]
    refine ⟨i.withdrawals m', rfl, ?_⟩
    intro op hop uri huri
    rw [addsOn?_withdrawals hop] at huri
    cases huri

private theorem failTransmission_leads (i : Instance) (s : Site) (uri : String) (h : Option Header)
    (failure : Failure) :
    i.routing.Leads none (i.failTransmission s uri h failure).1.routing := by
  unfold failTransmission
  split
  · split
    · split <;> exact .refl none i.routing
    · split
      · exact reportAll_leads { i with correlator := _ } s _
      · exact .refl none i.routing
  · exact .single i.routing (.removeNotifyOn uri)

/-- What a deed does to the routes, it does by operations, of which those that set up a route do so
    on the URI of the deed. -/
theorem perform_routing (i : Instance) (deed : Deed) :
    i.routing.Leads deed.registersOn? (i.perform deed).routing := by
  cases deed with
  | route op => exact .single i.routing op
  | start s c d reporter => exact i.start_leads s c d reporter
  | receive s via m => exact i.receive_leads s via m
  | failTransmission s uri h failure => exact i.failTransmission_leads s uri h failure
  | close s => exact reportAll_leads { i with correlator := _ } s _
  | conclude c d id outcome =>
    simp only [perform, conclude]
    -- the outcome of a request to a provider is only handed over
    split
    · split <;> exact .refl none i.routing
    · exact d.leads_withdraw c.addressing i.routing
  | closeEndpoint uri =>
    exact (Routing.Leads.single i.routing (.removeNotifyOn uri)).trans
      (.single _ (.removePublishersOn uri))
  | bindProvider | unbindProvider | unbindProvidersOn | bindBroker | unbindBroker | correlate =>
    exact .refl _ i.routing

/-- The routes of every instance that deeds lead to agree with their index. -/
theorem consistent_after (h : i.routing.Consistent) (deeds : List Deed) :
    (i.after deeds).routing.Consistent := by
  induction deeds generalizing i with
  | nil => exact h
  | cons deed rest ih => exact ih ((i.perform_routing deed).consistent h)

/-! ## What closing takes, and what it leaves -/

/-- Nothing is bound to the URI, and no route leads from it. -/
structure Vacant (i : Instance) (uri : String) : Prop where
  providers : ∀ key : String × Service, key.1 = uri → i.bindings.providers.get? key = none
  broker : i.bindings.broker? uri = none
  notify : ∀ id, i.routing.notify? uri id = none
  index : i.routing.subscriptions.get? uri = none
  publishers : ∀ key : PublisherKey, key.1 = uri → i.routing.publisher? key = none

/-- The two instances are the same but for what is bound to the URI, and the routes from it. -/
structure Spares (i i' : Instance) (uri : String) : Prop where
  providers : ∀ key : String × Service, key.1 ≠ uri →
    i'.bindings.providers.get? key = i.bindings.providers.get? key
  brokers : ∀ uri', uri' ≠ uri → i'.bindings.broker? uri' = i.bindings.broker? uri'
  notify : ∀ uri' id, uri' ≠ uri → i'.routing.notify? uri' id = i.routing.notify? uri' id
  index : ∀ uri', uri' ≠ uri →
    i'.routing.subscriptions.get? uri' = i.routing.subscriptions.get? uri'
  publishers : ∀ key : PublisherKey, key.1 ≠ uri →
    i'.routing.publisher? key = i.routing.publisher? key
  /-- Pending interactions and all else are the same without exception. -/
  rest : i' = { i with bindings := i'.bindings, routing := i'.routing }

/-- Closing takes everything on the URI. -/
theorem vacant_closeEndpoint (hrouting : i.routing.Consistent) (uri : String) :
    (i.closeEndpoint uri).Vacant uri := by
  have hnotify (id : String) : (i.closeEndpoint uri).routing.notify? uri id = none :=
    ((hrouting.notifyTaken uri).left uri id).trans (if_pos rfl)
  refine ⟨?_, Directory.get?_erase_self .., hnotify, ?_, ?_⟩
  · -- an entry stays if its key is for another URI, and this one is not
    intro key hkey
    refine (Directory.get?_eraseIf ..).trans ?_
    cases i.bindings.providers.get? key <;> simp [hkey]
  · exact ((hrouting.notifyTaken uri).index uri).trans (if_pos rfl)
  · intro key hkey
    exact (((i.routing.removeNotifyOn uri).publishersTaken uri).left key).trans (if_pos hkey)

/-- It takes nothing else. -/
theorem spares_closeEndpoint (hrouting : i.routing.Consistent) (uri : String) :
    i.Spares (i.closeEndpoint uri) uri where
  providers key hkey := by
    refine (Directory.get?_eraseIf ..).trans ?_
    cases i.bindings.providers.get? key <;> simp [hkey]
  brokers uri' huri := (Directory.get?_erase ..).trans (if_neg huri)
  notify uri' id huri := ((hrouting.notifyTaken uri).left uri' id).trans (if_neg huri)
  index uri' huri := ((hrouting.notifyTaken uri).index uri').trans (if_neg huri)
  publishers key hkey :=
    (((i.routing.removeNotifyOn uri).publishersTaken uri).left key).trans (if_neg hkey)
  rest := rfl

/-! ## Until something is set up again -/

/-- Providers and brokers are bound to a URI by deeds that say so. -/
private theorem Vacant.perform_bindings (h : i.Vacant uri) {deed : Deed}
    (hdeed : deed.registersOn? ≠ some uri) :
    (∀ key : String × Service, key.1 = uri →
        (i.perform deed).bindings.providers.get? key = none) ∧
      (i.perform deed).bindings.broker? uri = none := by
  -- most deeds leave the bindings alone
  have hsame {i' : Instance} (hbindings : i'.bindings = i.bindings) :
      (∀ key : String × Service, key.1 = uri → i'.bindings.providers.get? key = none) ∧
        i'.bindings.broker? uri = none := by
    rw [hbindings]
    exact ⟨h.providers, h.broker⟩
  cases deed with
  | bindProvider service a =>
    refine ⟨fun key hkey => ?_, h.broker⟩
    have hother : (a.uri, service.whole) ≠ key := fun heq =>
      hdeed (by rw [← hkey, ← heq]; rfl)
    exact (Directory.get?_put ..).trans ((if_neg hother).trans (h.providers key hkey))
  | unbindProvider uri' service =>
    refine ⟨fun key hkey => (Directory.get?_erase ..).trans ?_, h.broker⟩
    -- the entry is taken, or it was not there before
    split
    · rfl
    · exact h.providers key hkey
  | unbindProvidersOn uri' =>
    refine ⟨fun key hkey => (Directory.get?_eraseIf ..).trans ?_, h.broker⟩
    -- an entry that is not there cannot be kept either
    rw [h.providers key hkey, Option.filter_none]
  | bindBroker uri' b =>
    have hother : uri' ≠ uri := fun heq => hdeed (congrArg some heq)
    exact ⟨h.providers, (Directory.get?_put ..).trans ((if_neg hother).trans h.broker)⟩
  | unbindBroker uri' =>
    refine ⟨h.providers, (Directory.get?_erase ..).trans ?_⟩
    -- the entry is taken, or it was not there before
    split
    · rfl
    · exact h.broker
  | closeEndpoint uri' =>
    refine ⟨fun key hkey => (Directory.get?_eraseIf ..).trans ?_,
      (Directory.get?_erase ..).trans ?_⟩
    · rw [h.providers key hkey, Option.filter_none]
    · split
      · rfl
      · exact h.broker
  | start s c d reporter => exact hsame (i.start_started s c d reporter).2.1
  | conclude c d id outcome => exact hsame (i.conclude_correlator c d id outcome).2.1
  | receive s via m => exact hsame (i.receive_reception s via m).bindings
  | failTransmission s uri' h failure =>
    obtain ⟨c, -, routing, events, hi, -⟩ := i.failTransmission_onlyTells s uri' h failure
    have hbindings := congrArg bindings hi
    exact hsame hbindings
  | close s =>
    obtain ⟨routing, events, hi, -⟩ := i.close_onlyTells s
    have hbindings := congrArg bindings hi
    exact hsame hbindings
  | route | correlate => exact hsame rfl

/-- A URI where nothing is stays so under a deed that sets up nothing on it. -/
theorem Vacant.perform (h : i.Vacant uri) (hrouting : i.routing.Consistent) {deed : Deed}
    (hdeed : deed.registersOn? ≠ some uri) : (i.perform deed).Vacant uri := by
  have hleads := i.perform_routing deed
  have hnotify (id : String) := hleads.notify?_eq_none hrouting hdeed (h.notify id)
  obtain ⟨hproviders, hbroker⟩ := h.perform_bindings hdeed
  exact ⟨hproviders, hbroker, hnotify, (hleads.consistent hrouting).index_eq_none hnotify,
    fun key hkey => hleads.publisher?_eq_none (hkey ▸ hdeed) (h.publishers key hkey)⟩

private theorem Vacant.after (h : i.Vacant uri) (hrouting : i.routing.Consistent)
    {deeds : List Deed}
    (hdeeds : ∀ deed ∈ deeds, deed.registersOn? ≠ some uri) : (i.after deeds).Vacant uri := by
  induction deeds generalizing i with
  | nil => exact h
  | cons deed rest ih =>
    exact ih (h.perform hrouting (hdeeds deed (.head _)))
      ((i.perform_routing deed).consistent hrouting) fun d hd => hdeeds d (.tail _ hd)

/-! ## Messages for a URI where nothing is -/

/-- The message `m` is let pass as `m'`, which is the same request, for the URI. -/
structure Admits (i : Instance) (m m' : Message) (uri : String) : Prop where
  security : i.security m = .ok m'
  same : m.header.SameRequest m'.header
  destination : m'.header.uriTo = uri

/-- Every message for the URI is dropped, unless its sender waits for an answer, and then it is
    answered that the destination is unknown. -/
structure Unattended (i : Instance) (uri : String) : Prop where
  /-- A request to a provider or a broker is answered, and nothing else happens. -/
  requests : ∀ s via m m', i.Admits m m' uri →
    m.header.intake = .request ∨ m.header.intake = .broker → m.header.isError = false →
      ∃ stage e, m.header.errorReplyStage = some stage ∧
        e.header = m.header.reply s.now stage true ∧
        e.error?.map StandardError.number = some StandardError.destinationUnknown ∧
        i.receive s via m = (i, (s.send via e).2) ∧
        ((s.send via e).1 = .ok () → (i.receive s via m).2.sentSince s = [e])
  /-- A Send or a notify changes nothing, whatever it holds, and whether or not it is let pass. -/
  dropped : ∀ s via m, m.header.intake = .send ∨ m.header.intake = .notify →
    ((∃ m', i.Admits m m' uri) ∨ ∃ failure, i.security m = .error failure) →
      i.receive s via m = (i, s)

/-- No provider is found for the URI. -/
private theorem Vacant.provider_eq (h : i.Vacant uri) {hd : Header} (huri : hd.uriTo = uri) :
    ∃ text, i.provider hd = .error (.destinationUnknown text) := by
  have hnone : i.bindings.provider? hd.uriTo hd.service = none :=
    h.providers (hd.uriTo, hd.service.whole) huri
  unfold provider
  rw [hnone]
  exact ⟨_, rfl⟩

/-- A message for a provider or a broker fails, for no one is bound. -/
private theorem Vacant.dispatch_eq (h : i.Vacant uri) (s : Site) (via : EndpointRef)
    (hadmits : i.Admits m m' uri)
    (hintake : m.header.intake = .send ∨ m.header.intake = .request ∨ m.header.intake = .broker) :
    ∃ text, i.dispatch s via m = (i, s, .error (.destinationUnknown text)) := by
  obtain ⟨text, hprovider⟩ := h.provider_eq hadmits.destination
  -- the bindings are looked up under the URI that the checked message is for
  have hbroker : i.bindings.broker? m'.header.uriTo = none := hadmits.destination ▸ h.broker
  rw [← hadmits.same.intake] at hintake
  unfold dispatch
  simp only [hadmits.security]
  rcases hintake with hintake | hintake | hintake <;> simp only [hintake]
  · exact ⟨text, by simp only [dispatchSend, hprovider]⟩
  · exact ⟨text, by simp only [dispatchRequest, hprovider]⟩
  · exact ⟨m'.header.uriTo, by simp only [dispatchBroker, hbroker]⟩

/-- Where no routes are, a notify reaches no subscriber, and takes down nothing. -/
theorem dispatch_of_unrouted (hnone : ∀ id, i.routing.notify? uri id = none)
    (hindex : i.routing.subscriptions.get? uri = none) (s : Site) (via : EndpointRef)
    (hsecurity : i.security m = .ok m') (hintake : m'.header.intake = .notify)
    (huri : m'.header.uriTo = uri) : ∃ answer, i.dispatch s via m = (i, s, answer) := by
  unfold dispatch
  simp only [hsecurity, hintake, dispatchNotify, huri]
  split
  · -- a delivery error is for every listener on the URI, and there is none
    have hlisteners : i.routing.notifyOn uri = [] := by
      simp only [Routing.notifyOn, hindex, Option.getD_none, List.filterMap_nil]
    rw [hlisteners, Routing.removeNotifyOn_eq_self hindex]
    exact ⟨_, rfl⟩
  · -- a notify is for one subscription, if it names one at all
    split
    · simp only [hnone]
      exact ⟨_, rfl⟩
    · exact ⟨_, rfl⟩

/-- A notify for a URI where nothing is reaches no subscriber. -/
private theorem Vacant.dispatch_notify (h : i.Vacant uri) (s : Site) (via : EndpointRef)
    (hadmits : i.Admits m m' uri) (hintake : m.header.intake = .notify) :
    ∃ answer, i.dispatch s via m = (i, s, answer) := by
  rw [← hadmits.same.intake] at hintake
  exact dispatch_of_unrouted h.notify h.index s via hadmits.security hintake hadmits.destination

/-- Where nothing is, messages reach nobody. -/
theorem Vacant.unattended (h : i.Vacant uri) : i.Unattended uri where
  requests s via m m' hadmits hintake herror := by
    obtain ⟨text, hdispatch⟩ := h.dispatch_eq s via hadmits (.inr hintake)
    obtain ⟨stage, hstage⟩ := Header.exists_errorReplyStage hintake herror
    -- the error that answers the request, built as the instance builds it
    let e : Message :=
      .ofError (m.header.reply s.now stage true) (Failure.destinationUnknown text).standardError
    have hreceive : i.receive s via m = (i, (s.send via e).2) := by
      simp only [receive, hdispatch, returnFailure, hstage]
      rfl
    refine ⟨stage, e, hstage, rfl, rfl, hreceive, ?_⟩
    intro hok
    rw [hreceive]
    exact (Site.sends_of_send_ok (Prod.ext hok rfl)).sentSince_eq
  dropped s via m hintake hpassed := by
    have hstage : m.header.errorReplyStage = none := Header.errorReplyStage_eq_none hintake
    have hdispatch : ∃ answer, i.dispatch s via m = (i, s, answer) := by
      -- the message is checked and then finds no one, or it does not pass the check
      rcases hpassed with ⟨m', hadmits⟩ | ⟨failure, hsecurity⟩
      · rcases hintake with hintake | hintake
        · obtain ⟨text, hdispatch⟩ := h.dispatch_eq s via hadmits (.inl hintake)
          exact ⟨_, hdispatch⟩
        · exact h.dispatch_notify s via hadmits hintake
      · exact ⟨.error failure, by simp only [dispatch, hsecurity]⟩
    -- whatever the answer is, the sender waits for none
    obtain ⟨answer, hdispatch⟩ := hdispatch
    cases answer <;> simp only [receive, hdispatch, returnFailure, hstage]

/-! ## Every history -/

/-- Whatever has been done to an instance, with any check of incoming messages, closing an endpoint
    takes everything that is bound to its URI or routed from it and leaves all else as it is; and
    whatever is done afterwards, as long as nothing is set up on the URI again, nothing is there,
    and messages for the URI reach nobody. -/
theorem closed_after (settings : Settings) (clock : Clock) (now : UInt64) (security : Security)
    (deeds : List Deed) (uri : String) :
    let i := Instance.after { create settings clock now with security := security } deeds
    (i.closeEndpoint uri).Vacant uri ∧ i.Spares (i.closeEndpoint uri) uri ∧
      ∀ later : List Deed, (∀ deed ∈ later, deed.registersOn? ≠ some uri) →
        let j := (i.closeEndpoint uri).after later
        j.Vacant uri ∧ j.Unattended uri := by
  intro i
  let fresh : Instance := { create settings clock now with security := security }
  -- deeds start from an instance without routes
  have hempty : fresh.routing.Consistent := Routing.Consistent.empty settings.separator
  have hrouting : i.routing.Consistent := consistent_after hempty deeds
  have hvacant := vacant_closeEndpoint hrouting uri
  have hclosed : (i.closeEndpoint uri).routing.Consistent :=
    (i.perform_routing (.closeEndpoint uri)).consistent hrouting
  -- what holds right after the close, and then after every later deed
  refine ⟨hvacant, spares_closeEndpoint hrouting uri, ?_⟩
  intro later hlater
  have hstill := hvacant.after hclosed hlater
  exact ⟨hstill, hstill.unattended⟩

/-- A provider, a subscriber and a publisher are on an endpoint that is closed, and another endpoint
    goes on. A Submit to the provider is answered that the destination is unknown, and a notify to
    the subscriber is dropped. -/
theorem closed_after_served :
    let a : Address := { endpoint := ⟨0, "p"⟩, uri := "p", handler := Handler.refusing "h" }
    let deeds : List Deed :=
      [.bindProvider {} a, .route (.addNotify "p" "x" "app"), .route (.addNotify "q" "x" "far"),
        .route (.addPublisher { endpoint := ⟨0, "p"⟩, uriFrom := "p" } "pub")]
    let i := Instance.after (create {} .system 0) deeds
    let j := (i.closeEndpoint "p").after [.route (.addNotify "q" "y" "far")]
    let s : Site := { now := 0, transport := { endpoints := [{ name := "e", uri := "p" }] } }
    let submit : Message :=
      { header := { uriFrom := "c", uriTo := "p", pattern := .submit, stage := some 1,
                    timestamp := 0, transaction := some 5 } }
    let notify : Message :=
      { header := { uriFrom := "b", uriTo := "p", pattern := .pubSub, stage := some 6,
                    timestamp := 0 } }
    (i.bindings.provider? "p" {} = some a ∧ i.routing.notify? "p" "x" = some "app") ∧
      j.bindings.provider? "p" {} = none ∧ j.routing.notify? "p" "x" = none ∧
      (i.closeEndpoint "p").routing.notify? "q" "x" = some "far" ∧
      (∃ e, (j.receive s ⟨0, "p"⟩ submit).2.sentSince s = [e] ∧
        e.header = submit.header.reply 0 2 true ∧
        e.error?.map StandardError.number = some StandardError.destinationUnknown) ∧
      j.receive s ⟨0, "p"⟩ notify = (j, s) := by
  intro a deeds i j s submit notify
  obtain ⟨-, hspares, hlater⟩ := closed_after {} .system 0 .unrestricted deeds "p"
  obtain ⟨hvacant, hunattended⟩ :=
    -- the later route is for another endpoint
    hlater [.route (.addNotify "q" "y" "far")] (by simp [Deed.registersOn?, Routing.Op.addsOn?])
  have hadmits (m : Message) (hm : m.header.uriTo = "p") : j.Admits m m "p" :=
    ⟨rfl, .refl m.header, hm⟩
  obtain ⟨stage, e, hstage, hheader, herror, -, hsent⟩ :=
    hunattended.requests s ⟨0, "p"⟩ submit submit (hadmits submit rfl) (.inl rfl) rfl
  -- the sender of a Submit waits at the second stage
  cases hstage
  refine ⟨⟨rfl, rfl⟩, hvacant.providers ("p", {}) rfl, hvacant.notify "x",
    hspares.notify "q" "x" (by decide), ⟨e, hsent rfl, hheader, herror⟩, ?_⟩
  exact hunattended.dropped s ⟨0, "p"⟩ notify (.inr rfl) (.inl ⟨notify, hadmits notify rfl⟩)

end Instance

end Mal
