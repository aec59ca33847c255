import Mal.Proofs.Correlation.Commuting
import Mal.Proofs.Dispatch.Called
import Mal.Proofs.Routing.Maps

/-!
# What a message leaves alone

One entry point leads to the pending interactions, to the routes and to the bindings, by a dozen
ways. What becomes of an instance when a message comes in is nevertheless one equation
(`Instance.receive_instance`): a reply is taken in by the pending interactions, and some routes are
taken down (`Instance.withdrawals`); nothing else is written. The rest follows from it.

A message is what the check of incoming messages lets pass. The check may put another message in the
place of the one that came in, and then it is the other one that counts
(`Instance.receive_rewritten`).

## Key results

- `Instance.receive_instance`: the instance after a message
- `Instance.rejectedRoute?_eq_some_iff`: the one notify route that a reply can take down
- `Instance.receive_confined`: what a message touches, and what it leaves alone
-/

namespace Mal

namespace Instance

/-- The notify route of the registration that a reply rejects. -/
def rejectedRoute? (i : Instance) (m : Message) : Option RouteKey :=
  match (i.correlator.receive m).2 with
  | .ok (some r) => r.listener.droppedRoute? r.outcome
  | _ => none

/-- What a message takes down of the routes. -/
def withdrawals (i : Instance) (m : Message) : List Routing.Op :=
  match m.header.intake with
  | .notify => if m.header.isError then [.removeNotifyOn m.header.uriTo] else []
  | .publishError => [.removePublisher (i.routing.publisherKeyFor m.header)]
  | .reply => (i.rejectedRoute? m).toList.map fun route => .removeNotify route.1 [route.2]
  | .send | .request | .broker | .unexpected => []

/-- What a message makes of the pending interactions. -/
def correlatorAfter (i : Instance) (m : Message) : Correlator :=
  if m.header.intake = .reply then (i.correlator.receive m).1 else i.correlator

variable {i : Instance} {s : Site} {via : EndpointRef} {m m' : Message}

/-! ## The instance after a message -/

/-- A reply is taken in by the pending interactions, and takes down the route of a registration that
    it rejects. -/
private theorem receiveReply_instance (i : Instance) (s : Site) (m : Message) :
    (i.receiveReply s m).1 =
      { i with
        correlator := (i.correlator.receive m).1
        routing := i.routing.after
          ((i.rejectedRoute? m).toList.map fun route => .removeNotify route.1 [route.2]) } := by
  have hreceived := i.correlator.receive_received m
  unfold receiveReply rejectedRoute?
  generalize i.correlator.receive m = result at hreceived
  obtain ⟨c, answer⟩ := result
  cases answer with
  | error failure =>
    -- a reply that is refused leaves the pending interactions as they were
    cases hreceived
    rfl
  | ok report? =>
    cases report? with
    | none => rfl
    -- the listener that is told drops its route on a rejection
    | some r =>
      simp only [report]
      cases r.listener.droppedRoute? r.outcome <;> rfl

/-- A notify that is flagged as an error takes down all notify routes of its endpoint. -/
private theorem dispatchNotify_instance (i : Instance) (s : Site) (m : Message) :
    (i.dispatchNotify s m).1 =
      { i with
        routing := i.routing.after
          (if m.header.isError then [.removeNotifyOn m.header.uriTo] else []) } := by
  unfold dispatchNotify
  split
  · -- there is an error exactly if the message is flagged as one
    next e herror =>
    have hflag : m.header.isError = true := by
      rw [← Message.isSome_error?, herror]
      rfl
    rw [if_pos hflag]
    rfl
  · next hnone =>
    have hflag : ¬ m.header.isError = true := by
      rw [← Message.isSome_error?, hnone]
      exact Bool.false_ne_true
    rw [if_neg hflag]
    -- what is no error is told to one listener, or to nobody
    split
    · dsimp only
      split <;> rfl
    · rfl

/-- The rejection of a publish takes down the route of its publisher. -/
private theorem dispatchPublishError_instance (i : Instance) (s : Site) (m : Message) :
    (i.dispatchPublishError s m).1 =
      { i with
        routing := i.routing.after [.removePublisher (i.routing.publisherKeyFor m.header)] } := by
  simp only [dispatchPublishError]
  split
  · rfl
  · -- nobody publishes under the key, so there is nothing to take down
    next hnone =>
    have hself := Routing.removePublisher_eq_self hnone
    show i = { i with routing := i.routing.removePublisher (i.routing.publisherKeyFor m.header) }
    rw [hself]

/-- All that becomes of an instance when a message comes in. -/
theorem receive_instance (s : Site) (via : EndpointRef) (hsecurity : i.security m = .ok m') :
    (i.receive s via m).1 =
      { i with
        correlator := i.correlatorAfter m'
        routing := i.routing.after (i.withdrawals m') } := by
  -- returning a failure leaves the instance as it is
  have hdispatch : (i.receive s via m).1 = (i.dispatch s via m).1 := by
    unfold receive
    generalize i.dispatch s via m = result
    obtain ⟨_, _, answer⟩ := result
    cases answer <;> rfl
  rw [hdispatch]
  unfold dispatch correlatorAfter withdrawals
  simp only [hsecurity]
  cases m'.header.intake with
  | send | request | broker | unexpected => rfl
  | reply => exact i.receiveReply_instance s m'
  | notify => exact i.dispatchNotify_instance s m'
  | publishError => exact i.dispatchPublishError_instance s m'

/-- A message that is refused makes nothing of the instance. -/
theorem receive_of_refused (s : Site) (via : EndpointRef) {failure : Failure}
    (hsecurity : i.security m = .error failure) :
    (i.receive s via m).1 = i ∧ (i.receive s via m).2.calls = s.calls := by
  constructor
  · simp only [receive, dispatch, hsecurity]
  · rw [receive_calls, called, hsecurity]
    exact List.append_nil _

/-! ## Pending interactions -/

/-- A message leaves alone what is pending under other transaction ids. -/
private theorem get?_correlatorAfter (i : Instance) {id : TransactionId}
    (hid : m.header.transaction ≠ some id) :
    (i.correlatorAfter m).exchanges.get? id = i.correlator.exchanges.get? id := by
  unfold correlatorAfter
  -- only replies concern the pending interactions
  split
  · let d : Desk := { table := i.correlator }
    have hhandles : (Desk.Op.receive m).handles? = some m.header.transaction := rfl
    have hstep : (d.step (.receive m)).1.table.exchanges.get? id = d.table.exchanges.get? id :=
      Desk.get?_step_of_handles hhandles hid.symm
    exact hstep
  · rfl

/-- It fills no mailbox but that of the exchange that is pending under its id. -/
private theorem mailbox_correlatorAfter (i : Instance) (m : Message) {serial : Nat}
    (hserial : ∀ id x, m.header.transaction = some id →
      i.correlator.exchanges.get? id = some x → x.serial ≠ serial) :
    (i.correlatorAfter m).mailbox serial = i.correlator.mailbox serial := by
  unfold correlatorAfter
  split
  · have hreceived := i.correlator.receive_received m
    generalize i.correlator.receive m = result at hreceived
    -- only a waited exchange that accepts the reply is given something
    cases hreceived with
    | dropped | refused | passed | completed => rfl
    | posted hid hx =>
      rw [Correlator.mailbox_post, if_neg (hserial _ _ hid hx)]
      rfl
  · rfl

/-! ## Routes -/

/-- An error among the replies that an interaction accepts is its last. -/
private theorem isFinished_of_error {state next : ReplyState} {h : Header}
    (herror : h.isError = true) (hstate : state.receive h = .ok next) : next.isFinished = true := by
  have haccept := ReplyState.receive_eq_ok_iff.mp hstate
  rw [show h.mark.2 = true from herror] at haccept
  unfold ReplyState.accept at haccept
  split at haccept
  -- the cases are the kinds of states, each with its way of accepting
  · split at haccept <;> cases haccept
    rfl
  · split at haccept <;> cases haccept
    rfl
  · split at haccept <;> cases haccept
    rfl
  · split at haccept <;> cases haccept
    rfl
  · cases haccept
  · split at haccept <;> cases haccept
    rfl
  · split at haccept
    · cases haccept
      rfl
    · split at haccept <;> cases haccept
      rfl
  · cases haccept

/-- Only an error is reported as the rejection of a registration. -/
private theorem isError_of_registerError {m : Message}
    (hcallback : (Outcome.ofMessage m).interactionCallback? = some .registerError) :
    m.header.isError = true := by
  cases hflag : m.header.isError with
  | true => rfl
  | false =>
    -- each pattern then reports something else
    cases hpattern : m.header.pattern <;>
      simp only [Outcome.interactionCallback?, Outcome.header_ofMessage,
        Outcome.isError_ofMessage, hpattern, hflag, Bool.false_eq_true, if_false] at hcallback
    all_goals
      first
        | cases hcallback
        | split at hcallback <;> first | cases hcallback | split at hcallback <;> cases hcallback

/-- The reply `m` completes, as an error, the asynchronous registration that a notify route belongs
    to. -/
def Rejects (i : Instance) (m : Message) (route : RouteKey) : Prop :=
  m.header.isError = true ∧ (Outcome.ofMessage m).interactionCallback? = some .registerError ∧
    ∃ id x name next, m.header.transaction = some id ∧
      i.correlator.exchanges.get? id = some x ∧ x.listener = some (.registration name route) ∧
      x.state.receive m.header = .ok next ∧ next.isFinished = true

/-- The listener of a registration drops its own route, on the rejection of the registration. -/
private theorem droppedRoute?_eq_some_iff {l : Listener} {o : Outcome} {route : RouteKey} :
    l.droppedRoute? o = some route ↔
      o.interactionCallback? = some .registerError ∧ ∃ name, l = .registration name route := by
  cases l with
  | interaction | publishing => simp [Listener.droppedRoute?]
  | registration name own =>
    simp only [Listener.droppedRoute?]
    split
    · next hcallback => simp [hcallback]
    · next hcallback => simp [hcallback]

/-- A reply takes down the notify route of the registration that it rejects, and no other. -/
theorem rejectedRoute?_eq_some_iff {route : RouteKey} :
    i.rejectedRoute? m = some route ↔ i.Rejects m route := by
  constructor
  · intro hroute
    have hreceived := i.correlator.receive_received m
    unfold rejectedRoute? at hroute
    generalize i.correlator.receive m = result at hreceived hroute
    cases hreceived with
    -- a rejection is reported to a listener
    | dropped | refused | posted => cases hroute
    | passed hid hx hstate hl | completed hid hx hstate hl =>
      obtain ⟨hcallback, name, rfl⟩ := droppedRoute?_eq_some_iff.mp hroute
      have herror := isError_of_registerError hcallback
      exact ⟨herror, hcallback, _, _, name, _, hid, hx, hl, hstate,
        isFinished_of_error herror hstate⟩
  · -- back, the report is what the table gives for such a reply
    rintro ⟨_, hcallback, id, x, name, next, hid, hx, hl, hstate, _⟩
    simp only [rejectedRoute?, Correlator.receive, hid, hx, hstate, hl]
    exact droppedRoute?_eq_some_iff.mpr ⟨hcallback, name, rfl⟩

/-- The message takes down the notify route of a subscription on an endpoint. -/
def TakesDownNotify (i : Instance) (m : Message) (uri id : String) : Prop :=
  (m.header.intake = .notify ∧ m.header.isError = true ∧ uri = m.header.uriTo) ∨
    (m.header.intake = .reply ∧ i.Rejects m (uri, id))

/-- The message takes down the route of a publisher. -/
def TakesDownPublisher (i : Instance) (m : Message) (key : PublisherKey) : Prop :=
  m.header.intake = .publishError ∧ key = i.routing.publisherKeyFor m.header

/-- At most one operation takes routes down. -/
private theorem length_withdrawals (i : Instance) (m : Message) : (i.withdrawals m).length ≤ 1 := by
  unfold withdrawals
  cases m.header.intake with
  | send | request | broker | unexpected => exact Nat.zero_le _
  | publishError => exact Nat.le_refl _
  | notify => cases m.header.isError <;> simp
  | reply => cases i.rejectedRoute? m <;> simp

/-- Of the notify routes, those stay that the message does not take down. -/
private theorem notify?_withdrawals (hrouting : i.routing.Consistent) (m : Message)
    (uri id : String) :
    (i.TakesDownNotify m uri id → (i.routing.after (i.withdrawals m)).notify? uri id = none) ∧
      (¬ i.TakesDownNotify m uri id →
        (i.routing.after (i.withdrawals m)).notify? uri id = i.routing.notify? uri id) := by
  -- what is found last was written last, and each kind of message writes where it says
  rw [hrouting.notify?_after]
  unfold TakesDownNotify withdrawals Routing.lastWritten
  cases hintake : m.header.intake with
  | send | request | broker | unexpected => simp
  | publishError => simp [Routing.Op.notifyWrite?]
  | notify =>
    -- an error among the notifies takes down all routes of its own URI
    by_cases herror : m.header.isError = true <;> by_cases huri : uri = m.header.uriTo <;>
      simp [Routing.Op.notifyWrite?, herror, huri]
  | reply =>
    rw [← rejectedRoute?_eq_some_iff]
    cases i.rejectedRoute? m with
    | none => simp
    | some route =>
      obtain ⟨uri', id'⟩ := route
      -- the rejection takes down the one route of its registration
      by_cases hkey : uri = uri' ∧ id = id'
      · simp [Routing.Op.notifyWrite?, hkey]
      · have hother : ¬ (uri' = uri ∧ id' = id) := fun heq => hkey ⟨heq.1.symm, heq.2.symm⟩
        simp [Routing.Op.notifyWrite?, hkey, hother]

/-- So do the publishers. -/
private theorem publisher?_withdrawals (i : Instance) (m : Message) (key : PublisherKey) :
    (i.TakesDownPublisher m key → (i.routing.after (i.withdrawals m)).publisher? key = none) ∧
      (¬ i.TakesDownPublisher m key →
        (i.routing.after (i.withdrawals m)).publisher? key = i.routing.publisher? key) := by
  rw [Routing.publisher?_after]
  unfold TakesDownPublisher withdrawals Routing.lastWritten
  cases hintake : m.header.intake with
  | send | request | broker | unexpected => simp
  | notify => cases m.header.isError <;> simp [Routing.Op.publisherWrite?]
  | reply => cases i.rejectedRoute? m <;> simp [Routing.Op.publisherWrite?]
  | publishError =>
    by_cases hkey : key = i.routing.publisherKeyFor m.header <;>
      simp [Routing.Op.publisherWrite?, hkey]

/-! ## Handlers -/

/-- A message is served by nobody but the provider that is bound to its URI, for every operation of
    its service. -/
private theorem mem_providerCalls {e : Event} (he : e ∈ i.providerCalls m) :
    ∃ a, e = .served a m ∧ ∀ operation,
      i.bindings.provider? m.header.uriTo (m.header.service.withOperation operation) = some a := by
  unfold providerCalls at he
  split at he
  · next a hprovider =>
    have hbound := provider_eq_ok hprovider
    -- look-ups leave the operation number out
    exact ⟨a, List.mem_singleton.mp he, fun operation => hbound⟩
  · cases he

/-- A broker is asked only if it is the one that is bound to the URI of the message. -/
private theorem mem_brokerCalls {e : Event} (he : e ∈ i.brokerCalls m) :
    ∃ b request, e = .asked b m.header request ∧
      i.bindings.broker? m.header.uriTo = some b := by
  unfold brokerCalls at he
  split at he
  · next b request hbroker _ => exact ⟨b, request, List.mem_singleton.mp he, hbroker⟩
  · cases he

/-- At most one handler is called. -/
private theorem length_called (i : Instance) (m : Message) : (i.called m).length ≤ 1 := by
  unfold called
  split
  · exact Nat.zero_le _
  · split
    · -- a Send and the start of an interaction go to a provider, a request of PubSub to a broker
      unfold providerCalls
      split <;> simp
    · unfold providerCalls
      split <;> simp
    · unfold brokerCalls
      split <;> simp
    all_goals exact Nat.zero_le _

/-- Whoever is called is bound where the message goes. -/
private theorem mem_called {e : Event} (hsecurity : i.security m = .ok m') (he : e ∈ i.called m) :
    (∃ a, e = .served a m' ∧ ∀ operation,
      i.bindings.provider? m'.header.uriTo (m'.header.service.withOperation operation) = some a) ∨
    ∃ b request, e = .asked b m'.header request ∧
      i.bindings.broker? m'.header.uriTo = some b := by
  unfold called at he
  simp only [hsecurity] at he
  split at he
  · exact .inl (mem_providerCalls he)
  · exact .inl (mem_providerCalls he)
  · exact .inr (mem_brokerCalls he)
  all_goals cases he

/-! ## All that a message touches -/

/-- What the message `m`, let pass as it is, touches of an instance, and what it leaves alone. -/
structure Confined (i : Instance) (s : Site) (m : Message) (i' : Instance) (s' : Site) : Prop where
  /-- Nothing changes but pending interactions and routes; all bindings stay. -/
  rest : i' = { i with correlator := i'.correlator, routing := i'.routing }
  /-- What is pending under other ids stays. -/
  exchanges : ∀ id, m.header.transaction ≠ some id →
    i'.correlator.exchanges.get? id = i.correlator.exchanges.get? id
  /-- So does what waits for the initiators of all other interactions. -/
  mailboxes : ∀ serial, (∀ id x, m.header.transaction = some id →
      i.correlator.exchanges.get? id = some x → x.serial ≠ serial) →
    i'.correlator.mailbox serial = i.correlator.mailbox serial
  /-- Routes are taken down by at most one operation. -/
  routing : i'.routing = i.routing.after (i.withdrawals m) ∧ (i.withdrawals m).length ≤ 1
  notify : ∀ uri id, (i.TakesDownNotify m uri id → i'.routing.notify? uri id = none) ∧
    (¬ i.TakesDownNotify m uri id → i'.routing.notify? uri id = i.routing.notify? uri id)
  publishers : ∀ key, (i.TakesDownPublisher m key → i'.routing.publisher? key = none) ∧
    (¬ i.TakesDownPublisher m key → i'.routing.publisher? key = i.routing.publisher? key)
  /-- At most one handler is called, and none that is not bound where the message goes. -/
  called : ∃ called, s'.calls = s.calls ++ called ∧ called.length ≤ 1 ∧
    (∀ a e, .served a e ∈ called → e = m ∧ ∀ operation,
      i.bindings.provider? m.header.uriTo (m.header.service.withOperation operation) = some a) ∧
    ∀ b h request, .asked b h request ∈ called → i.bindings.broker? m.header.uriTo = some b

/-- In every instance whose routing table came about by its operations, a message that comes in
    touches nothing but what it concerns. A message that is refused changes nothing and calls
    nobody. -/
theorem receive_confined (i : Instance) (s : Site) (via : EndpointRef) (m : Message)
    {separator : String} {ops : List Routing.Op}
    (hrouting : i.routing = Routing.after { separator := separator } ops) :
    (∀ failure, i.security m = .error failure →
      (i.receive s via m).1 = i ∧ (i.receive s via m).2.calls = s.calls) ∧
    ∀ m', i.security m = .ok m' →
      i.Confined s m' (i.receive s via m).1 (i.receive s via m).2 := by
  -- index and routes agree in a table that its operations have made
  have hconsistent : i.routing.Consistent := hrouting ▸ Routing.consistent_after separator ops
  refine ⟨fun failure hsecurity => receive_of_refused s via hsecurity, fun m' hsecurity => ?_⟩
  have hinstance := receive_instance s via hsecurity
  constructor
  · rw [hinstance]
  · rw [hinstance]
    exact fun id => i.get?_correlatorAfter
  · rw [hinstance]
    exact fun serial => i.mailbox_correlatorAfter m'
  · rw [hinstance]
    exact ⟨rfl, i.length_withdrawals m'⟩
  · rw [hinstance]
    exact notify?_withdrawals hconsistent m'
  · rw [hinstance]
    exact i.publisher?_withdrawals m'
  · refine ⟨i.called m, receive_calls i s via m, i.length_called m, ?_, ?_⟩
    · -- a provider was called
      intro a e hmem
      obtain ⟨_, heq, hbound⟩ | ⟨_, _, heq, _⟩ := mem_called hsecurity hmem
      · cases heq
        exact ⟨rfl, hbound⟩
      · cases heq
    · -- a broker was asked
      intro b h request hmem
      obtain ⟨_, heq, _⟩ | ⟨_, _, heq, hbound⟩ := mem_called hsecurity hmem
      · cases heq
      · cases heq
        exact hbound

/-- A registration is rejected, while another one and a Submit are pending. -/
theorem receive_confined_rejected :
    let ops := [Routing.Op.addNotify "c" "x" "app", .addNotify "c" "y" "other"]
    let fresh := Instance.create {} (.manual 0) 0
    let i : Instance :=
      { fresh with
        routing := Routing.after { separator := "::" } ops
        correlator := (fresh.correlator.add 1 .pubSub (.single Stage.registerAck false)
          (some (.registration "app" ("c", "x")))).add 2 .submit (.single Stage.submitAck false)
            none }
    let s : Site := { now := 0 }
    let m : Message :=
      { header := { uriFrom := "b", uriTo := "c", pattern := .pubSub, stage := some 2,
                    timestamp := 0, transaction := some 1, isError := true } }
    let i' := (i.receive s ⟨0, "c"⟩ m).1
    i'.routing.notify? "c" "x" = none ∧ i'.routing.notify? "c" "y" = some "other" ∧
      i'.correlator.exchanges.get? 1 = none ∧
      i'.correlator.exchanges.get? 2 = i.correlator.exchanges.get? 2 ∧
      i'.bindings = i.bindings ∧ (i.receive s ⟨0, "c"⟩ m).2.calls = [] := by
  intro ops fresh i s m i'
  have hrouting : i.routing = Routing.after { separator := "::" } ops := rfl
  obtain ⟨_, hpassed⟩ := receive_confined i s ⟨0, "c"⟩ m hrouting
  have hconfined := hpassed m rfl
  -- the registration under id 1 is the one that set up this route
  have htaken : i.TakesDownNotify m "c" "x" :=
    .inr ⟨rfl, rfl, rfl, 1, _, "app", _, rfl, rfl, rfl, rfl, rfl⟩
  have hkept : i'.routing.notify? "c" "y" = some "other" := rfl
  have hother : m.header.transaction ≠ some 2 := by decide
  refine ⟨(hconfined.notify "c" "x").1 htaken, hkept, rfl, hconfined.exchanges 2 hother, ?_, rfl⟩
  rw [show i'.bindings = _ from congrArg Instance.bindings hconfined.rest]

/-- A check that gives every message the transaction id 1 makes a reply with another id complete the
    Submit that is pending under 1. -/
theorem receive_rewritten :
    let fresh := Instance.create {} (.manual 0) 0
    let i : Instance :=
      { fresh with
        security := .rewriting fun h => { h with transaction := some 1 }
        correlator := fresh.correlator.add 1 .submit (.single Stage.submitAck false)
          (some (.interaction "app")) }
    let m : Message :=
      { header := { uriFrom := "p", uriTo := "c", pattern := .submit, stage := some 2,
                    timestamp := 0, transaction := some 7 } }
    m.header.transaction = some 7 ∧ i.correlator.contains 1 = true ∧
      (i.receive { now := 0 } ⟨0, "c"⟩ m).1.correlator.contains 1 = false :=
  ⟨rfl, rfl, rfl⟩

end Instance

end Mal
