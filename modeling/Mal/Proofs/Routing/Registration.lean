import Mal.Proofs.Correlation.Sole
import Mal.Proofs.Network.Network
import Mal.Proofs.Reactions
import Mal.Proofs.Routing.Routes
import Mal.Proofs.Starting

/-!
# Registrations that fail

A registration sets up its route before its first message is sent, so when it fails the route has to
go. Three hands take it down: the initiator that waits (`Instance.conclude`), the start that could
not send (`Instance.start`), and the listener of a registration that is told of the rejection
(`Instance.report`). The listener of a publish-register that nobody waits for owns no route, so
after its rejection the route stays.

Between the start and the failure anything may happen to the pending interactions. What is used of
it is that an interaction with one reply is as it was started until it is over
(`Desk.awaits_after`).

## Key results

- `Instance.Ends.reports`: whatever ends a listened interaction is reported to its listener
- `Instance.Ends.collected`: whatever ends a waited one is what the initiator finds
- `Instance.failed_route?_iff`: when a registration that failed leaves its route
-/

namespace Mal

namespace Instance

variable {i i' : Instance} {s : Site} {via : EndpointRef} {m m' : Message} {id : TransactionId}
  {x : Exchange} {l : Listener}

/-! ## The end of an interaction -/

/-- A reply, as far as the instance is concerned. -/
theorem receive_reply (via : EndpointRef) (hsecurity : i.security m = .ok m')
    (hintake : m'.header.intake = .reply) :
    (i.receive s via m).1 = (i.receiveReply s m').1 := by
  simp only [receive, dispatch, hsecurity, hintake]
  generalize i.receiveReply s m' = result
  obtain ⟨i', s', answer⟩ := result
  cases answer <;> rfl

/-- If an interaction is over after a message came in, the message was its last reply. -/
private theorem receive_over (hx : i.correlator.exchanges.get? id = some x)
    (hopen : x.state.isFinished = false)
    (hover : ¬ (i.receive s via m).1.correlator.IsOpen x.serial) :
    ∃ m' next, i.security m = .ok m' ∧ m'.header.transaction = some id ∧
      x.state.receive m'.header = .ok next ∧ next.isFinished = true ∧
      (i.receive s via m).1 = (i.receiveReply s m').1 ∧
      (i.receive s via m).1.correlator = (i.correlator.receive m').1 := by
  rcases (i.receive_reception s via m).correlator with hsame | ⟨m', hsecurity, hintake, hcorrelator⟩
  · -- what is no reply leaves everything pending
    rw [hsame] at hover
    exact absurd ⟨id, x, hx, rfl, hopen⟩ hover
  · -- a reply that ends it is the last that its state accepts
    rw [hcorrelator] at hover
    obtain ⟨hid, next, hstate, hfinished⟩ := Correlator.receive_ended hx hopen hover
    exact ⟨m', next, hsecurity, hid, hstate, hfinished, receive_reply via hsecurity hintake,
      hcorrelator⟩

/-- The correlator after a failure that ends an interaction. -/
private theorem failExchange_correlator (i : Instance) (s : Site) (h : Header) (failure : Failure) :
    (i.failExchange s h failure).1.correlator = (i.correlator.fail s.now h failure).1 := by
  obtain ⟨routing, events, hi, -⟩ := reportAll_onlyTells
    { i with correlator := (i.correlator.fail s.now h failure).1 } s
    (i.correlator.fail s.now h failure).2.toList
  exact congrArg Instance.correlator hi

/-- If an interaction is over after a failure of the transport, the failure was about its first
    message. -/
private theorem failTransmission_over {uri : String} {h : Header} {failure : Failure}
    (hx : i.correlator.exchanges.get? id = some x) (hopen : x.state.isFinished = false)
    (hover : ¬ (i.failTransmission s uri (some h) failure).1.correlator.IsOpen x.serial) :
    h.isInitial = true ∧ h.transaction = some id ∧
      (i.failTransmission s uri (some h) failure).1 = (i.failExchange s h failure).1 := by
  -- the interaction is open before the failure
  have hstays : i.correlator.IsOpen x.serial := ⟨id, x, hx, rfl, hopen⟩
  simp only [failTransmission] at hover ⊢
  split at hover
  · -- a publish has no interaction that could end
    split at hover <;> exact absurd hstays hover
  next hpublish =>
  split at hover
  · next hinitial =>
    rw [failExchange_correlator] at hover
    rw [if_neg hpublish, if_pos hinitial]
    exact ⟨hinitial.1, Correlator.fail_ended hx hopen hover, rfl⟩
  · -- a failure about no initial message is about no interaction
    exact absurd hstays hover

/-- When an instance closes, every listened interaction that is not over is told of it. -/
private theorem mem_close_reports {stage : Stage} (hx : i.correlator.exchanges.get? id = some x)
    (hl : x.listener = some l) (hstage : x.state.pendingStage = some stage) (now : UInt64) :
    ⟨x.serial, l, .error (Correlator.errorHeader now id x stage none)
      Correlator.closed.standardError⟩ ∈ (i.correlator.shutdown now).2 := by
  rw [Correlator.shutdown_reports]
  refine List.mem_filterMap.2 ⟨(id, x), (Directory.mem_entries ..).2 hx, ?_⟩
  simp only [Correlator.shutdownReport?, hstage, Option.bind_some, Correlator.errorReport, hl,
    Option.map_some]

/-- The ways in which a PubSub interaction that was not over ends on an error, with the instance
    afterwards. -/
inductive Ends (i : Instance) (s : Site) (serial : Nat) : Instance → Prop where
  /-- An error comes in as the reply. -/
  | rejected {via : EndpointRef} {m m' : Message} (hsecurity : i.security m = .ok m')
      (hpattern : m'.header.pattern = .pubSub) (herror : m'.header.isError = true)
      (hopen : i.correlator.IsOpen serial)
      (hover : ¬ (i.receive s via m).1.correlator.IsOpen serial) :
      Ends i s serial (i.receive s via m).1
  /-- The transport could not deliver the first message. -/
  | undelivered {uri : String} {h : Header} {failure : Failure} (hpattern : h.pattern = .pubSub)
      (hopen : i.correlator.IsOpen serial)
      (hover : ¬ (i.failTransmission s uri (some h) failure).1.correlator.IsOpen serial) :
      Ends i s serial (i.failTransmission s uri (some h) failure).1
  | closed (hopen : i.correlator.IsOpen serial) : Ends i s serial (i.close s).1

private theorem Ends.isOpen {serial : Nat} (hends : i.Ends s serial i') :
    i.correlator.IsOpen serial := by
  cases hends with
  | rejected _ _ _ hopen | undelivered _ hopen | closed hopen => exact hopen

/-- Such an end is one operation on what is pending, and brings the interaction its last outcome, an
    error. -/
private theorem Ends.step {y : Node} (hends : y.inst.Ends s x.serial i')
    (hx : y.inst.correlator.exchanges.get? id = some x) (hopen : x.state.isFinished = false) :
    ∃ op failure, Node.desk { y with inst := i' } = (y.desk.step op).1 ∧
      y.desk.taking x.serial op = [] ∧ x.arrival? id op = some ⟨.error failure, true⟩ := by
  -- by what ends it; each is one operation, and what it brings is an error
  cases hends with
  | @rejected via m m' hsecurity _ herror _ hover =>
    obtain ⟨m'', next, hsecurity', hid, hstate, hfinished, -, hcorrelator⟩ :=
      receive_over hx hopen hover
    obtain rfl : m' = m'' := Except.ok.inj (hsecurity.symm.trans hsecurity')
    obtain ⟨e, he⟩ := Option.isSome_iff_exists.1 (m'.isSome_error?.trans herror)
    refine ⟨.receive m', .standard e, ?_, rfl, ?_⟩
    · -- the reply is brought with its error, as the last
      simp only [Node.desk, hcorrelator, Desk.step]
    · simp only [Exchange.arrival?, hid, if_true, hstate, Correlator.waited, he, hfinished]
  | @undelivered uri h failure _ _ hover =>
    obtain ⟨-, hid, hfailed⟩ := failTransmission_over hx hopen hover
    -- the failure is brought as it is
    refine ⟨.fail s.now h failure, failure, ?_, rfl, ?_⟩
    · simp only [Node.desk, hfailed, failExchange_correlator, Desk.step]
    · simp only [Exchange.arrival?, hid, hopen, and_self, if_true]
  | closed =>
    obtain ⟨routing, events, hi, -⟩ := y.inst.close_onlyTells s
    refine ⟨.shutdown s.now, Correlator.closed, ?_, rfl, ?_⟩
    · -- the shutdown brings the same to all
      simp only [Node.desk, hi, Desk.step]
    · simp only [Exchange.arrival?, hopen, if_true]

/-- The initiator that waits for an interaction with one reply finds the error that ended it,
    however late it looks. -/
theorem Ends.collected {y z : Node} {later : List Desk.Op} {outcome : Except Failure Message}
    {k : Correlator} (hd : y.desk.Sound) (hawaits : y.desk.Awaits id x) (hl : x.listener = none)
    (hends : y.inst.Ends s x.serial i')
    (hz : z.desk = (Node.desk { y with inst := i' }).after later)
    (hcollect : z.inst.correlator.collect ⟨id, x.serial⟩ = some (outcome, k)) :
    ∃ failure, outcome = .error failure := by
  obtain ⟨op, failure, hdesk, htaking, harrival⟩ := hends.step hawaits.pending hawaits.isOpen
  rw [hdesk] at hz
  have hcollect' : z.desk.table.collect ⟨id, x.serial⟩ = some (outcome, k) := hcollect
  rw [hz] at hcollect'
  exact ⟨failure, Desk.collected_after hd hawaits hl htaking harrival hcollect'⟩

end Instance

/-! ## The rejection of a registration -/

/-- An error of PubSub tells of a rejected registration, unless it is at the stage of a
    deregistration or of a notify. -/
private theorem Outcome.callback_registerError {o : Outcome} (herror : o.isError = true)
    (hpattern : o.header.pattern = .pubSub)
    (hderegister : o.header.stageOrZero ≠ Stage.deregisterAck)
    (hnotify : o.header.stageOrZero ≠ Stage.notify) :
    o.interactionCallback? = some .registerError := by
  simp only [interactionCallback?, hpattern, if_neg hderegister, if_neg hnotify, herror, if_true]

/-- At the stage of the acknowledgement it always does. -/
private theorem Outcome.callback_of_registerAck {o : Outcome} (herror : o.isError = true)
    (hpattern : o.header.pattern = .pubSub) (hstage : o.header.stageOrZero = Stage.registerAck) :
    o.interactionCallback? = some .registerError :=
  callback_registerError herror hpattern (by rw [hstage]; decide) (by rw [hstage]; decide)

/-- Such an error is made of the first message of an interaction while the acknowledgement of a
    registration is awaited. -/
private theorem Correlator.errorHeader_registration (now : UInt64) (id : TransactionId)
    (x : Exchange) {h : Header} (hpattern : h.pattern = .pubSub) (hinitial : h.isInitial = true) :
    let e := errorHeader now id x Stage.registerAck (some h)
    e.pattern = .pubSub ∧ e.stageOrZero ≠ Stage.deregisterAck ∧ e.stageOrZero ≠ Stage.notify := by
  intro e
  -- the header is kept if it can be the answer, else one is made
  by_cases hkept : h.isError ∨ h.stageOrZero = Stage.registerAck
  · -- the header is kept, and its stage is one that a broker serves
    have he : e = { h with isError := true } := if_pos hkept
    have hstage : h.stage ∈ [some Stage.register, some Stage.publishRegister, some Stage.publish,
        some Stage.deregister, some Stage.publishDeregister] := by
      simpa only [Header.isInitial, hpattern, decide_eq_true_eq] using hinitial
    rw [he]
    refine ⟨hpattern, ?_⟩
    simp only [Header.stageOrZero]
    simp only [List.mem_cons, List.not_mem_nil, or_false] at hstage
    rcases hstage with hs | hs | hs | hs | hs <;> rw [hs] <;> decide
  · have he : e = h.reply now Stage.registerAck true := if_neg hkept
    have hack : e.stageOrZero = Stage.registerAck := by rw [he]; rfl
    -- the header is made for the stage of the acknowledgement
    refine ⟨by rw [he]; exact hpattern, ?_, ?_⟩
    · rw [hack]; decide
    · rw [hack]; decide

namespace Instance

variable {i i' : Instance} {s : Site} {id : TransactionId} {x : Exchange} {l : Listener}

/-- Whatever ends a listened interaction of PubSub on an error, it is among what is then reported,
    and the listener is told of a rejected registration if it was one. -/
theorem Ends.reports (hends : i.Ends s x.serial i')
    (hx : i.correlator.exchanges.get? id = some x) (hl : x.listener = some l)
    (hpubSub : x.pattern = .pubSub) {stage : Stage} (hstage : x.state.pendingStage = some stage) :
    ∃ (j : Instance) (rs : List Report) (o : Outcome), i' = (j.reportAll s rs).1 ∧
      j.routing = i.routing ∧ ⟨x.serial, l, o⟩ ∈ rs ∧
      (x.state = .single Stage.registerAck false →
        o.interactionCallback? = some .registerError) := by
  have hunfinished : x.state.isFinished = false := by
    rw [ReplyState.isFinished, hstage]
    rfl
  -- the awaited stage of a registration is that of its acknowledgement
  have hawaited (hstate : x.state = .single Stage.registerAck false) :
      stage = Stage.registerAck := by
    rw [hstate] at hstage
    exact (Option.some.inj hstage).symm
  cases hends with
  | @rejected via m m' hsecurity hpattern herror _ hover =>
    obtain ⟨m'', next, hsecurity', hid, hreceive, hfinished, hreply, -⟩ :=
      receive_over hx hunfinished hover
    obtain rfl : m' = m'' := Except.ok.inj (hsecurity.symm.trans hsecurity')
    -- the listener is told the reply
    simp only [receiveReply, Correlator.receive, hid, hx, hreceive, hl, hfinished,
      if_true] at hreply
    refine ⟨_, [_], .ofMessage m', hreply, rfl, .head _, ?_⟩
    intro hstate
    -- the registration accepts nothing but its acknowledgement
    have hack : m'.header.stageOrZero = Stage.registerAck := by
      rw [hstate, ReplyState.receive_eq_ok_iff] at hreceive
      simp only [ReplyState.accept] at hreceive
      split at hreceive
      · cases hreceive
      · next hs => simpa [Header.mark] using hs
    refine Outcome.callback_of_registerAck ?_ ?_ ?_
    · rw [Outcome.isError_ofMessage, herror]
    · rw [Outcome.header_ofMessage, hpattern]
    · rw [Outcome.header_ofMessage, hack]
  | @undelivered uri h failure hpattern _ hover =>
    obtain ⟨hinitial, hid, hfailed⟩ := failTransmission_over hx hunfinished hover
    -- the listener is told an error that is made for the failure
    simp only [failExchange, Correlator.fail, hid, hx, ReplyState.fail, hstage, Option.map_some, hl,
      Correlator.errorReport] at hfailed
    refine ⟨_, [_], _, hfailed, rfl, .head _, ?_⟩
    intro hstate
    obtain rfl := hawaited hstate
    obtain ⟨hp, hderegister, hnotify⟩ :=
      Correlator.errorHeader_registration s.now id x hpattern hinitial
    exact Outcome.callback_registerError rfl hp hderegister hnotify
  | closed =>
    -- the listener is one of those who are told of the shutdown
    refine ⟨_, _, _, rfl, rfl, mem_close_reports hx hl hstage s.now, ?_⟩
    intro hstate
    obtain rfl := hawaited hstate
    exact Outcome.callback_of_registerAck rfl hpubSub rfl

/-! ## Starting a registration -/

/-- What was made for an interaction that was started is pending when the start is over. -/
private theorem initiate_of_start {c : Consumer} {d : Demand} {reporter : Option String}
    (hstart : (i.start s c d reporter).2.2 = .ok id) :
    i.correlator.initiate (i.clock.seconds s.now) d.pattern d.stage
        (reporter.map fun r => d.listener c.addressing r) =
      ((i.start s c d reporter).1.correlator, .ok id) := by
  obtain ⟨hlaunched, -⟩ := i.start_started s c d reporter
  rw [hstart] at hlaunched
  generalize (i.start s c d reporter).1.correlator = after at hlaunched ⊢
  generalize (i.start s c d reporter).2.1 = s' at hlaunched
  -- of the ways to start only one succeeds
  cases hlaunched with
  | sent hinitiate => exact hinitiate

/-- So are its routes. -/
theorem routing_of_start {c : Consumer} {d : Demand} {reporter : Option String}
    (hstart : (i.start s c d reporter).2.2 = .ok id) :
    (i.start s c d reporter).1.routing = d.prepare c.addressing i.routing := by
  rw [start_routing, hstart]

/-- A start that succeeds is one operation on what is pending. -/
private theorem start_desk {x : Node} {c : Consumer} {d : Demand} {reporter : Option String}
    (hstart : (x.inst.start s c d reporter).2.2 = .ok id) :
    Node.desk { x with inst := (x.inst.start s c d reporter).1 } =
      (x.desk.step (.initiate (x.inst.clock.seconds s.now) d.pattern d.stage
        (reporter.map fun r => d.listener c.addressing r))).1 := by
  simp only [Desk.step, Node.desk, initiate_of_start hstart]

/-- An interaction with one reply that was started waits for its reply until it is over, whatever is
    done with the pending interactions meanwhile. -/
private theorem start_awaits {x y : Node} {c : Consumer} {d : Demand} {reporter : Option String}
    {st : ReplyState} {meanwhile : List Desk.Op} (hsound : x.desk.Sound)
    (hcoherent : x.desk.Coherent) (hstart : (x.inst.start s c d reporter).2.2 = .ok id)
    (hinitial : ReplyState.initial d.pattern d.stage = .ok (some st)) (hsole : st.IsSole)
    (hy : y.desk = (Node.desk { x with inst := (x.inst.start s c d reporter).1 }).after meanwhile)
    (hopen : y.inst.correlator.IsOpen x.inst.correlator.made) :
    y.desk.Awaits id ⟨x.inst.correlator.made, d.pattern, st,
      reporter.map fun r => d.listener c.addressing r⟩ := by
  -- the start has just made the exchange, under a serial number that had no mailbox
  have hdesk := start_desk hstart
  obtain ⟨a, state?, hstate, -, hadd⟩ := Correlator.initiate_eq_ok (initiate_of_start hstart)
  obtain rfl : state? = some st := Except.ok.inj (hstate.symm.trans hinitial)
  have hawaits : (Node.desk { x with inst := (x.inst.start s c d reporter).1 }).Awaits id
      ⟨x.inst.correlator.made, d.pattern, st, reporter.map fun r => d.listener c.addressing r⟩ :=
    { pending := by
        rw [show Desk.table _ = _ from hadd, Correlator.add_get?, if_pos rfl]
      isOpen := by
        -- it has begun, so it is not over
        obtain ⟨stage, hstage⟩ := ReplyState.exists_stage_of_initial hinitial
        rw [hstage] at hinitial
        exact (ReplyState.underWay_of_initial hinitial).isFinished
      isSole := hsole
      empty := fun _ => hdesk ▸ hcoherent.step_box_empty hsound _ (Nat.le_refl _) }
  have hafter := Desk.awaits_after (hdesk ▸ hsound.step _) hawaits meanwhile
  rw [← hy] at hafter
  exact hafter.resolve_right (not_not_intro hopen)

end Instance

/-! ## What is left of a registration that failed -/

/-- The ways in which an interaction fails that was started with this consumer, demand and reporter,
    with the instance afterwards. The ticket is the one that the initiator has, or would have.
    Without a reporter the initiator waits, and draws the consequences of what it gets. -/
inductive Node.Fails (y : Node) (s : Site) (c : Consumer) (d : Demand) (reporter : Option String)
    (t : Ticket) : Instance → Prop where
  /-- The reporter is told of the end. -/
  | reported {i' : Instance} (hreports : reporter.isSome = true)
      (hends : y.inst.Ends s t.serial i') : y.Fails s c d reporter t i'
  /-- The initiator looks for the answer some time after the end. -/
  | answered {i' : Instance} {z : Node} {later : List Desk.Op} {outcome : Except Failure Message}
      {k : Correlator} (hwaits : reporter = none) (hends : y.inst.Ends s t.serial i')
      (hz : z.desk = (Node.desk { y with inst := i' }).after later)
      (hcollect : z.inst.correlator.collect t = some (outcome, k)) :
      y.Fails s c d reporter t
        ({ z.inst with correlator := k }.conclude c d t.transaction outcome).1
  /-- The initiator has waited too long. -/
  | expired (milliseconds : UInt64) (hwaits : reporter = none)
      (hempty : y.inst.correlator.collect t = none) :
      y.Fails s c d reporter t
        ({ y.inst with correlator := (y.inst.correlator.expire t milliseconds).1 }.conclude c d
          t.transaction (.error (y.inst.correlator.expire t milliseconds).2)).1
  /-- The initiator cannot begin to wait: the interaction was ended and forgotten before. -/
  | unawaited {failure : Failure} (hwaits : reporter = none)
      (hawait : y.inst.correlator.await t.transaction = .error failure) :
      y.Fails s c d reporter t (y.inst.conclude c d t.transaction (.error failure)).1

namespace Instance

/-- An initiator that gets an error leaves no route. -/
theorem route?_conclude_error (i : Instance) (c : Consumer) (d : Demand) (id : TransactionId)
    (failure : Failure) :
    d.route? c.addressing (i.conclude c d id (.error failure)).1.routing = none :=
  Demand.route?_withdraw ..

/-- When a registration fails, its route is gone afterwards, unless it is a publish-register that is
    reported to a listener: then the route stays as it was.

    The registration is started on an instance after any run, and fails on one that has come about
    from it by any operations on the pending interactions; everything else of the two may differ. -/
theorem failed_route?_iff {x y : Node} {allocator : Allocator} {patience : UInt64}
    {earlier meanwhile : List Desk.Op} {s s' : Site} {c : Consumer} {d : Demand}
    {reporter : Option String} {id : TransactionId} {i' : Instance}
    (hx : x.desk = (Desk.new allocator patience).after earlier)
    (hstart : (x.inst.start s c d reporter).2.2 = .ok id)
    (hy : y.desk = (Node.desk { x with inst := (x.inst.start s c d reporter).1 }).after meanwhile)
    (hfails : y.Fails s' c d reporter ⟨id, x.inst.correlator.made⟩ i') :
    d.route? c.addressing (x.inst.start s c d reporter).1.routing = d.routed? ∧
      (d.route? c.addressing i'.routing = none ↔
        ¬ (reporter.isSome = true ∧ d.stage = some Stage.publishRegister) ∨
          d.route? c.addressing y.inst.routing = none) := by
  -- what is known of every desk is known of these
  have hsound : x.desk.Sound := hx ▸ (Desk.sound_new allocator patience).after earlier
  have hcoherent : x.desk.Coherent :=
    hx ▸ (Desk.Coherent.new allocator patience).after (Desk.sound_new allocator patience) earlier
  have hysound : y.desk.Sound := by
    rw [hy, start_desk hstart]
    exact (hsound.step _).after meanwhile
  have hawaits {st : ReplyState} (hinitial : ReplyState.initial d.pattern d.stage = .ok (some st))
      (hsole : st.IsSole) (hopen : y.inst.correlator.IsOpen x.inst.correlator.made) :=
    start_awaits hsound hcoherent hstart hinitial hsole hy hopen
  refine ⟨by rw [routing_of_start hstart, Demand.route?_prepare], ?_⟩
  cases hfails with
  | expired _ hwaits | unawaited hwaits =>
    -- the initiator withdraws whatever it asked for
    subst hwaits
    exact iff_of_true (route?_conclude_error ..) (.inl (by simp))
  | answered hwaits hends hz hcollect =>
    subst hwaits
    refine iff_of_true ?_ (.inl (by simp))
    -- what is collected is the error that ended the interaction
    cases d with
    | register =>
      have hregistered := hawaits rfl (ReplyState.isSole_single _ _) hends.isOpen
      obtain ⟨failure, rfl⟩ := hends.collected hysound hregistered rfl hz hcollect
      exact route?_conclude_error ..
    | publishRegister =>
      have hregistered := hawaits rfl (ReplyState.isSole_publish _ _) hends.isOpen
      obtain ⟨failure, rfl⟩ := hends.collected hysound hregistered rfl hz hcollect
      exact route?_conclude_error ..
    | _ => rfl
  | reported hreports hends =>
    -- a listener is told, and what becomes of the route depends on whether it owns it
    obtain ⟨r, rfl⟩ := Option.isSome_iff_exists.1 hreports
    cases d with
    | register subscription listener =>
      have hregistered := (hawaits rfl (ReplyState.isSole_single _ _) hends.isOpen).pending
      obtain ⟨j, rs, o, rfl, _, hmem, htold⟩ := hends.reports hregistered rfl rfl rfl
      have hother : (Demand.register subscription listener).stage ≠ some Stage.publishRegister := by
        intro hstage
        cases hstage
      refine iff_of_true ?_ (.inl fun h => hother h.2)
      -- the listener of the registration owns its route
      refine (j.reportAll_notify? s' rs _ _).trans (if_pos ⟨_, hmem, ?_⟩)
      simp only [Demand.listener, Listener.droppedRoute?, htold rfl, if_true]
    | publishRegister keys listener =>
      have hregistered := (hawaits rfl (ReplyState.isSole_publish _ _) hends.isOpen).pending
      obtain ⟨j, rs, o, rfl, hrouting, -, -⟩ := hends.reports hregistered rfl rfl rfl
      -- a publishing listener owns none, and reports leave publishers alone
      have hsame : Demand.route? c.addressing (j.reportAll s' rs).1.routing
          (.publishRegister keys listener) =
            Demand.route? c.addressing y.inst.routing (.publishRegister keys listener) := by
        simp only [Demand.route?, reportAll_publisher?, reportAll_publisherKey, hrouting]
      simp [hsame, Demand.stage]
    | _ => exact iff_of_true rfl (.inr rfl)

/-- The broker rejects a subscription and a publisher that were registered with listeners, and a
    publisher whose initiator waits is still waiting when the instance closes. Only the publisher
    with a listener keeps its route. -/
theorem failed_route?_iff_rejected :
    let c : Consumer := { addressing := { endpoint := ⟨0, "c"⟩, uriFrom := "c", uriTo := "p" } }
    let s : Site := { now := 0, transport := { endpoints := [{ name := "e", uri := "c" }] } }
    let x : Node := { inst := Instance.create {} .system 0 }
    let rejection (stage : Stage) : Message :=
      .ofError { uriFrom := "p", uriTo := "c", pattern := .pubSub, stage := some stage,
                 timestamp := 0, transaction := some 1 } { number := StandardError.unknown }
    let rejected (d : Demand) (stage : Stage) : Instance :=
      ((x.inst.start s c d (some "app")).1.receive s ⟨0, "c"⟩ (rejection stage)).1
    let register : Demand := .register ⟨"x", []⟩ "app"
    let publishRegister : Demand := .publishRegister [] "app"
    let closed : Instance := ((x.inst.start s c publishRegister none).1.close s).1
    register.route? c.addressing (rejected register Stage.registerAck).routing = none ∧
      publishRegister.route? c.addressing
        (rejected publishRegister Stage.publishRegisterAck).routing ≠ none ∧
      ∃ outcome k, closed.correlator.collect ⟨1, 0⟩ = some (outcome, k) ∧
        publishRegister.route? c.addressing
          ({ closed with correlator := k }.conclude c publishRegister 1 outcome).1.routing =
            none := by
  intro c s x rejection rejected register publishRegister closed
  -- the three starts, before anything comes in
  let started (d : Demand) (reporter : Option String) : Node :=
    { x with inst := (x.inst.start s c d reporter).1 }
  have hx : x.desk =
      (Desk.new x.inst.correlator.allocator x.inst.correlator.patience).after [] := rfl
  -- each is pending under the id 1 when its end comes
  have hregister : (started register (some "app")).inst.Ends s 0
      (rejected register Stage.registerAck) :=
    @Ends.rejected _ _ _ ⟨0, "c"⟩ _ (rejection _) rfl rfl rfl ⟨1, _, rfl, rfl, rfl⟩
      (Correlator.not_isOpen_of_empty rfl)
  have hpublish : (started publishRegister (some "app")).inst.Ends s 0
      (rejected publishRegister Stage.publishRegisterAck) :=
    @Ends.rejected _ _ _ ⟨0, "c"⟩ _ (rejection _) rfl rfl rfl ⟨1, _, rfl, rfl, rfl⟩
      (Correlator.not_isOpen_of_empty rfl)
  have hclosed : (started publishRegister none).inst.Ends s 0 closed :=
    .closed ⟨1, _, rfl, rfl, rfl⟩
  obtain ⟨-, hgone⟩ := @failed_route?_iff x (started register (some "app")) _ _ [] [] s s c
    register _ 1 _ hx rfl rfl (.reported rfl hregister)
  obtain ⟨hroute, hstays⟩ := @failed_route?_iff x (started publishRegister (some "app")) _ _ [] []
    s s c publishRegister _ 1 _ hx rfl rfl (.reported rfl hpublish)
  have hanswered := @failed_route?_iff x (started publishRegister none) _ _ [] []
    s s c publishRegister _ 1 _ hx rfl rfl
    (@Node.Fails.answered _ _ _ _ _ _ _ { inst := closed } [] _ _ rfl hclosed rfl rfl)
  refine ⟨hgone.2 (.inl (by decide)), ?_, _, _, rfl, hanswered.2.2 (.inl (by decide))⟩
  rw [Ne, hstays, hroute]
  decide

/-- A publisher registers and does not wait. The broker rejects it, its listener is told, and
    nothing is pending any more, but publish errors still go to the listener. -/
theorem publishRegister_rejected :
    let c : Consumer := { addressing := { endpoint := ⟨0, "c"⟩, uriFrom := "c", uriTo := "p" } }
    let s : Site := { now := 0, transport := { endpoints := [{ name := "e", uri := "c" }] } }
    let started := (Instance.create {} .system 0).start s c (.publishRegister [] "app") (some "app")
    let rejection : Message :=
      .ofError { uriFrom := "p", uriTo := "c", pattern := .pubSub
                 stage := some Stage.publishRegisterAck, timestamp := 0, transaction := some 1 }
        { number := StandardError.unknown }
    let after := started.1.receive started.2.1 ⟨0, "c"⟩ rejection
    started.2.2 = .ok 1 ∧
      after.2.events = [.told ⟨"app", .publishRegisterError, .ofMessage rejection⟩] ∧
      after.1.correlator.contains 1 = false ∧
      after.1.routing.publisher? (after.1.routing.publisherKey c.addressing) = some "app" := by
  intro c s started rejection after
  exact ⟨rfl, rfl, rfl, rfl⟩

end Instance

end Mal
