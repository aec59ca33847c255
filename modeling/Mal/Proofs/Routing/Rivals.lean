import Mal.Proofs.Network.Failures
import Mal.Proofs.Routing.Registration

/-!
# Registrations of the same subscription

Notify routes go by subscription, not by interaction. When a registration is rejected, the route
that leads from its endpoint and subscription id is taken down, whoever has set it up. So of two
registrations of the same subscription, of which the broker accepts one and rejects the other, the
accepted one has its route in the end if and only if the rejection was dealt with before it was
started (`Network.rival_routed_iff`).

What a registration goes through in a run is its `Course`: it is started, its answer comes in while
it is awaited, and the answer is dealt with. A listener deals with an answer when it comes in. A
consumer that waits collects the answer at some later time, and draws the consequences later still.
Anything may happen in between, in this network and to other interactions of the instance.

## Key results

- `Network.Course.collected`: a consumer that waits gets the answer that came in
- `Network.Course.route_started`, `route_answered`, `route_handled`: what becomes of the route at
  each of the three moments
- `Network.rival_routed_iff`: when the accepted one of two registrations has its route
- `Network.rival_dropped`: when it has not
-/

namespace Mal

/-- A consumer's registration of a subscription. Notifies go to the listener. The answer goes to the
    reporter; if there is none, the consumer waits for it. -/
structure Registration where
  consumer : Consumer
  subscription : Subscription
  listener : String
  reporter : Option String

namespace Registration

def demand (r : Registration) : Demand :=
  .register r.subscription r.listener

/-- Where its notify route leads from. -/
def key (r : Registration) : RouteKey :=
  (r.consumer.addressing.endpoint.uri, r.subscription.id)

/-- The exchange that is pending until its answer comes in. -/
def exchange (r : Registration) (serial : Nat) : Exchange :=
  ⟨serial, .pubSub, .single Stage.registerAck false,
    r.reporter.map fun name => r.demand.listener r.consumer.addressing name⟩

end Registration

namespace Network

/-! ## Moments of a run -/

/-- The network before the move at a place of a run, or at the end if there is none. -/
def before (home : String → String) (n : Network) (moves : List Move) (place : Nat) : Network :=
  n.after home (moves.take place)

/-- The listener that the notify route from a key leads to. -/
def route? (n : Network) (name : String) (key : RouteKey) : Option String :=
  (n.nodes name).inst.routing.notify? key.1 key.2

variable {home : String → String} {n : Network} {moves : List Move} {name : String}

private theorem before_succ {place : Nat} {move : Move} (h : moves[place]? = some move) :
    n.before home moves (place + 1) = (n.before home moves place).step home move := by
  simp only [before, after, List.take_add_one, h, Option.toList_some, List.foldl_append,
    List.foldl_cons, List.foldl_nil]

/-- What is later in a run comes about by moves. -/
private theorem exists_before_eq_after (home : String → String) (n : Network) (moves : List Move)
    {first last : Nat} (h : first ≤ last) :
    ∃ between, n.before home moves last = (n.before home moves first).after home between := by
  have hsplit := List.take_append_drop first (moves.take last)
  rw [List.take_take, Nat.min_eq_left h] at hsplit
  refine ⟨(moves.take last).drop first, ?_⟩
  exact (congrArg (n.after home) hsplit.symm).trans List.foldl_append

/-- The desk of an instance at a later moment comes about by operations. -/
private theorem exists_desk_before (home : String → String) (n : Network) (moves : List Move)
    (name : String) {first last : Nat} (h : first ≤ last) :
    ∃ ops, ((n.before home moves last).nodes name).desk =
      ((n.before home moves first).nodes name).desk.after ops := by
  obtain ⟨between, hbetween⟩ := exists_before_eq_after home n moves h
  rw [hbetween, desk_after]
  exact ⟨_, rfl⟩

private theorem route?_become (n : Network) (name : String) (i : Instance) (s : Site)
    (key : RouteKey) :
    (n.become name i s).route? name key = i.routing.notify? key.1 key.2 := by
  simp only [route?, become, put_nodes_self]

private theorem route?_start (n : Network) (name : String) (c : Consumer) (d : Demand)
    (reporter : Option String) (key : RouteKey) :
    (n.step home (.start name c d reporter)).route? name key =
      ((n.nodes name).inst.start n.site c d reporter).1.routing.notify? key.1 key.2 :=
  n.route?_become ..

private theorem route?_conclude (n : Network) (name : String) (c : Consumer) (d : Demand)
    (id : TransactionId) (outcome : Except Failure Message) (key : RouteKey) :
    (n.step home (.conclude name c d id outcome)).route? name key =
      ((n.nodes name).inst.conclude c d id outcome).1.routing.notify? key.1 key.2 :=
  n.route?_become ..

private theorem route?_deliver {place : Nat} {via : EndpointRef} {m : Message}
    (hsent : n.sent[place]? = some m) (hhome : home m.header.uriTo = name) (key : RouteKey) :
    (n.step home (.deliver place via)).route? name key =
      ((n.nodes name).inst.receive n.site via m).1.routing.notify? key.1 key.2 := by
  subst hhome
  simp only [step, hsent]
  exact n.route?_become ..

/-! ## Registrations in a run -/

/-- The course of a registration on the instance `name`. -/
structure Course (home : String → String) (n : Network) (moves : List Move) (name : String)
    (r : Registration) (rejected : Bool) where
  /-- Place of the move that starts it. -/
  started : Nat
  id : TransactionId
  /-- Serial number of its exchange. -/
  serial : Nat
  start_move : moves[started]? = some (.start name r.consumer r.demand r.reporter)
  start_ok : (((n.before home moves started).nodes name).inst.start
    (n.before home moves started).site r.consumer r.demand r.reporter).2.2 = .ok id
  made : ((n.before home moves started).nodes name).inst.correlator.made = serial
  /-- Place of the move that brings its answer. -/
  answered : Nat
  started_lt : started < answered
  place : Nat
  via : EndpointRef
  /-- The answer as it comes in, and as the security check lets it pass. -/
  received : Message
  answer : Message
  answer_move : moves[answered]? = some (.deliver place via)
  sent : (n.before home moves answered).sent[place]? = some received
  at_home : home received.header.uriTo = name
  passes : ((n.before home moves answered).nodes name).inst.security received = .ok answer
  pattern : answer.header.pattern = .pubSub
  stage : answer.header.stage = some Stage.registerAck
  transaction : answer.header.transaction = some id
  flag : answer.header.isError = rejected
  /-- Nothing has ended the interaction before. -/
  awaited : ((n.before home moves answered).nodes name).inst.correlator.IsOpen serial
  /-- Place of the move with which its answer has been dealt with. -/
  handled : Nat
  reported : r.reporter.isSome = true → handled = answered
  waited : r.reporter = none → ∃ collected outcome, answered < collected ∧ collected < handled ∧
    moves[collected]? = some (.work name (.collect ⟨id, serial⟩)) ∧
    (n.before home moves collected).outcome? name ⟨id, serial⟩ = some outcome ∧
    moves[handled]? = some (.conclude name r.consumer r.demand id outcome)

namespace Course

variable {r : Registration} {rejected : Bool}

/-- When it has started it waits for its one answer. -/
private theorem awaits_started (c : Course home n moves name r rejected) (hnew : n.IsNew) :
    let started := (n.before home moves (c.started + 1)).nodes name
    started.desk.Sound ∧ started.desk.Awaits c.id (r.exchange c.serial) := by
  -- the start has put the exchange into the table
  obtain ⟨hsound, -, hempty, hpending⟩ :=
    hnew.started home (moves.take c.started) c.start_ok rfl
  rw [before_succ c.start_move]
  have hmade : ((n.after home (moves.take c.started)).nodes name).desk.table.made = c.serial :=
    c.made
  rw [hmade] at hempty hpending
  exact ⟨hsound, hpending, rfl, ReplyState.isSole_single _ _, fun _ => hempty⟩

/-- So it does when its answer comes in. -/
private theorem awaits_answered (c : Course home n moves name r rejected) (hnew : n.IsNew) :
    let answered := (n.before home moves c.answered).nodes name
    answered.desk.Sound ∧ answered.desk.Awaits c.id (r.exchange c.serial) := by
  obtain ⟨hsound, hawaits⟩ := c.awaits_started hnew
  obtain ⟨ops, hops⟩ := exists_desk_before home n moves name c.started_lt
  intro answered
  -- it is over, or it awaits its answer still, and the course says that it is not over
  have hlast := Desk.awaits_after hsound hawaits ops
  rw [← hops] at hlast
  refine ⟨?_, hlast.resolve_right (not_not_intro c.awaited)⟩
  rw [show answered.desk = _ from hops]
  exact hsound.after ops

/-- The answer is accepted. -/
private theorem receive_answer (c : Course home n moves name r rejected) :
    (r.exchange c.serial).state.receive c.answer.header =
      .ok (.single Stage.registerAck true) := by
  rw [ReplyState.receive_eq_ok_iff]
  simp [Registration.exchange, ReplyState.accept, Header.mark, Header.stageOrZero, c.stage]

private theorem intake_answer (c : Course home n moves name r rejected) :
    c.answer.header.intake = .reply := by
  simp [Header.intake, c.pattern, c.stage]

/-- A consumer that waits gets the answer that came in. -/
theorem collected (c : Course home n moves name r rejected) (hnew : n.IsNew)
    (hwaits : r.reporter = none) {later : Nat} (hlater : c.answered < later)
    {outcome : Except Failure Message}
    (houtcome : (n.before home moves later).outcome? name ⟨c.id, c.serial⟩ = some outcome) :
    outcome = Correlator.waited c.answer := by
  obtain ⟨hsound, hawaits⟩ := c.awaits_answered hnew
  -- to the pending interactions the delivery is this one reply
  have hops : (Move.deliver c.place c.via).ops home (n.before home moves c.answered) name =
      [.receive c.answer] := by
    simp only [Move.ops, c.sent, c.at_home, if_true, Instance.receiveOps, c.passes,
      c.intake_answer]
  have hdesk : ((n.before home moves (c.answered + 1)).nodes name).desk =
      (((n.before home moves c.answered).nodes name).desk.step (.receive c.answer)).1 := by
    rw [before_succ c.answer_move, desk_step, hops, Desk.after_cons, Desk.after_nil]
  obtain ⟨ops, hlast⟩ := exists_desk_before home n moves name hlater
  rw [hdesk] at hlast
  have harrival : (r.exchange c.serial).arrival? c.id (.receive c.answer) =
      some ⟨Correlator.waited c.answer, true⟩ := by
    simp only [Exchange.arrival?, c.transaction, if_true, c.receive_answer]
    rfl
  -- what is collected later is what the delivery has brought
  obtain ⟨⟨outcome, k⟩, hcollect, rfl⟩ := Option.map_eq_some_iff.1 houtcome
  have hcollect' : ((n.before home moves later).nodes name).desk.table.collect ⟨c.id, c.serial⟩ =
      some (outcome, k) := hcollect
  rw [hlast] at hcollect'
  have hl : (r.exchange c.serial).listener = none := by simp [Registration.exchange, hwaits]
  exact Desk.collected_after hsound hawaits hl rfl harrival hcollect'

/-! ### What becomes of the route -/

/-- A registration that starts sets up its route. -/
theorem route_started (c : Course home n moves name r rejected) :
    (n.before home moves (c.started + 1)).route? name r.key = some r.listener := by
  rw [before_succ c.start_move, route?_start, Instance.routing_of_start c.start_ok]
  exact Demand.route?_prepare r.consumer.addressing _ r.demand

/-- A listener that is told of the answer drops the route if the answer is a rejection. -/
private theorem droppedRoute?_answer (c : Course home n moves name r rejected) (reporter : String) :
    (r.demand.listener r.consumer.addressing reporter).droppedRoute? (.ofMessage c.answer) =
      if rejected = true then some r.key else none := by
  -- the callback depends on the flag of the answer, which is that of the course
  have hcallback : (Outcome.ofMessage c.answer).interactionCallback? =
      some (if rejected = true then .registerError else .registerAck) := by
    have hstage : c.answer.header.stageOrZero = Stage.registerAck := by
      simp [Header.stageOrZero, c.stage]
    simp only [Outcome.interactionCallback?, Outcome.header_ofMessage, c.pattern, hstage,
      Outcome.isError_ofMessage, c.flag]
    rfl
  simp only [Registration.demand, Demand.listener, Listener.droppedRoute?, hcallback]
  cases rejected <;> rfl

/-- When the answer comes in, the route is dropped if a listener is told of a rejection. -/
theorem route_answered (c : Course home n moves name r rejected) (hnew : n.IsNew) :
    (n.before home moves (c.answered + 1)).route? name r.key =
      if r.reporter.isSome = true ∧ rejected = true then none
      else (n.before home moves c.answered).route? name r.key := by
  obtain ⟨-, hawaits⟩ := c.awaits_answered hnew
  rw [before_succ c.answer_move, route?_deliver c.sent c.at_home,
    Instance.receive_reply c.via c.passes c.intake_answer]
  cases hreporter : r.reporter with
  -- without a listener the answer only waits to be collected
  | none =>
    have hl : (r.exchange c.serial).listener = none := by simp [Registration.exchange, hreporter]
    rw [Instance.receiveReply_routing_waited _ _ c.transaction hawaits.pending c.receive_answer hl]
    rfl
  | some reporter =>
    have hl : (r.exchange c.serial).listener =
        some (r.demand.listener r.consumer.addressing reporter) := by
      simp [Registration.exchange, hreporter]
    -- the listener of a registration owns its route
    rw [Instance.receiveReply_notify?_listened _ _ c.transaction hawaits.pending c.receive_answer
      hl, c.droppedRoute?_answer]
    cases rejected with
    | true => simp
    | false => rfl

/-- When the answer has been dealt with, a rejection has taken the route down. -/
theorem route_handled (c : Course home n moves name r rejected) (hnew : n.IsNew) :
    (n.before home moves (c.handled + 1)).route? name r.key =
      if rejected = true then none else (n.before home moves c.handled).route? name r.key := by
  cases hreporter : r.reporter with
  -- with a listener the answer is dealt with when it comes in
  | some reporter =>
    have hroute := c.route_answered hnew
    rw [c.reported (by rw [hreporter]; rfl)]
    simpa [hreporter] using hroute
  | none =>
    -- without one it is dealt with when the consumer has collected it
    obtain ⟨collected, outcome, hlater, -, -, houtcome, hmove⟩ := c.waited hreporter
    obtain rfl := c.collected hnew hreporter hlater houtcome
    rw [before_succ hmove, route?_conclude]
    -- the consumer withdraws what was rejected, and nothing else
    cases hflag : c.answer.header.isError with
    | true =>
      obtain rfl : true = rejected := hflag.symm.trans c.flag
      obtain ⟨failure, hwaited⟩ := Correlator.waited_of_error hflag
      rw [hwaited]
      exact Instance.route?_conclude_error _ r.consumer r.demand c.id failure
    | false =>
      obtain rfl : false = rejected := hflag.symm.trans c.flag
      rw [Correlator.waited_of_plain hflag]
      rfl

private theorem answered_le_handled (c : Course home n moves name r rejected) :
    c.answered ≤ c.handled := by
  cases hreporter : r.reporter with
  | some reporter => exact Nat.le_of_eq (c.reported (by rw [hreporter]; rfl)).symm
  | none =>
    obtain ⟨collected, _, hcollected, hhandled, _⟩ := c.waited hreporter
    exact Nat.le_of_lt (Nat.lt_trans hcollected hhandled)

private theorem handled_lt (c : Course home n moves name r rejected) :
    c.handled < moves.length := by
  cases hreporter : r.reporter with
  | some reporter =>
    -- both moves are in the run
    rw [c.reported (by rw [hreporter]; rfl)]
    exact (List.getElem?_eq_some_iff.1 c.answer_move).1
  | none =>
    obtain ⟨_, _, _, _, _, _, hmove⟩ := c.waited hreporter
    exact (List.getElem?_eq_some_iff.1 hmove).1

end Course

/-- What nothing changes from one moment of a run to another is the same at both. -/
private theorem route?_eq_of_unchanged {key : RouteKey} {first last : Nat} (h : first ≤ last)
    (hunchanged : ∀ place, first ≤ place → place < last →
      (n.before home moves (place + 1)).route? name key =
        (n.before home moves place).route? name key) :
    (n.before home moves last).route? name key = (n.before home moves first).route? name key := by
  induction h with
  | refl => rfl
  | @step last hle ih =>
    rw [hunchanged last hle (Nat.lt_succ_self last)]
    exact ih fun place hfirst hlast => hunchanged place hfirst (Nat.lt_succ_of_lt hlast)

/-- Two registrations of the same subscription are under way on the same endpoint, or one after the
    other, each with a listener for its answer or waited for. The broker accepts one and rejects
    the other, and nothing else changes their route. In the end the route leads to the accepted one
    if and only if the rejection was dealt with before the accepted one was started; otherwise there
    is no route. -/
theorem rival_routed_iff (hnew : n.IsNew) {a b : Registration}
    (accepted : Course home n moves name a false) (rejected : Course home n moves name b true)
    (hkey : b.key = a.key)
    (hothers : ∀ place < moves.length, place ∉ [accepted.started, accepted.answered,
        accepted.handled, rejected.started, rejected.answered, rejected.handled] →
      (n.before home moves (place + 1)).route? name a.key =
        (n.before home moves place).route? name a.key) :
    ((n.after home moves).route? name a.key = some a.listener ↔
        rejected.handled < accepted.started) ∧
      ((n.after home moves).route? name a.key = none ↔
        ¬ rejected.handled < accepted.started) := by
  -- the route changes when either starts and when the rejection is dealt with, and at no other time
  have hunchanged (place : Nat) (hplace : place < moves.length) (ha : place ≠ accepted.started)
      (hb : place ≠ rejected.started) (hhandled : place ≠ rejected.handled) :
      (n.before home moves (place + 1)).route? name a.key =
        (n.before home moves place).route? name a.key := by
    by_cases haccepted : place = accepted.handled
    · simpa [haccepted] using accepted.route_handled hnew
    by_cases hanswered : place = accepted.answered
    · simpa [hanswered] using accepted.route_answered hnew
    by_cases hrejected : place = rejected.answered
    · cases hreporter : b.reporter with
      -- with a listener this is when the rejection is dealt with
      | some reporter =>
        exact absurd (hrejected.trans (rejected.reported (by rw [hreporter]; rfl)).symm) hhandled
      | none =>
        have hroute := rejected.route_answered hnew
        rw [hkey] at hroute
        simpa [hreporter, hrejected] using hroute
    · -- at any other place it is another move
      exact hothers place hplace (by simp [*])
  have hdropped : (n.before home moves (rejected.handled + 1)).route? name a.key = none := by
    have hroute := rejected.route_handled hnew
    rwa [hkey, if_pos rfl] at hroute
  have hrejected := Nat.lt_of_lt_of_le rejected.started_lt rejected.answered_le_handled
  -- the accepted registration has started before it is dealt with
  have haccepted := Nat.lt_of_lt_of_le accepted.started_lt accepted.answered_le_handled
  have hlast : n.after home moves = n.before home moves moves.length := by
    rw [before, List.take_length]
  rw [hlast]
  -- so the later of the two decides, the start of the accepted one or the end of the rejected one
  by_cases hbefore : rejected.handled < accepted.started
  · -- the accepted registration starts last, and sets up its route
    have hroute : (n.before home moves moves.length).route? name a.key = some a.listener := by
      rw [← accepted.route_started]
      refine route?_eq_of_unchanged (Nat.lt_trans haccepted accepted.handled_lt) ?_
      exact fun place hfirst hplace => hunchanged place hplace (by omega) (by omega) (by omega)
    simp [hroute, hbefore]
  · -- the rejection comes last, and takes down the route
    have hroute : (n.before home moves moves.length).route? name a.key = none := by
      rw [← hdropped]
      refine route?_eq_of_unchanged rejected.handled_lt ?_
      exact fun place hfirst hplace => hunchanged place hplace (by omega) (by omega) (by omega)
    simp [hroute, hbefore]

/-- A subscription is rejected, its listener is told, and the consumer registers again, is accepted
    and waits for the acknowledgement. The route leads to the second listener. -/
theorem rival_routed_iff_again :
    let c : Consumer := { addressing := { endpoint := ⟨0, "a"⟩, uriFrom := "a", uriTo := "b" } }
    let b : Registration := ⟨c, ⟨"x", []⟩, "old", some "old"⟩
    let a : Registration := ⟨c, ⟨"x", []⟩, "app", none⟩
    let arrange (result : Except Failure Unit) : Move :=
      .arrange "b" (.manual 0) .unrestricted { allocator := .start 0 0 } { separator := "::" }
        (({} : Bindings).bindBroker "b"
          { name := "broker", slot := 0, conduct := fun _ memory _ _ => .finish memory result }).2
    let request (r : Registration) (id : TransactionId) : Message :=
      r.demand.message c.addressing 0 id
    let ack : Message :=
      { header := (request a 2).header.reply 0 Stage.registerAck false, body := .empty }
    let moves : List Move :=
      [.pass 0 [⟨"a", "a", false, []⟩, ⟨"b", "b", false, []⟩] .empty,
        arrange (.error (.internal "no")), .start "a" c b.demand b.reporter, .deliver 0 ⟨1, "b"⟩,
        .deliver 1 ⟨0, "a"⟩, arrange (.ok ()), .start "a" c a.demand a.reporter,
        .deliver 2 ⟨1, "b"⟩, .work "a" (.await 2), .deliver 3 ⟨0, "a"⟩,
        .work "a" (.collect ⟨2, 1⟩), .conclude "a" c a.demand 2 (.ok ack)]
    ((create {} (.manual 0) 0).after id moves).route? "a" ("a", "x") = some "app" := by
  intro c b a arrange request ack moves
  -- what the broker answers to the first registration
  let rejection : Message :=
    .ofError ((request b 1).header.reply 0 Stage.registerAck true)
      (Failure.internal "no").standardError
  let rejected : Course id (create {} (.manual 0) 0) moves "a" b true :=
    { started := 2, id := 1, serial := 0, start_move := rfl, start_ok := rfl, made := rfl
      answered := 4, started_lt := by decide, place := 1, via := ⟨0, "a"⟩
      received := rejection, answer := rejection, answer_move := rfl
      sent := by decide +kernel, at_home := rfl
      passes := rfl, pattern := rfl, stage := rfl, transaction := rfl, flag := rfl
      awaited := ⟨1, _, rfl, rfl, rfl⟩
      handled := 4, reported := fun _ => rfl, waited := nofun }
  let accepted : Course id (create {} (.manual 0) 0) moves "a" a false :=
    { started := 6, id := 2, serial := 1, start_move := rfl
      start_ok := by decide +kernel, made := by decide +kernel
      answered := 9, started_lt := by decide, place := 3, via := ⟨0, "a"⟩
      received := ack, answer := ack, answer_move := rfl
      sent := by decide +kernel, at_home := rfl
      passes := by decide +kernel, pattern := rfl, stage := rfl, transaction := rfl, flag := rfl
      awaited := ⟨2, Option.get _ (by decide +kernel), (Option.some_get _).symm,
        by decide +kernel, by decide +kernel⟩
      handled := 11, reported := nofun
      waited := fun _ => ⟨10, .ok ack, by decide, by decide, rfl, by decide +kernel, rfl⟩ }
  have hroute := rival_routed_iff (isNew_create {} (.manual 0) 0) accepted rejected rfl
    (by decide +kernel)
  exact hroute.1.2 (by decide)

/-- A subscription is registered twice, the second is accepted and then the first is rejected. The
    listener of the second has been told that it is registered, and gets no notifies. -/
theorem rival_dropped :
    let c : Consumer := { addressing := { endpoint := ⟨0, "a"⟩, uriFrom := "a", uriTo := "b" } }
    let s : Site := { now := 0, transport := { endpoints := [{ name := "e", uri := "a" }] } }
    let register (listener : String) : Demand := .register ⟨"x", []⟩ listener
    let answer (id : TransactionId) (isError : Bool) : Message :=
      { header := { uriFrom := "b", uriTo := "a", pattern := .pubSub
                    stage := some Stage.registerAck, timestamp := 0, transaction := some id
                    isError := isError } }
    let first := (Instance.create {} .system 0).start s c (register "old") (some "old")
    let second := first.1.start first.2.1 c (register "app") (some "app")
    let accepted := second.1.receive second.2.1 ⟨0, "a"⟩ (answer 2 false)
    let rejected := accepted.1.receive accepted.2 ⟨0, "a"⟩ (answer 1 true)
    second.2.2 = .ok 2 ∧ accepted.1.routing.notify? "a" "x" = some "app" ∧
      rejected.2.noticesSince s =
        [⟨"app", .registerAck, .ofMessage (answer 2 false)⟩,
         ⟨"old", .registerError, .ofMessage (answer 1 true)⟩] ∧
      rejected.1.routing.notify? "a" "x" = none := by
  decide +kernel

end Network

end Mal
