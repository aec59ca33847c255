import Mal.Instance.Dispatch
import Mal.Proofs.Routing.Tables
import Mal.Proofs.Starting

/-!
# Registrations that cannot be started

A registration sets up its route, and if its first message cannot be sent, it takes the route down
and forgets the interaction. Nothing comes between, so what is pending is exactly as it was.

The routes are exactly as they were if there was no route under the key of the registration. If
there was one, it is replaced when the route is set up and is not brought back when the route is
taken down, so a listener that was registered before is lost (`Instance.rolled_back_replaced`).

## Key results

- `Instance.start_error`: all that a registration leaves that fails to start
- `Instance.rolled_back_iff`: when a start that fails leaves the routes as they were
-/

namespace Mal

namespace Demand

variable {d : Demand}

/-- To withdraw a registration comes to the same whether or not its route was set up. -/
private theorem withdraw_prepare (hd : d.routed?.isSome = true) (a : Addressing) (r : Routing) :
    d.withdraw a (d.prepare a r) = d.withdraw a r := by
  cases d with
  | register subscription listener => exact r.removeNotify_addNotify ..
  | publishRegister keys listener => exact r.removePublisher_addPublisher a listener
  | _ => cases hd

/-- To withdraw a registration that has no route changes nothing. -/
private theorem withdraw_eq_self_iff (hd : d.routed?.isSome = true) (a : Addressing) {r : Routing}
    (hr : r.Consistent) : d.withdraw a r = r ↔ d.route? a r = none := by
  -- after the withdrawal there is no route, so there was none if it has changed nothing
  constructor
  · intro hsame
    rw [← hsame]
    exact route?_withdraw a r d
  · intro hroute
    cases d with
    | register subscription listener => exact Routing.removeNotify_eq_self hr hroute
    | publishRegister keys listener => exact Routing.removePublisher_eq_self hroute
    | _ => cases hd

end Demand

namespace Instance

variable {i : Instance} {s : Site} {c : Consumer} {d : Demand} {reporter : Option String}
  {failure : Failure}

/-- A registration that fails to start is withdrawn, and nothing else changes but the counters. -/
theorem start_error (hd : d.routed?.isSome = true)
    (h : (i.start s c d reporter).2.2 = .error failure) :
    ∃ allocator made, (i.start s c d reporter).1 =
      { i with
        correlator := { i.correlator with allocator := allocator, made := made }
        routing := d.withdraw c.addressing i.routing } := by
  -- the start prepares the routes, launches, and withdraws when the launch fails
  let prepared : Instance := { i with routing := d.prepare c.addressing i.routing }
  have hlaunch (h' : (prepared.launch s c.addressing d
      (reporter.map fun r => d.listener c.addressing r)).2.2 = .error failure) := launch_error h'
  simp only [start] at h ⊢
  generalize prepared.launch s c.addressing d
    (reporter.map fun r => d.listener c.addressing r) = launched at h hlaunch ⊢
  obtain ⟨i', s', result⟩ := launched
  cases result with
  | ok id => cases h
  | error failure' =>
    -- the launch leaves what is pending as it was
    obtain ⟨allocator, made, rfl⟩ := hlaunch h
    refine ⟨allocator, made, ?_⟩
    simp only [withdraw, prepared, Demand.withdraw_prepare hd]

/-- It leaves no route under its own key, whoever had set it up. -/
private theorem route?_start_error (hd : d.routed?.isSome = true)
    (h : (i.start s c d reporter).2.2 = .error failure) :
    d.route? c.addressing (i.start s c d reporter).1.routing = none := by
  obtain ⟨allocator, made, hstart⟩ := start_error hd h
  rw [hstart]
  exact Demand.route?_withdraw c.addressing i.routing d

/-- When a registration fails to start, what is pending and what waits in mailboxes is exactly as it
    was. So are the routes, of subscribers and publishers alike and down to the index, if and only
    if there was no route under the registration's own key; otherwise that route is gone.

    The table may be any that operations lead to, and the registration may be one that is waited for
    or one that is reported to a listener. -/
theorem rolled_back_iff {separator : String} {ops : List Routing.Op}
    (hrouting : i.routing = Routing.after { separator := separator } ops)
    (hd : d.routed?.isSome = true) (h : (i.start s c d reporter).2.2 = .error failure) :
    let after := (i.start s c d reporter).1
    after.correlator.exchanges = i.correlator.exchanges ∧
      after.correlator.mailboxes = i.correlator.mailboxes ∧
      after.routing = d.withdraw c.addressing i.routing ∧
      (after.routing = i.routing ↔ d.route? c.addressing i.routing = none) := by
  have hconsistent : i.routing.Consistent := hrouting ▸ Routing.consistent_after separator ops
  obtain ⟨allocator, made, hstart⟩ := start_error hd h
  rw [hstart]
  exact ⟨rfl, rfl, rfl, Demand.withdraw_eq_self_iff hd c.addressing hconsistent⟩

/-- One subscription is registered and another fails to start on the same endpoint. Nothing changes
    of the route and the interaction of the first. -/
theorem rolled_back_iff_other :
    let c : Consumer := { addressing := { endpoint := ⟨0, "c"⟩, uriFrom := "c", uriTo := "b" } }
    let failing : Endpoint :=
      { name := "e", uri := "c", faults := [none, some Endpoint.simulatedFailure] }
    let s : Site := { now := 0, transport := { endpoints := [failing] } }
    let registered := (Instance.create {} .system 0).start s c (.register ⟨"x", []⟩ "app") none
    let failed := registered.1.start registered.2.1 c (.register ⟨"y", []⟩ "other") none
    failed.2.2 = .error Endpoint.simulatedFailure ∧
      failed.1.correlator.exchanges = registered.1.correlator.exchanges ∧
      failed.1.routing = registered.1.routing ∧
      registered.1.correlator.contains 1 = true ∧
      registered.1.routing.notify? "c" "x" = some "app" := by
  intro c failing s registered failed
  have hrouting : registered.1.routing =
      Routing.after { separator := "::" } [.addNotify "c" "x" "app"] := rfl
  obtain ⟨hexchanges, -, -, hsame⟩ := @rolled_back_iff registered.1 registered.2.1 c
    (.register ⟨"y", []⟩ "other") none _ _ _ hrouting rfl rfl
  exact ⟨rfl, hexchanges, hsame.2 rfl, rfl, rfl⟩

/-- A listener has registered, with success. Another one registers for the same subscription, or as
    the same publisher, and its message cannot be sent. The first is not found any more. -/
theorem rolled_back_replaced :
    let c : Consumer := { addressing := { endpoint := ⟨0, "c"⟩, uriFrom := "c", uriTo := "b" } }
    let failing : Endpoint :=
      { name := "e", uri := "c", faults := [none, some Endpoint.simulatedFailure] }
    let s : Site := { now := 0, transport := { endpoints := [failing] } }
    let ack (stage : Stage) : Message :=
      { header := { uriFrom := "b", uriTo := "c", pattern := .pubSub, stage := some stage,
                    timestamp := 0, transaction := some 1 } }
    let lost (first second : Demand) (stage : Stage) (reporter : Option String) : Prop :=
      let started := (Instance.create {} .system 0).start s c first (some "app")
      let registered := started.1.receive started.2.1 ⟨0, "c"⟩ (ack stage)
      let failed := registered.1.start registered.2 c second reporter
      first.route? c.addressing registered.1.routing = some "app" ∧
        failed.2.2 = .error Endpoint.simulatedFailure ∧
        first.route? c.addressing failed.1.routing = none
    ∀ reporter,
      lost (.register ⟨"x", []⟩ "app") (.register ⟨"x", []⟩ "other") Stage.registerAck reporter ∧
        lost (.publishRegister [] "app") (.publishRegister [] "other") Stage.publishRegisterAck
          reporter := by
  intro c failing s ack lost reporter
  -- with a listener and without one, for a subscription and for a publisher
  cases reporter with
  | none | some =>
    exact ⟨⟨rfl, rfl, route?_start_error (d := .register ⟨"x", []⟩ "other") rfl rfl⟩,
      ⟨rfl, rfl, route?_start_error (d := .publishRegister [] "other") rfl rfl⟩⟩

end Instance

end Mal
