import Mal.Consumer.Consumer
import Mal.Proofs.Correlation.Operations
import Mal.Proofs.Sending

/-!
# Starting an interaction

A consumer's interaction is given an id, is kept if it has replies, and its first message is sent.
If the message cannot be sent, the interaction is abandoned at once, and everything that is pending
is as it was before.

## Key results

- `Instance.launch_launched`, `Instance.start_started`: the ways in which a start goes
- `Instance.start_routing`: what a start does to the routes
- `Instance.conclude_correlator`: what its end does to the pending interactions
- `Instance.launch_error`: a launch that fails leaves everything pending as it was
-/

namespace Mal.Instance

/-- The ways in which a launch goes, each with the correlator and the site afterwards and the
    answer. `seconds` is the reading of the instance's clock. -/
inductive Launched (before : Correlator) (seconds : UInt64) (s : Site) (a : Addressing) (d : Demand)
    (l : Option Listener) : Correlator → Site → Except Failure TransactionId → Prop where
  | refused {failure : Failure}
      (h : before.initiate seconds d.pattern d.stage l = (before, .error failure)) :
      Launched before seconds s a d l before s (.error failure)
  | sent {c : Correlator} {id : TransactionId} {s' : Site}
      (h : before.initiate seconds d.pattern d.stage l = (c, .ok id))
      (hs : s.Sends s' [d.message a s.now id]) (hr : s'.respondents = s.respondents) :
      Launched before seconds s a d l c s' (.ok id)
  | unsent {c : Correlator} {id : TransactionId} {s' : Site} (failure : Failure)
      (h : before.initiate seconds d.pattern d.stage l = (c, .ok id))
      (hs : s.Sends s' []) (hr : s'.respondents = s.respondents) :
      Launched before seconds s a d l (c.abandon id).1 s' (.error failure)

/-- A launch goes one of these ways, and changes nothing of the instance but its correlator. -/
theorem launch_launched (i : Instance) (s : Site) (a : Addressing) (d : Demand)
    (l : Option Listener) :
    Launched i.correlator (i.clock.seconds s.now) s a d l (i.launch s a d l).1.correlator
        (i.launch s a d l).2.1 (i.launch s a d l).2.2 ∧
      (i.launch s a d l).1 = { i with correlator := (i.launch s a d l).1.correlator } := by
  simp only [launch, initiate]
  cases hinitiate : i.correlator.initiate (i.clock.seconds s.now) d.pattern d.stage l with
  | mk c result =>
    cases result with
    | error failure =>
      -- nothing is sent for an interaction that is refused
      obtain rfl := Correlator.initiate_eq_error hinitiate
      exact ⟨.refused hinitiate, rfl⟩
    | ok id =>
      simp only []
      rcases s.send_cases a.endpoint (d.message a s.now id) with ⟨hok, hs⟩ | ⟨failure, hf, hs⟩
      · -- an interaction that was sent stays pending
        generalize hsend : s.send a.endpoint (d.message a s.now id) = sent at hok hs
        obtain ⟨sending, s'⟩ := sent
        obtain rfl : sending = .ok () := hok
        have hr : s'.respondents = s.respondents := congrArg (fun p => p.2.respondents) hsend.symm
        exact ⟨.sent hinitiate hs hr, rfl⟩
      · -- one that could not be sent is forgotten
        generalize hsend : s.send a.endpoint (d.message a s.now id) = sent at hf hs
        obtain ⟨sending, s'⟩ := sent
        obtain rfl : sending = .error failure := hf
        have hr : s'.respondents = s.respondents := congrArg (fun p => p.2.respondents) hsend.symm
        exact ⟨.unsent failure hinitiate hs hr, rfl⟩

/-- A start is a launch between changes of routes. -/
theorem start_started (i : Instance) (s : Site) (c : Consumer) (d : Demand)
    (reporter : Option String) :
    Launched i.correlator (i.clock.seconds s.now) s c.addressing d
        (reporter.map fun r => d.listener c.addressing r)
        (i.start s c d reporter).1.correlator (i.start s c d reporter).2.1
        (i.start s c d reporter).2.2 ∧
      (i.start s c d reporter).1.bindings = i.bindings ∧
      (i.start s c d reporter).1.security = i.security := by
  obtain ⟨hlaunched, hframe⟩ :=
    launch_launched { i with routing := d.prepare c.addressing i.routing } s c.addressing d
      (reporter.map fun r => d.listener c.addressing r)
  simp only [start]
  generalize launch { i with routing := d.prepare c.addressing i.routing } s c.addressing d
    (reporter.map fun r => d.listener c.addressing r) = launched at hlaunched hframe ⊢
  obtain ⟨i', s', result⟩ := launched
  -- a launch changes the correlator alone, so the rest is as it was before
  have hbindings : i'.bindings = i.bindings := (congrArg bindings hframe :)
  have hsecurity : i'.security = i.security := (congrArg security hframe :)
  cases result with
  | ok | error => exact ⟨hlaunched, hbindings, hsecurity⟩

/-- A start prepares the routes, and withdraws them if it fails. -/
theorem start_routing (i : Instance) (s : Site) (c : Consumer) (d : Demand)
    (reporter : Option String) :
    (i.start s c d reporter).1.routing =
      match (i.start s c d reporter).2.2 with
      | .ok _ => d.prepare c.addressing i.routing
      | .error _ => d.withdraw c.addressing (d.prepare c.addressing i.routing) := by
  let prepared : Instance := { i with routing := d.prepare c.addressing i.routing }
  obtain ⟨-, hframe⟩ := prepared.launch_launched s c.addressing d
    (reporter.map fun r => d.listener c.addressing r)
  have hrouting := congrArg Instance.routing hframe
  simp only [start]
  generalize prepared.launch s c.addressing d _ = launched at hrouting ⊢
  obtain ⟨i', s', result⟩ := launched
  cases result with
  -- the routes stay prepared as long as the interaction is pending
  | ok id => exact hrouting
  | error failure => exact congrArg (d.withdraw c.addressing) hrouting

/-- The end of an interaction abandons it, unless further answers follow. -/
theorem conclude_correlator (i : Instance) (c : Consumer) (d : Demand) (id : TransactionId)
    (outcome : Except Failure Message) :
    ((i.conclude c d id outcome).1.correlator = i.correlator ∨
        (i.conclude c d id outcome).1.correlator = (i.correlator.abandon id).1) ∧
      (i.conclude c d id outcome).1.bindings = i.bindings ∧
      (i.conclude c d id outcome).1.security = i.security := by
  unfold conclude
  split
  · split
    · -- it stays in the table if further answers follow
      exact ⟨.inl rfl, rfl, rfl⟩
    · exact ⟨.inr rfl, rfl, rfl⟩
  · exact ⟨.inr rfl, rfl, rfl⟩

/-- A launch that fails changes nothing but the counters: what it forgets is what it has made, for
    nothing comes between. -/
theorem launch_error {i : Instance} {s : Site} {a : Addressing} {d : Demand}
    {l : Option Listener} {failure : Failure} (h : (i.launch s a d l).2.2 = .error failure) :
    ∃ allocator made, (i.launch s a d l).1 =
      { i with correlator := { i.correlator with allocator := allocator, made := made } } := by
  obtain ⟨hlaunched, hframe⟩ := i.launch_launched s a d l
  rw [hframe]
  generalize (i.launch s a d l).1.correlator = after at hlaunched ⊢
  generalize (i.launch s a d l).2.1 = s' at hlaunched
  generalize (i.launch s a d l).2.2 = result at hlaunched h
  cases hlaunched with
  | refused => exact ⟨_, _, rfl⟩
  | sent => cases h
  | @unsent made id _ _ hinitiate =>
    obtain ⟨allocator, state?, _, hnext, rfl⟩ := Correlator.initiate_eq_ok hinitiate
    -- under an id that was free there is nothing to forget but the new exchange
    have hfree : i.correlator.exchanges.get? id = none :=
      Correlator.contains_eq_false_iff.1 (Allocator.not_inUse_of_search hnext)
    have herase := Directory.erase_of_get?_eq_none hfree
    cases state? with
    | none =>
      refine ⟨allocator, i.correlator.made, ?_⟩
      simp only [Correlator.abandon, herase]
    | some state =>
      refine ⟨allocator, i.correlator.made + 1, ?_⟩
      simp only [Correlator.abandon, Correlator.add, Directory.erase_put, herase]

end Mal.Instance
