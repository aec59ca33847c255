import Mal.Proofs.Correlation.Desk
import Mal.Proofs.Network.Network
import Mal.Proofs.Reactions
import Mal.Proofs.Starting

/-!
# What moves do to pending interactions

The pending interactions of an instance are a desk, and whatever happens in a network is for each
desk a few operations, or none (`Network.Move.ops`). So a run of a network is a run of each of its
desks (`Network.desk_after`), and what is known of all runs of a desk is known of every instance in
every network.

Which operations a move stands for depends on the network: a message that is delivered is a reply to
the instance only if it is at home where the message is for, and if the security check lets pass
something that is a reply.

## Key results

- `Network.desk_step`, `Network.desk_after`: a run of a network is a run of its desks
- `Network.IsNew.exists_desk_after`: the desks of a network are desks that an instance comes to
-/

namespace Mal

namespace Instance

/-- What is done with the pending interactions when an interaction is started. -/
def startOps (i : Instance) (s : Site) (c : Consumer) (d : Demand) (reporter : Option String) :
    List Desk.Op :=
  let initiate := Desk.Op.initiate (i.clock.seconds s.now) d.pattern d.stage
    (reporter.map fun r => d.listener c.addressing r)
  let initiated :=
    (i.correlator.initiate (i.clock.seconds s.now) d.pattern d.stage
      (reporter.map fun r => d.listener c.addressing r)).2
  match initiated, (i.start s c d reporter).2.2 with
  | .ok id, .error _ => [initiate, .abandon id]
  | _, _ => [initiate]

/-- What is done with them when a message comes in. -/
def receiveOps (i : Instance) (m : Message) : List Desk.Op :=
  match i.security m with
  | .error _ => []
  | .ok m => if m.header.intake = .reply then [.receive m] else []

/-- What is done with them when the transport reports a failure. -/
def failOps (s : Site) (h : Option Header) (failure : Failure) : List Desk.Op :=
  match h with
  | none => []
  | some h =>
    if h.pattern = .pubSub ∧ h.stage = some Stage.publish then []
    else if h.isInitial ∧ h.pattern.expectsReply then [.fail s.now h failure]
    else []

/-- What is done with them when the initiator has the first answer. -/
def concludeOps (d : Demand) (id : TransactionId) (outcome : Except Failure Message) :
    List Desk.Op :=
  if outcome.isOk ∧ d.isStaged then [] else [.abandon id]

variable (i : Instance) (s : Site) (tickets : List Ticket)

private theorem start_ops (c : Consumer) (d : Demand) (reporter : Option String) :
    (⟨(i.start s c d reporter).1.correlator, tickets⟩ : Desk) =
      Desk.after ⟨i.correlator, tickets⟩ (i.startOps s c d reporter) := by
  obtain ⟨hlaunched, _⟩ := i.start_started s c d reporter
  unfold startOps
  -- only what the start did with the table matters
  generalize (i.start s c d reporter).1.correlator = table at hlaunched ⊢
  generalize (i.start s c d reporter).2.1 = s' at hlaunched
  generalize (i.start s c d reporter).2.2 = answer at hlaunched ⊢
  cases hlaunched with
  | refused h => simp only [h, Desk.after_cons, Desk.after_nil, Desk.step]
  | sent h => simp only [h, Desk.after_cons, Desk.after_nil, Desk.step]
  | unsent failure h => simp only [h, Desk.after_cons, Desk.after_nil, Desk.step]

/-- A reply is taken in by the pending interactions, everything else leaves them as they are. -/
private theorem dispatch_ops (via : EndpointRef) (m : Message) :
    (⟨(i.dispatch s via m).1.correlator, tickets⟩ : Desk) =
      Desk.after ⟨i.correlator, tickets⟩ (i.receiveOps m) := by
  unfold dispatch receiveOps
  -- a refused message does nothing here
  cases i.security m with
  | error failure => rfl
  | ok m' =>
    simp only []
    cases hintake : m'.header.intake with
    | reply =>
      have hreceived := i.correlator.receive_received m'
      simp only [receiveReply, if_true, Desk.after_cons, Desk.after_nil, Desk.step]
      generalize i.correlator.receive m' = result at hreceived
      -- a reply that is refused changes nothing
      cases hreceived with
      | dropped | refused | posted | passed | completed => rfl
    | publishError =>
      -- what only tells listeners leaves the table as it is
      obtain ⟨_, _, hi, _⟩ := i.dispatchPublishError_onlyTells s m'
      simp only [hi]
      rfl
    | notify =>
      obtain ⟨_, _, hi, _⟩ := i.dispatchNotify_onlyTells s m'
      simp only [hi]
      rfl
    | send | request | broker | unexpected => rfl

private theorem receive_ops (via : EndpointRef) (m : Message) :
    (⟨(i.receive s via m).1.correlator, tickets⟩ : Desk) =
      Desk.after ⟨i.correlator, tickets⟩ (i.receiveOps m) := by
  rw [← i.dispatch_ops s tickets via m]
  unfold receive
  split
  · next h => rw [h]
  · next h => rw [h]

private theorem failTransmission_ops (uri : String) (h : Option Header) (failure : Failure) :
    (⟨(i.failTransmission s uri h failure).1.correlator, tickets⟩ : Desk) =
      Desk.after ⟨i.correlator, tickets⟩ (failOps s h failure) := by
  unfold failTransmission failOps
  cases h with
  -- a failure that is about no message is about an endpoint
  | none => rfl
  | some h =>
    simp only []
    split
    · -- a failure of a reply is kept from the table
      split <;> rfl
    · split
      · obtain ⟨_, _, hi, _⟩ := reportAll_onlyTells
          { i with correlator := (i.correlator.fail s.now h failure).1 } s
          (i.correlator.fail s.now h failure).2.toList
        -- the failure is reported, which leaves the table as the failure made it
        simp only [failExchange, hi]
        rfl
      · rfl

private theorem conclude_ops (c : Consumer) (d : Demand) (id : TransactionId)
    (outcome : Except Failure Message) :
    (⟨(i.conclude c d id outcome).1.correlator, tickets⟩ : Desk) =
      Desk.after ⟨i.correlator, tickets⟩ (concludeOps d id outcome) := by
  unfold conclude concludeOps
  cases outcome with
  | error failure => rfl
  | ok m => cases d.isStaged <;> rfl

private theorem close_ops :
    (⟨(i.close s).1.correlator, tickets⟩ : Desk) =
      Desk.after ⟨i.correlator, tickets⟩ [.shutdown s.now] := by
  obtain ⟨_, _, hi, _⟩ := i.close_onlyTells s
  rw [hi]
  rfl

end Instance

namespace Network

variable {home : String → String} {n : Network} {name : String}

/-- What a move does with the pending interactions of the instance `name`. -/
def Move.ops (home : String → String) (n : Network) (name : String) : Move → List Desk.Op
  | .start name' c d reporter =>
    if name' = name then (n.nodes name').inst.startOps n.site c d reporter else []
  | .conclude name' _ d id outcome =>
    if name' = name then Instance.concludeOps d id outcome else []
  | .work name' op => if name' = name then [op] else []
  | .deliver place _ =>
    match n.sent[place]? with
    | none => []
    | some m =>
      if home m.header.uriTo = name then (n.nodes (home m.header.uriTo)).inst.receiveOps m else []
  | .failTransmission name' _ h failure =>
    if name' = name then Instance.failOps n.site h failure else []
  | .close name' => if name' = name then [.shutdown n.site.now] else []
  | .act .. | .arrange .. | .pass .. => []

/-- What a run does with them. -/
def trace (home : String → String) (n : Network) (name : String) : List Move → List Desk.Op
  | [] => []
  | move :: moves => move.ops home n name ++ (n.step home move).trace home name moves

/-- What has become of the desk of one instance when another node was put in a place. -/
private theorem put_desk (n : Network) {name' : String} {x : Node} {s : Site} {ops : List Desk.Op}
    (h : x.desk = (n.nodes name').desk.after ops) (name : String) :
    ((n.put name' x s).nodes name).desk =
      (n.nodes name).desk.after (if name' = name then ops else []) := by
  by_cases hname : name' = name
  · subst hname
    rw [put_nodes_self, if_pos rfl, h]
  · rw [put_nodes_of_ne n x s (Ne.symm hname), if_neg hname, Desk.after_nil]

/-- The same where an instance changes and its tickets do not. -/
private theorem become_desk (n : Network) {name' : String} {i : Instance} {s : Site}
    {ops : List Desk.Op} (h : (⟨i.correlator, (n.nodes name').tickets⟩ : Desk) =
      Desk.after ⟨(n.nodes name').inst.correlator, (n.nodes name').tickets⟩ ops) (name : String) :
    ((n.become name' i s).nodes name).desk =
      (n.nodes name).desk.after (if name' = name then ops else []) :=
  n.put_desk (x := { n.nodes name' with inst := i }) h name

/-- A move does to each desk what its operations do. -/
theorem desk_step (home : String → String) (n : Network) (name : String) (move : Move) :
    ((n.step home move).nodes name).desk = (n.nodes name).desk.after (move.ops home n name) := by
  -- each move changes one node at most; the others keep their desks
  cases move with
  | start name' c d reporter =>
    exact n.become_desk ((n.nodes name').inst.start_ops n.site _ c d reporter) name
  | conclude name' c d id outcome =>
    exact n.become_desk ((n.nodes name').inst.conclude_ops _ c d id outcome) name
  | work name' op => exact n.put_desk rfl name
  | deliver place via =>
    simp only [step, Move.ops]
    -- a place at which nothing was sent delivers nothing
    cases n.sent[place]? with
    | none => rfl
    | some m => exact n.become_desk (Instance.receive_ops _ n.site _ via m) name
  | failTransmission name' uri h failure =>
    exact n.become_desk ((n.nodes name').inst.failTransmission_ops n.site _ uri h failure) name
  | close name' => exact n.become_desk ((n.nodes name').inst.close_ops n.site _) name
  | act kept call =>
    simp only [step, Move.ops]
    split <;> rfl
  | arrange name' clock security relay routing bindings =>
    -- the tickets and the correlator are all that a desk shows of a node
    let i : Instance :=
      { (n.nodes name').inst with
        clock := clock, security := security, relay := relay, routing := routing
        bindings := bindings }
    have hdesk := @become_desk n name' i n.site [] rfl name
    rwa [ite_self] at hdesk
  | pass now endpoints memories => rfl

/-- A run does to each desk what its operations do. -/
theorem desk_after (home : String → String) (n : Network) (name : String) (moves : List Move) :
    ((n.after home moves).nodes name).desk =
      (n.nodes name).desk.after (n.trace home name moves) := by
  induction moves generalizing n with
  | nil => rfl
  | cons move moves ih =>
    rw [after_cons, ih, desk_step, trace, Desk.after, Desk.after, Desk.after, List.foldl_append]

/-- The desks of a network in which nothing has happened are new. -/
private theorem IsNew.exists_desk_new (hnew : n.IsNew) (name : String) :
    ∃ allocator patience, (n.nodes name).desk = Desk.new allocator patience := by
  obtain ⟨settings, clock, now, hcreated⟩ := hnew.created name
  rw [hcreated]
  exact ⟨_, _, rfl⟩

/-- Whatever happens in a network, the desk of an instance is one that an instance comes to. -/
theorem IsNew.exists_desk_after (hnew : n.IsNew) (home : String → String) (name : String)
    (moves : List Move) :
    ∃ allocator patience ops,
      ((n.after home moves).nodes name).desk = (Desk.new allocator patience).after ops := by
  obtain ⟨allocator, patience, hdesk⟩ := hnew.exists_desk_new name
  exact ⟨allocator, patience, n.trace home name moves, by rw [desk_after, hdesk]⟩

end Network

end Mal
