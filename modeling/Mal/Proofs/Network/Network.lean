import Mal.Instance.Dispatch
import Mal.Proofs.Correlation.Desk
import Mal.Consumer.Consumer

/-!
# Networks of instances

A `Network` is a site with an instance for every name, each with the tickets that were given out for
its mailboxes. What happens in it is a list of moves (`Network.Move`), in any order: consumers start
interactions, initiators wait for them and give them up, messages arrive, handlers go on answering,
and whatever surrounds the pending interactions changes.

The transport keeps every message that was sent. It may deliver any of them at any time, any number
of times or never, to the instance that is at home at the URI the message is for.
-/

namespace Mal

/-- An instance at work, with the tickets that were given out for its mailboxes. -/
structure Node where
  inst : Instance
  tickets : List Ticket := []

namespace Node

/-- The pending interactions of the instance and their tickets. -/
def desk (x : Node) : Desk :=
  { table := x.inst.correlator, tickets := x.tickets }

/-- Does something with the pending interactions. -/
def work (x : Node) (op : Desk.Op) : Node :=
  let d := (x.desk.step op).1
  { inst := { x.inst with correlator := d.table }, tickets := d.tickets }

end Node

/-- Instances by their names, and what surrounds them. -/
structure Network where
  site : Site
  nodes : String → Node

namespace Network

/-- What happens in a network. A move that belongs to an instance has its name. -/
inductive Move where
  /-- A consumer starts an interaction. -/
  | start (name : String) (c : Consumer) (d : Demand) (reporter : Option String)
  /-- An initiator draws the consequences of the first answer. -/
  | conclude (name : String) (c : Consumer) (d : Demand) (id : TransactionId)
      (outcome : Except Failure Message)
  /-- Something is done directly with the pending interactions: a wait begins, goes on or expires,
      an interaction is resumed or abandoned. -/
  | work (name : String) (op : Desk.Op)
  /-- A message that was sent, found by its place among these, comes in by an endpoint. -/
  | deliver (place : Nat) (via : EndpointRef)
  /-- The transport reports that it could not deliver something. -/
  | failTransmission (name : String) (uri : String) (h : Option Header) (failure : Failure)
  | close (name : String)
  /-- A call is made on a respondent that a handler kept. -/
  | act (kept : String) (call : ReplyCall)
  /-- Everything about an instance changes but its settings and pending interactions. -/
  | arrange (name : String) (clock : Clock) (security : Security) (relay : Relay)
      (routing : Routing) (bindings : Bindings)
  /-- Time passes; endpoints are opened, closed and made to fail, and brokers change what they
      remember. -/
  | pass (now : UInt64) (endpoints : List Endpoint) (memories : Directory Nat BrokerMemory)

/-- The messages that were sent, oldest first. -/
def sent (n : Network) : List Message :=
  n.site.transport.sent.map Prod.snd

/-- Puts a node in the place of another, and changes the site. -/
def put (n : Network) (name : String) (x : Node) (s : Site) : Network :=
  { site := s, nodes := fun other => if other = name then x else n.nodes other }

/-- Changes an instance and the site. -/
def become (n : Network) (name : String) (i : Instance) (s : Site) : Network :=
  n.put name { n.nodes name with inst := i } s

/-- Carries out a move. `home` says which instance is at home at a URI. -/
def step (home : String → String) (n : Network) : Move → Network
  | .start name c d reporter =>
    let (i, s, _) := (n.nodes name).inst.start n.site c d reporter
    n.become name i s
  | .conclude name c d id outcome =>
    n.become name ((n.nodes name).inst.conclude c d id outcome).1 n.site
  | .work name op => n.put name ((n.nodes name).work op) n.site
  | .deliver place via =>
    match n.sent[place]? with
    | none => n
    | some m =>
      let name := home m.header.uriTo
      let (i, s) := (n.nodes name).inst.receive n.site via m
      n.become name i s
  | .failTransmission name uri h failure =>
    let (i, s) := (n.nodes name).inst.failTransmission n.site uri h failure
    n.become name i s
  | .close name =>
    let (i, s) := (n.nodes name).inst.close n.site
    n.become name i s
  | .act kept call =>
    match n.site.replyKept kept call with
    | none => n
    | some (_, _, s) => { n with site := s }
  | .arrange name clock security relay routing bindings =>
    let i := { (n.nodes name).inst with
      clock := clock, security := security, relay := relay, routing := routing
      bindings := bindings }
    n.become name i n.site
  | .pass now endpoints memories =>
    { n with
      site := { n.site with
        now := now, transport := { n.site.transport with endpoints := endpoints }
        memories := memories } }

/-- What the holder of a ticket gets next, if anything waits for them. -/
def outcome? (n : Network) (name : String) (t : Ticket) : Option (Except Failure Message) :=
  ((n.nodes name).inst.correlator.collect t).map Prod.fst

/-- The network after several moves. -/
def after (home : String → String) (n : Network) (moves : List Move) : Network :=
  moves.foldl (step home) n

@[simp] theorem after_nil (home : String → String) (n : Network) : n.after home [] = n := rfl

@[simp] theorem after_cons (home : String → String) (n : Network) (move : Move)
    (moves : List Move) : n.after home (move :: moves) = (n.step home move).after home moves := rfl

/-- A network in which nothing has happened: its instances are new, each made at some time, and
    nothing was sent. -/
structure IsNew (n : Network) : Prop where
  created (name : String) : ∃ settings clock now,
    n.nodes name = { inst := Instance.create settings clock now }
  sent : n.site.transport.sent = []
  respondents : n.site.respondents = []

/-- Instances that are all made alike, at some time. -/
def create (settings : Settings) (clock : Clock) (now : UInt64) : Network :=
  { site := { now := now }, nodes := fun _ => { inst := Instance.create settings clock now } }

theorem isNew_create (settings : Settings) (clock : Clock) (now : UInt64) :
    (create settings clock now).IsNew where
  created _ := ⟨settings, clock, now, rfl⟩
  sent := rfl
  respondents := rfl

theorem put_nodes_self (n : Network) (name : String) (x : Node) (s : Site) :
    (n.put name x s).nodes name = x :=
  if_pos rfl

theorem put_nodes_of_ne (n : Network) {name other : String} (x : Node) (s : Site)
    (h : other ≠ name) : (n.put name x s).nodes other = n.nodes other :=
  if_neg h

/-- Where no instance changes, only the site does. -/
theorem become_self (n : Network) (name : String) (s : Site) :
    n.become name (n.nodes name).inst s = { n with site := s } := by
  refine congrArg (Network.mk s) (funext fun other => ?_)
  by_cases h : other = name
  · rw [if_pos h, h]
  · rw [if_neg h]

end Network

end Mal
