import Mal.Broker.Distributor
import Mal.Broker.Recorder
import Mal.Consumer.Consumer
import Mal.Instance.Dispatch

/-!
# Worlds

A world is a number of instances with their endpoints, consumers, providers and brokers, and one
queue of the messages that were sent and not delivered yet. Nothing in it happens by itself: a
message arrives when it is delivered, and time passes when it is told to.

What initiators wait for are calls. The calls that wait on one mailbox take turns in the order in
which they were started: the first one has the turn until it is over, and its patience counts from
the moment its turn begins (`World.settle`).
-/

namespace Mal

/-- A consumer on the instance with a name. -/
structure ConsumerAt where
  home : String
  consumer : Consumer

/-- A handle on an interaction of the instance with a name. -/
structure HandleAt where
  home : String
  handle : Handle
  deriving DecidableEq

/-- What a call has been made for, which says what happens when its wait is over. -/
inductive Purpose where
  /-- The first answer to a consumer's interaction. -/
  | answer (consumer : Consumer) (demand : Demand)
  /-- A further answer, by a handle. -/
  | stage (handle : HandleAt)
  /-- Just the outcome. -/
  | outcome

/-- Someone who waits. -/
structure Call where
  id : String
  /-- Name of the instance. -/
  home : String
  ticket : Ticket
  patience : UInt64
  purpose : Purpose
  /-- When the wait is given up; known from the beginning of the call's turn. -/
  deadline : Option Nat := none

/-- What a call gives its caller. -/
inductive CallValue where
  /-- The message was sent. -/
  | sent
  /-- An asynchronous interaction was started. -/
  | started (id : TransactionId)
  | reply (message : Message)
  /-- The first of several answers; whether others are still to come. -/
  | first (message : Message) (id : TransactionId) (isPending : Bool)
  /-- A further answer. -/
  | further (message : Message) (isPending : Bool)

/-- Instances and what surrounds them. -/
structure World where
  site : Site
  instances : Directory String Instance := .empty
  /-- The name of each endpoint's instance, by the place of the endpoint. -/
  homes : List String := []
  consumers : Directory String ConsumerAt := .empty
  brokers : Directory String Broker := .empty
  /-- Number of brokers made so far. -/
  brokersMade : Nat := 0
  /-- Milliseconds that have passed. -/
  elapsed : Nat := 0
  /-- The calls that wait, in the order in which they were started. -/
  calls : List Call := []
  /-- The names of all calls that were started. -/
  callIds : List String := []
  /-- The handles of calls that were answered. -/
  handles : Directory String HandleAt := .empty
  /-- Handles that were dropped, but may still be in use by calls. -/
  dropped : List HandleAt := []
  /-- Calls that are over, with their results. -/
  finished : List (String × Except Failure CallValue) := []
  /-- All messages that were sent and taken note of. -/
  history : Array Message := #[]
  /-- Places in the history of the messages that are still to be delivered. -/
  queue : List Nat := []
  /-- All that listeners were told. -/
  notices : List Notice := []

namespace World

/-- Changes the state of an instance. -/
def setInstance (w : World) (name : String) (i : Instance) : World :=
  { w with instances := w.instances.put name i }

/-- The endpoint with a name; of several, the last. -/
def endpoint? (w : World) (name : String) : Option EndpointRef :=
  let found := w.site.transport.endpoints.zipIdx.reverse.find? fun (e, _) => e.name == name
  found.map fun (e, slot) => { slot := slot, uri := e.uri }

/-- The endpoint that messages for a URI are delivered to; of several, the first. -/
def destination? (w : World) (uri : String) : Option EndpointRef :=
  let found := w.site.transport.endpoints.zipIdx.find? fun (e, _) => e.uri == uri
  found.map fun (e, slot) => { slot := slot, uri := e.uri }

/-- The name of an endpoint. -/
def endpointName (w : World) (slot : Nat) : String :=
  (w.site.transport.endpoints[slot]?.map Endpoint.name).getD ""

/-- Adds an endpoint to an instance. -/
def addEndpoint (w : World) (name uri home : String) : World :=
  let transport := w.site.transport
  let endpoints := transport.endpoints ++ [{ name := name, uri := uri }]
  { w with
    site := { w.site with transport := { transport with endpoints := endpoints } }
    homes := w.homes ++ [home] }

/-- Changes the state of an endpoint. -/
def updateEndpoint (w : World) (slot : Nat) (change : Endpoint → Endpoint) : World :=
  { w with site := { w.site with transport := w.site.transport.update slot change } }

/-! ## Messages that come in -/

/-- Hands a message to the instance of an endpoint. -/
def receive (w : World) (via : EndpointRef) (m : Message) : World :=
  match w.homes[via.slot]? with
  | none => w
  | some home =>
    match w.instances.get? home with
    | none => w
    | some i =>
      let (i, site) := i.receive w.site via m
      { w with site := site }.setInstance home i

/-- Delivers a message to where it is addressed, giving the endpoint it arrived at. -/
def deliver (w : World) (m : Message) : World × Option EndpointRef :=
  match w.destination? m.header.uriTo with
  | some via => (w.receive via m, some via)
  | none => (w, none)

/-! ## Calls -/

/-- Notes the result of a call. -/
def finish (w : World) (id : String) (result : Except Failure CallValue) : World :=
  { w with finished := w.finished ++ [(id, result)] }

/-- Drops the handle kept under a name. -/
def dropHandle (w : World) (id : String) : World :=
  match w.handles.get? id with
  | none => w
  | some h => { w with handles := w.handles.erase id, dropped := w.dropped ++ [h] }

/-- Whether a call waits by a handle. -/
def isInUse (w : World) (h : HandleAt) : Bool :=
  w.calls.any fun c =>
    match c.purpose with
    | .stage handle => handle == h
    | _ => false

/-- Abandons the interactions of dropped handles, unless calls still wait by them. -/
def abandonDropped (w : World) : World :=
  let unused := w.dropped.filter fun h => !w.isInUse h
  unused.foldl
    (fun w h =>
      match w.instances.get? h.home with
      | none => w
      | some i => w.setInstance h.home (i.abandon h.handle.transaction).1)
    { w with dropped := w.dropped.filter w.isInUse }

/-- Ends a call whose wait on instance `i` is over. -/
def conclude (w : World) (i : Instance) (c : Call) (outcome : Except Failure Message) : World :=
  let id := c.ticket.transaction
  match c.purpose with
  | .answer consumer demand =>
    let (i, handle?) := i.conclude consumer demand id outcome
    let w := w.setInstance c.home i
    match outcome, handle? with
    | .ok m, some handle =>
      let w := w.dropHandle c.id
      { w with handles := w.handles.put c.id ⟨c.home, handle⟩ }.finish c.id
        (.ok (.first m id (i.correlator.contains id)))
    | outcome, _ => w.finish c.id (outcome.map .reply)
  | .stage _ =>
    (w.setInstance c.home i).finish c.id
      (outcome.map fun m => .further m (i.correlator.contains id))
  | .outcome => (w.setInstance c.home i).finish c.id (outcome.map .reply)

/-- Lets calls go on that have their turn and either find an outcome or have waited too long. The
    mailboxes in `taken` are waited on by an earlier call. Gives the calls that go on waiting. -/
def settleCalls (w : World) (taken : List (String × Nat)) : List Call → World × List Call
  | [] => (w, [])
  | c :: rest =>
    let box := (c.home, c.ticket.serial)
    match w.instances.get? c.home with
    | none => settleCalls w taken rest
    | some i =>
      if box ∈ taken then
        let (w, rest) := settleCalls w taken rest
        (w, c :: rest)
      else
        let deadline := c.deadline.getD (w.elapsed + c.patience.toNat)
        match i.correlator.collect c.ticket with
        | some (outcome, correlator) =>
          settleCalls (w.conclude { i with correlator := correlator } c outcome) taken rest
        | none =>
          if deadline ≤ w.elapsed then
            let (correlator, failure) := i.correlator.expire c.ticket c.patience
            settleCalls (w.conclude { i with correlator := correlator } c (.error failure)) taken
              rest
          else
            let (w, rest) := settleCalls w (box :: taken) rest
            (w, { c with deadline := some deadline } :: rest)

/-- Lets every call go on as far as it can without time passing. -/
def settle (w : World) : World :=
  let (w, calls) := w.settleCalls [] w.calls
  { w with calls := calls }.abandonDropped

/-- Starts to wait for an outcome of the instance with a name. -/
def wait (w : World) (id home : String) (transaction : TransactionId) (patience : Option UInt64)
    (purpose : Purpose) : World :=
  let w := { w with callIds := id :: w.callIds }
  match w.instances.get? home with
  | none => w
  | some i =>
    match i.correlator.await transaction with
    | .error failure => w.finish id (.error failure)
    | .ok ticket =>
      let call :=
        { id := id, home := home, ticket := ticket, purpose := purpose
          patience := patience.getD i.correlator.patience }
      { w with calls := w.calls ++ [call] }

/-- Starts an interaction of a consumer and, if nobody else is told of its answer and there is one,
    to wait for it. -/
def call (w : World) (id : String) (c : ConsumerAt) (d : Demand) (reporter : Option String) :
    World :=
  match w.instances.get? c.home with
  | none => w
  | some i =>
    let (i, site, result) := i.start w.site c.consumer d reporter
    let w := { w with site := site }.setInstance c.home i
    let done := { w with callIds := id :: w.callIds }
    match result, reporter with
    | .error failure, _ => done.finish id (.error failure)
    | .ok transaction, some _ => done.finish id (.ok (.started transaction))
    | .ok transaction, none =>
      if d.isAnswered then
        w.wait id c.home transaction c.consumer.patience (.answer c.consumer d)
      else done.finish id (.ok .sent)

/-- Gives up the last call with a name, if it still waits. `none` if there never was one. -/
def cancel (w : World) (id : String) : Option World :=
  if id ∈ w.callIds then
    match w.calls.reverse.find? fun c => c.id == id with
    | none => some w
    | some c =>
      let calls := (w.calls.reverse.eraseP fun c => c.id == id).reverse
      let w := { w with calls := calls }
      match c.purpose, w.instances.get? c.home with
      | .answer _ _, some i =>
        some (w.setInstance c.home (i.abandon c.ticket.transaction).1)
      | _, _ => some w
  else none

end World

end Mal
