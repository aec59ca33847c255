import Mal.Correlation.Allocator
import Mal.Correlation.ReplyState
import Mal.Directory
import Mal.Listener

/-!
# Correlating replies with pending interactions

The initiating side of an instance keeps its pending interactions in a `Correlator`, under their
transaction ids. Each pending interaction, an `Exchange`, follows its replies with a `ReplyState`.

What arrives for an exchange is either handed to its listener, or, when it has none, put into its
mailbox, from which the initiator collects it. A mailbox belongs to one exchange for good: its
serial number tells it apart from the mailbox of any other exchange, also of one that uses the same
transaction id later, and it outlives the exchange's place in the table. An initiator that began to
wait (`await`) holds a ticket for the mailbox and can go on waiting whatever happens to the table.

A listened exchange leaves the table when its last outcome is handed over. A waited exchange leaves
it when its last outcome is collected, or when a wait for it expires.
-/

namespace Mal

/-- One outcome in the mailbox of an exchange. -/
structure Delivery where
  outcome : Except Failure Message
  /-- Whether this is the last outcome of the exchange. -/
  terminal : Bool

/-- A pending interaction. -/
structure Exchange where
  /-- Tells exchanges apart that have had the same transaction id. -/
  serial : Nat
  pattern : Pattern
  state : ReplyState
  /-- Where outcomes go; without a listener they go to the mailbox. -/
  listener : Option Listener

/-- The right to collect from one mailbox. -/
structure Ticket where
  transaction : TransactionId
  serial : Nat
  deriving DecidableEq

/-- An outcome on its way to a listener. -/
structure Report where
  /-- The exchange that the outcome is one of. -/
  serial : Nat
  listener : Listener
  outcome : Outcome
  deriving DecidableEq

/-- The pending interactions that an instance has initiated. -/
structure Correlator where
  allocator : Allocator
  exchanges : Directory TransactionId Exchange := .empty
  mailboxes : Directory Nat (List Delivery) := .empty
  /-- Number of exchanges made so far, and serial number of the next. -/
  made : Nat := 0
  /-- How long a wait lasts when the waiter does not say, in milliseconds. -/
  patience : UInt64

namespace Correlator

/-! ## Mailboxes and entries -/

/-- What waits in the mailbox with this serial number, oldest first. -/
def mailbox (c : Correlator) (serial : Nat) : List Delivery :=
  (c.mailboxes.get? serial).getD []

/-- Adds an outcome to a mailbox. -/
def post (c : Correlator) (serial : Nat) (d : Delivery) : Correlator :=
  { c with mailboxes := c.mailboxes.put serial (c.mailbox serial ++ [d]) }

/-- Whether something is pending under the id. -/
def contains (c : Correlator) (id : TransactionId) : Bool :=
  c.exchanges.contains id

/-- Adds an exchange under an id. -/
def add (c : Correlator) (id : TransactionId) (pattern : Pattern) (state : ReplyState)
    (listener : Option Listener) : Correlator :=
  { c with
    exchanges := c.exchanges.put id ⟨c.made, pattern, state, listener⟩
    made := c.made + 1 }

/-- Removes the exchange under the ticket's id, if it is the one the ticket was given for. -/
def release (c : Correlator) (t : Ticket) : Correlator :=
  { c with exchanges := c.exchanges.eraseIf fun id x => id = t.transaction && x.serial == t.serial }

/-! ## Starting -/

/-- Starts an interaction at a stage and gives its transaction id. Nothing is kept of an interaction
    that has no replies. `seconds` is the present reading of the clock.

    The search for an id can only fail when all ids of a magnitude are in use. -/
def initiate (c : Correlator) (seconds : UInt64) (pattern : Pattern) (stage : Option Stage)
    (listener : Option Listener) : Correlator × Except Failure TransactionId :=
  match ReplyState.initial pattern stage with
  | .error failure => (c, .error failure)
  | .ok state? =>
    match c.allocator.next (fun _ => seconds) c.contains with
    | none => (c, .error (.internal "no transaction id is free"))
    | some (id, allocator) =>
      let c := { c with allocator := allocator }
      match state? with
      | none => (c, .ok id)
      | some state => (c.add id pattern state listener, .ok id)

/-- Takes over an interaction that was started elsewhere and has come to the stage `last`. -/
def resume (c : Correlator) (pattern : Pattern) (last : Stage) (id : TransactionId)
    (listener : Listener) : Correlator × Except Failure Unit :=
  match ReplyState.resume pattern last with
  | .error (.incorrectState message _ stage) =>
    (c, .error (.incorrectState message (some id) stage))
  | .error failure => (c, .error failure)
  | .ok state =>
    if c.contains id then (c, .error (.disorder .idInUse (some id) (some last)))
    else (c.add id pattern state (some listener), .ok ())

/-! ## Replies and errors -/

/-- Takes in a reply. A reply that belongs to no pending interaction is dropped; one that its
    interaction does not expect is refused. Gives what is to be reported to a listener. -/
def receive (c : Correlator) (m : Message) : Correlator × Except Failure (Option Report) :=
  match m.header.transaction with
  | none => (c, .ok none)
  | some id =>
    match c.exchanges.get? id with
    | none => (c, .ok none)
    | some x =>
      match x.state.receive m.header with
      | .error failure => (c, .error failure)
      | .ok state =>
        match x.listener with
        | none =>
          let outcome := match m.error? with
            | some error => .error (.standard error)
            | none => .ok m
          let c := { c with exchanges := c.exchanges.put id { x with state := state } }
          (c.post x.serial ⟨outcome, state.isFinished⟩, .ok none)
        | some listener =>
          let exchanges :=
            if state.isFinished then c.exchanges.erase id
            else c.exchanges.put id { x with state := state }
          ({ c with exchanges := exchanges }, .ok (some ⟨x.serial, listener, .ofMessage m⟩))

/-- Header under which an error is reported that did not arrive as a reply. A header that already is
    an error's, or is at the stage that was waited for, is kept; another one is answered; without
    one there is only what the exchange knows of itself. -/
def errorHeader (now : UInt64) (id : TransactionId) (x : Exchange) (stage : Stage) :
    Option Header → Header
  | some h =>
    if h.isError ∨ h.stageOrZero = stage then { h with isError := true } else h.reply now stage true
  | none =>
    { uriFrom := "", uriTo := "", pattern := x.pattern, stage := some stage, timestamp := now,
      transaction := some id, isError := true }

/-- The report of an error to an exchange's listener, if it has one. -/
def errorReport (now : UInt64) (id : TransactionId) (x : Exchange) (stage : Stage)
    (header : Option Header) (failure : Failure) : Option Report :=
  x.listener.map fun listener =>
    ⟨x.serial, listener, .error (errorHeader now id x stage header) failure.standardError⟩

/-- Ends the interaction that a header belongs to. Nothing happens if none is pending, or if all its
    outcomes have arrived and only wait to be collected. -/
def fail (c : Correlator) (now : UInt64) (header : Header) (failure : Failure) :
    Correlator × Option Report :=
  match header.transaction with
  | none => (c, none)
  | some id =>
    match c.exchanges.get? id with
    | none => (c, none)
    | some x =>
      match x.state.fail with
      | none => (c, none)
      | some (stage, state) =>
        match x.listener with
        | none =>
          let c := { c with exchanges := c.exchanges.put id { x with state := state } }
          (c.post x.serial ⟨.error failure, true⟩, none)
        | some _ =>
          ({ c with exchanges := c.exchanges.erase id },
           errorReport now id x stage (some header) failure)

/-- Forgets a pending interaction without telling anyone; says whether there was one. -/
def abandon (c : Correlator) (id : TransactionId) : Correlator × Bool :=
  ({ c with exchanges := c.exchanges.erase id }, c.contains id)

/-- What pending interactions are told when their instance closes. -/
def closed : Failure :=
  .standard (.withInfo StandardError.shutdown "MAL instance closed")

/-- It is the standard error of a shutdown. -/
theorem exists_closed_eq : ∃ info, closed = .standard ⟨StandardError.shutdown, info⟩ :=
  ⟨_, rfl⟩

/-- Ends every pending interaction and empties the table. -/
def shutdown (c : Correlator) (now : UInt64) : Correlator × List Report :=
  let ended := c.exchanges.entries.filterMap fun (id, x) =>
    x.state.fail.map fun (stage, _) => (id, x, stage)
  let waited := ended.filter fun (_, x, _) => x.listener.isNone
  let c := waited.foldl (fun c (_, x, _) => c.post x.serial ⟨.error closed, true⟩) c
  ({ c with exchanges := .empty },
   ended.filterMap fun (id, x, stage) => errorReport now id x stage none closed)

/-! ## Waiting -/

/-- Begins to wait for the outcomes of a pending interaction. -/
def await (c : Correlator) (id : TransactionId) : Except Failure Ticket :=
  match c.exchanges.get? id with
  | none => .error (.disorder .notPending (some id) none)
  | some x =>
    match x.listener with
    | some _ => .error (.disorder .listened (some id) none)
    | none => .ok ⟨id, x.serial⟩

/-- Takes the oldest outcome out of the ticket's mailbox, if there is one. The last outcome of an
    exchange also takes it off the table. -/
def collect (c : Correlator) (t : Ticket) : Option (Except Failure Message × Correlator) :=
  match c.mailbox t.serial with
  | [] => none
  | d :: rest =>
    let c := { c with mailboxes := c.mailboxes.put t.serial rest }
    some (d.outcome, if d.terminal then c.release t else c)

/-- Gives up a wait that lasted too long. -/
def expire (c : Correlator) (t : Ticket) (milliseconds : UInt64) : Correlator × Failure :=
  (c.release t, .timeout t.transaction milliseconds)

end Correlator

end Mal
