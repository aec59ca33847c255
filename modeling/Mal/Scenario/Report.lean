import Mal.Json.Brief
import Mal.Scenario.World

/-!
# Reports on a world

After each step of a scenario a report says what the step brought about: the messages sent since the
last report, what listeners, providers and brokers took part in, the calls that ended, and the size
of each instance's tables.
-/

namespace Mal

namespace Notice

/-- What a listener was told. -/
def toJson (n : Notice) : Json :=
  let told := match n.outcome with
    | .message m => [("message", m.toBrief)]
    | .error h e => [("header", h.toBrief), ("error", e.toJson)]
  .object ([("listener", .string n.listener), ("callback", .string n.callback.name)] ++ told)

/-- Whether what a listener is told goes into reports. Listeners that record for themselves, and
    those that are meant to be quiet, are left out. -/
def isReported (n : Notice) : Bool :=
  !(n.listener.startsWith "rec" || n.listener.startsWith "quiet")

end Notice

/-- The result of a reply call; one that the pattern does not have is bad input. -/
def ReplyResult.toJson : ReplyResult → Json
  | some result => .ofOutcome result
  | none => .object [("error", .string "BadInput")]

/-- How far the answers to an interaction have come. -/
def ReplyProgress.toJson (p : ReplyProgress) : Json :=
  .array [.bool p.acknowledged, .bool p.complete]

namespace BrokerRequest

/-- What a request is about. -/
def toJson : BrokerRequest → Json
  | register s => s.toJson
  | publishRegister keys => .array (keys.map EntityKey.toJson)
  | publish updates => .array (updates.map Update.toJson)
  | deregister ids => .array (ids.map .string)
  | publishDeregister => .null

end BrokerRequest

namespace Event

/-- An event in a report, if it is reported. -/
def toJson? : Event → Option Json
  | told n => if n.isReported then some n.toJson else none
  | served a m =>
    if a.handler.observed m.header.pattern then
      some (.object
        [("provider", .string a.handler.name),
         ("pattern", .string (Handler.patternWord m.header.pattern)), ("message", m.toBrief),
         ("at", .string a.uri)])
    else none
  | replied r call result =>
    if r.address.handler.observed r.pattern then
      some (.object
        [("provider", .string r.address.handler.name), ("act", .string call.name),
         ("result", ReplyResult.toJson result), ("progress", r.progress.toJson)])
    else none
  | asked b h request =>
    if b.observed then
      some (.object
        [("broker", .string b.name), ("call", .string request.name), ("header", h.toBrief),
         ("arg", request.toJson)])
    else none
  | recorded b memory =>
    if b.observed then
      some (.object
        [("broker", .string b.name), ("calls", .array (memory.calls.map .string)),
         ("subscriptions", .natural memory.subscriptions.length)])
    else none

/-- Where an event stands among events that happened at once: by listener, then by transaction. -/
def rank : Event → String × Nat
  | told n =>
    let transaction := match n.outcome with
      | .message _ => none
      | .error h _ => h.transaction
    (n.listener, (transaction.map UInt64.toNat).getD 0)
  | _ => ("", 0)

/-- Whether an event does not come after another that happened at once. -/
def atMost (a b : Event) : Bool :=
  a.rank.1 < b.rank.1 || (a.rank.1 == b.rank.1 && a.rank.2 ≤ b.rank.2)

end Event

namespace CallValue

def toJson : CallValue → Json
  | sent => .object [("ok", .null)]
  | started id => .object [("ok", .natural id.toNat)]
  | reply m => .object [("ok", m.toBrief)]
  | first m id isPending =>
    .object
      [("ok", m.toBrief), ("transaction_id", .natural id.toNat), ("is_pending", .bool isPending)]
  | further m isPending => .object [("ok", m.toBrief), ("is_pending", .bool isPending)]

end CallValue

/-- A value that is left out of a report when there is nothing in it. -/
def Json.unlessEmpty (name : String) (items : List Json) : List (String × Json) :=
  if items.isEmpty then [] else [(name, .array items)]

namespace World

/-- Takes note of the messages that were sent: gives them their places in the history, endpoint by
    endpoint, and puts them into the queue. -/
def noteSent (w : World) : World × List Json :=
  let transport := w.site.transport
  let sent := transport.sent.mergeSort fun a b => a.1 ≤ b.1
  let noted := sent.zipIdx w.history.size
  ({ w with
      site := { w.site with transport := { transport with sent := [] } }
      history := w.history ++ (sent.map Prod.snd).toArray
      queue := w.queue ++ noted.map Prod.snd },
   noted.map fun ((slot, m), n) =>
     .object
       [("n", .natural n), ("endpoint", .string (w.endpointName slot)), ("message", m.toBrief)])

/-- Takes note of what happened; `atOnce` says that it all happened at once. -/
def noteEvents (w : World) (atOnce : Bool) : World × List Json :=
  let events := if atOnce then w.site.events.mergeSort Event.atMost else w.site.events
  let told := w.site.events.filterMap fun
    | .told n => some n
    | _ => none
  ({ w with site := { w.site with events := [] }, notices := w.notices ++ told },
   events.filterMap Event.toJson?)

/-- Takes note of the calls that are over. -/
def noteFinished (w : World) : World × List Json :=
  let finished := w.finished.mergeSort fun a b => a.1 ≤ b.1
  ({ w with finished := [] },
   finished.map fun (id, result) =>
     let result := match result with
       | .ok value => value.toJson
       | .error failure => failure.toBrief
     .object [("call", .string id), ("result", result)])

/-- Sizes of an instance's tables: pending interactions, notify routes, publisher routes, providers
    and brokers. -/
def sizes (i : Instance) : Json :=
  .array
    ([i.correlator.exchanges.size, i.routing.notify.size, i.routing.publishers.size,
      i.bindings.providers.size, i.bindings.brokers.size].map .natural)

/-- Lets calls go on and reports, with the result of what was done last. -/
def report (w : World) (atOnce : Bool) (result : Json) (extra : List (String × Json)) :
    World × Json :=
  let (w, sent) := w.settle.noteSent
  let (w, events) := w.noteEvents atOnce
  let (w, done) := w.noteFinished
  let state := w.instances.entries.map fun (name, i) => (name, sizes i)
  (w, .object
    (extra ++ [("result", result)] ++ Json.unlessEmpty "sent" sent
      ++ Json.unlessEmpty "events" events ++ Json.unlessEmpty "done" done
      ++ [("state", .object state)]))

end World

end Mal
