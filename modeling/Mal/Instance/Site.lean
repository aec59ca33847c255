import Mal.Broker.Broker
import Mal.Directory
import Mal.Listener
import Mal.Provider.Respondent

/-!
# Sites

A `Site` is what surrounds the instances of a system while they work: the time, the transport, the
respondents that providers hold, and what brokers remember. It also keeps a record of what happened
(`Event`), which is all that listeners, providers and brokers are to an instance.
-/

namespace Mal

/-- Something that a listener, a provider or a broker took part in. -/
inductive Event where
  /-- A callback of a listener was invoked. -/
  | told (notice : Notice)
  /-- A handler was given an initial message. -/
  | served (address : Address) (message : Message)
  /-- A reply call was made on a respondent, with the given result. -/
  | replied (respondent : Respondent) (call : ReplyCall) (result : ReplyResult)
  /-- A broker was given a request. -/
  | asked (broker : Broker) (header : Header) (request : BrokerRequest)
  /-- A broker put a request on record. -/
  | recorded (broker : Broker) (memory : BrokerMemory)

/-- What surrounds the instances of a system. -/
structure Site where
  /-- Milliseconds since 1970. -/
  now : UInt64
  transport : Transport := {}
  /-- The answering sides of all interactions that providers were given, oldest first. -/
  respondents : List Respondent := []
  /-- Places of the respondents that handlers kept, by name. -/
  kept : Directory String Nat := .empty
  /-- What brokers remember. -/
  memories : Directory Nat BrokerMemory := .empty
  /-- What happened, oldest first. -/
  events : List Event := []

namespace Site

/-- Adds to the record of what happened. -/
def note (s : Site) (e : Event) : Site :=
  { s with events := s.events ++ [e] }

/-- Records that a listener was told an outcome, if a callback reports it. -/
def tell (s : Site) (notice : Option Notice) : Site :=
  match notice with
  | none => s
  | some n => s.note (.told n)

/-- Sends a message through an endpoint. -/
def send (s : Site) (e : EndpointRef) (m : Message) : Except Failure Unit × Site :=
  let (result, transport) := s.transport.send e m
  (result, { s with transport := transport })

/-! ## Replies -/

/-- Sends a reply of a bound provider. -/
def respond (s : Site) (a : Address) (source : Header) (properties : Properties) (stage : Stage)
    (body : Body) : Except Failure Unit × Site :=
  s.send a.endpoint (a.response s.now source properties stage body)

/-- Sends an error reply of a bound provider. -/
def respondError (s : Site) (a : Address) (source : Header) (stage : Stage)
    (error : StandardError) : Except Failure Unit × Site :=
  s.send a.endpoint (a.errorResponse s.now source stage error)

/-- Sends a reply through the endpoint that a message came in by, for replies that no bound provider
    is responsible for. -/
def respondVia (s : Site) (e : EndpointRef) (source : Header) (properties : Properties)
    (stage : Stage) (body : Body) : Except Failure Unit × Site :=
  s.send e
    { header := source.reply s.now stage false, body := body, properties := properties }

/-- Sends an error reply through the endpoint that a message came in by. -/
def respondErrorVia (s : Site) (e : EndpointRef) (source : Header) (stage : Stage)
    (error : StandardError) : Except Failure Unit × Site :=
  s.send e (.ofError (source.reply s.now stage true) error)

/-! ## Respondents and handlers -/

/-- Makes a reply call on a respondent: records the reply, sends it, and takes the record back if
    the send fails. -/
def reply (s : Site) (r : Respondent) (call : ReplyCall) : ReplyResult × Respondent × Site :=
  match r.begin s.now call with
  | none => (none, r, s)
  | some (.error failure) => (some (.error failure), r, s)
  | some (.ok (begun, m)) =>
    let (result, s) := s.send r.address.endpoint m
    (some result, begun.settle r.progress result, s)

/-- Makes a reply call and records it among the events, with the respondent as it is afterwards. -/
def replyNoted (s : Site) (r : Respondent) (call : ReplyCall) : ReplyResult × Respondent × Site :=
  let (result, r, s) := s.reply r call
  (result, r, s.note (.replied r call result))

end Site

/-- Carries out what a handler does with an interaction. -/
def Conduct.run : Conduct → Respondent → Site → Except Failure Unit × Respondent × Site
  | .finish result, r, s => (result, r, s)
  | .reply call next, r, s =>
    let (result, r, s) := s.replyNoted r call
    (next result).run r s
  | .failNextSend next, r, s =>
    next.run r { s with transport := s.transport.update r.address.endpoint.slot Endpoint.failNext }
  | .keep name next, r, s =>
    next.run r { s with kept := s.kept.put name s.respondents.length }

namespace Site

/-- Gives an initial message to the handler of a provider. The respondent is kept with the others,
    at the place where a handler that keeps it expects it. -/
def serve (s : Site) (a : Address) (m : Message) : Except Failure Unit × Respondent × Site :=
  let (result, r, s) :=
    (a.handler.conduct m).run { request := m, address := a } (s.note (.served a m))
  (result, r, { s with respondents := s.respondents ++ [r] })

/-- Makes a reply call on the respondent kept under a name; `none` if there is none. -/
def replyKept (s : Site) (name : String) (call : ReplyCall) :
    Option (ReplyResult × ReplyProgress × Site) :=
  match s.kept.get? name with
  | none => none
  | some place =>
    match s.respondents[place]? with
    | none => none
    | some r =>
      let (result, r, s) := s.reply r call
      some (result, r.progress, { s with respondents := s.respondents.set place r })

/-! ## Brokers -/

/-- What a broker remembers. -/
def memory (s : Site) (b : Broker) : BrokerMemory :=
  (s.memories.get? b.slot).getD {}

end Site

/-- Carries out what a broker does with a request. -/
def BrokerConduct.run : BrokerConduct → Site → Except Failure Unit × BrokerMemory × Site
  | .finish memory result, s => (result, memory, s)
  | .send endpoint m next, s =>
    let (result, s) := s.send endpoint m
    (next result).run s

namespace Site

/-- Asks a broker. A broker that keeps a record of requests has it reported whenever it grows. -/
def ask (s : Site) (b : Broker) (h : Header) (request : BrokerRequest) :
    Except Failure Unit × Site :=
  let before := s.memory b
  let (result, after, s) := (b.conduct s.now before h request).run (s.note (.asked b h request))
  let s := { s with memories := s.memories.put b.slot after }
  (result, if after.calls.length = before.calls.length then s else s.note (.recorded b after))

end Site

end Mal
