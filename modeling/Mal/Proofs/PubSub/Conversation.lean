import Mal.Proofs.PubSub.Scene

/-!
# Conversations with the broker

A demand goes from a consumer to the broker and, if the broker accepts it, an acknowledgement comes
back. In between nothing happens that is not described here: the request finds the broker bound, the
checks let it pass and the endpoints take it (`Scene.Open`), and the acknowledgement finds the
interaction pending that it belongs to, because nothing else is pending (`Scene.Ready`).

So a demand that the broker accepts comes to this (`Scene.Ready.converse_accepted`): the routes of
the consumer are prepared, the broker remembers what it made of the request, and the scene is ready
for the next call. It does not matter whether the consumer waits for the acknowledgement or has it
reported to a listener.

## Key results

- `Scene.settle_eq`: two rounds of deliveries, and nothing is under way any more
- `Scene.settle_of_accepted`: a request that the broker accepts
- `Scene.settle_reported`, `Scene.wait_collected`: its acknowledgement
- `Scene.Ready.converse_accepted`: what a demand comes to
-/

namespace Mal

namespace Network

/-- The same instances at another site. -/
def withSite (n : Network) (s : Site) : Network := { n with site := s }

variable {n : Network} {name : String} {x x' : Node} {s s' : Site} {home : String → String}

/-- The last node that was put in a place is there. -/
@[simp] theorem put_put : (n.put name x s).put name x' s' = n.put name x' s' := by
  refine congrArg (Network.mk s') (funext fun other => ?_)
  by_cases h : other = name
  · rw [if_pos h, if_pos h]
  · rw [if_neg h, if_neg h]
    exact put_nodes_of_ne n x s h

/-- A node that was put in a place goes on changing there. -/
private theorem put_become (i : Instance) :
    (n.put name x s).become name i s' = n.put name { x with inst := i } s' := by
  rw [become, put_nodes_self, put_put]

private theorem put_work (op : Desk.Op) :
    (n.put name x s).step home (.work name op) = n.put name (x.work op) s := by
  rw [step, put_nodes_self, put_put]
  rfl

private theorem put_conclude (c : Consumer) (d : Demand) (id : TransactionId)
    (outcome : Except Failure Message) :
    (n.put name x s).step home (.conclude name c d id outcome) =
      n.put name { x with inst := (x.inst.conclude c d id outcome).1 } s := by
  rw [step, put_nodes_self, put_become]
  rfl

end Network

namespace Node

/-- The instance with other pending interactions and tickets. -/
def withDesk (x : Node) (d : Desk) : Node :=
  { inst := { x.inst with correlator := d.table }, tickets := d.tickets }

/-- The instance with other routes. -/
def withRouting (x : Node) (r : Routing) : Node :=
  { x with inst := { x.inst with routing := r } }

variable {x : Node} {id : TransactionId} {t : Ticket}

/-- A wait begins. -/
private theorem work_await (h : x.inst.correlator.await id = .ok t) :
    x.work (.await id) = x.withDesk ⟨x.inst.correlator, t :: x.tickets⟩ := by
  simp only [work, Desk.step, desk, h, withDesk]

/-- A wait ends. -/
private theorem work_collect (ht : t ∈ x.tickets) {outcome : Except Failure Message}
    {k : Correlator} (h : x.inst.correlator.collect t = some (outcome, k)) :
    x.work (.collect t) = x.withDesk ⟨k, x.tickets⟩ := by
  simp only [work, Desk.step, desk, if_pos ht, h, withDesk]

end Node

namespace PubSub

variable {sc : Scene} {n : Network} {place : Nat}

namespace Scene

/-- Nothing stands in the way of messages: the broker is bound, the security checks let everything
    pass, and the endpoints take everything. -/
structure Open (sc : Scene) (n : Network) : Prop where
  bound : (n.nodes (sc.home sc.hub.uri)).inst.bindings.broker? sc.hub.uri = some sc.broker
  unrestricted (e : EndpointRef) : e ∈ sc.endpoints →
    (n.nodes (sc.home e.uri)).inst.security = .unrestricted
  takes (e : EndpointRef) : e ∈ sc.endpoints → n.site.TakesAll e

/-- The scene is ready for a call: besides, nothing is pending on the side of the consumers. -/
structure Ready (sc : Scene) (n : Network) : Prop extends sc.Open n where
  idle (c : Consumer) : c ∈ sc.consumers → (n.nodes (sc.name c)).inst.correlator.Idle

/-! ## Who is who -/

/-- The instances of the consumers are others than that of the broker. -/
private theorem name_ne_hub {c : Consumer} (hc : c ∈ sc.consumers) :
    sc.name c ≠ sc.home sc.hub.uri := by
  have hapart := sc.apart
  -- the three endpoints are at home on instances of their own
  simp only [List.nodup_cons, List.mem_cons, List.not_mem_nil, or_false, not_or] at hapart
  simp only [consumers, List.mem_cons, List.not_mem_nil, or_false] at hc
  rcases hc with rfl | rfl
  · exact hapart.1.2
  · exact hapart.2.1

/-- The instances of the consumers are two. -/
theorem name_ne : sc.name sc.subscriber ≠ sc.name sc.publisher := by
  have hapart := sc.apart
  simp only [List.nodup_cons, List.mem_cons, not_or] at hapart
  exact hapart.1.1

theorem consumer_mem (d : Demand) : sc.consumer d ∈ sc.consumers := by
  cases d <;> simp [consumer, consumers]

private theorem reaches {c : Consumer} (hc : c ∈ sc.consumers) : Reaches c sc.hub.uri := by
  simp only [consumers, List.mem_cons, List.not_mem_nil, or_false] at hc
  rcases hc with rfl | rfl
  · exact sc.subscriber_reaches
  · exact sc.publisher_reaches

private theorem endpoint_mem {c : Consumer} (hc : c ∈ sc.consumers) :
    c.addressing.endpoint ∈ sc.endpoints := by
  simp only [consumers, List.mem_cons, List.not_mem_nil, or_false] at hc
  rcases hc with rfl | rfl <;> simp [endpoints]

theorem hub_mem : sc.hub ∈ sc.endpoints := by
  simp [endpoints]

namespace Open

variable {c : Consumer}

/-- The security checks let every message pass. -/
theorem passes (h : sc.Open n) {e : EndpointRef} (he : e ∈ sc.endpoints) (m : Message) :
    (n.nodes (sc.home e.uri)).inst.security m = .ok m := by
  rw [h.unrestricted e he]
  rfl

/-- So does that of a consumer. -/
theorem passes_name (h : sc.Open n) (hc : c ∈ sc.consumers) (m : Message) :
    (n.nodes (sc.name c)).inst.security m = .ok m :=
  h.passes (endpoint_mem hc) m

/-- The site may change if endpoints go on taking everything. -/
theorem withSite (h : sc.Open n) {s : Site} (htakes : ∀ e, n.site.TakesAll e → s.TakesAll e) :
    sc.Open (n.withSite s) where
  bound := h.bound
  unrestricted := h.unrestricted
  takes e he := htakes e (h.takes e he)

/-- A consumer's instance may change anything but its security check. -/
private theorem put (h : sc.Open n) (hc : c ∈ sc.consumers) {x : Node} {s : Site}
    (hsecurity : x.inst.security = (n.nodes (sc.name c)).inst.security)
    (htakes : ∀ e, n.site.TakesAll e → s.TakesAll e) : sc.Open (n.put (sc.name c) x s) where
  bound := by
    -- the hub is another instance than the consumer's
    rw [Network.put_nodes_of_ne n x s (name_ne_hub hc).symm]
    exact h.bound
  unrestricted e he := by
    -- an endpoint is at home on the changed instance, or on one that stays as it was
    by_cases hname : sc.home e.uri = sc.name c
    · rw [hname, Network.put_nodes_self, hsecurity, ← hname]
      exact h.unrestricted e he
    · rw [Network.put_nodes_of_ne n x s hname]
      exact h.unrestricted e he
  takes e he := htakes e (h.takes e he)

end Open

/-- As long as nothing is pending then, the scene is ready again. -/
theorem Ready.put (h : sc.Ready n) {c : Consumer} (hc : c ∈ sc.consumers) {x : Node} {s : Site}
    (hsecurity : x.inst.security = (n.nodes (sc.name c)).inst.security)
    (hidle : x.inst.correlator.Idle) (htakes : ∀ e, n.site.TakesAll e → s.TakesAll e) :
    sc.Ready (n.put (sc.name c) x s) where
  toOpen := h.toOpen.put hc hsecurity htakes
  idle c' hc' := by
    by_cases hname : sc.name c' = sc.name c
    · -- the changed instance has nothing pending, and the others have what they had
      rw [hname, Network.put_nodes_self]
      exact hidle
    · rw [Network.put_nodes_of_ne n x s hname]
      exact h.idle c' hc'

/-! ## Deliveries -/

/-- A message that is delivered comes in where it is for. -/
theorem deliver_eq {place : Nat} {m : Message} {name : String} {i : Instance} {s : Site}
    (hsent : n.sent[place]? = some m) (hname : sc.home m.header.uriTo = name)
    (hreceive : (n.nodes name).inst.receive n.site (sc.entrance m.header.uriTo) m = (i, s)) :
    sc.deliver n place = n.become name i s := by
  simp only [deliver, hsent, Network.step, hname, hreceive]

/-- Where the instance stays as it is, only the site changes. -/
theorem deliver_eq_withSite {place : Nat} {m : Message} {name : String} {s : Site}
    (hsent : n.sent[place]? = some m) (hname : sc.home m.header.uriTo = name)
    (hreceive : (n.nodes name).inst.receive n.site (sc.entrance m.header.uriTo) m =
      ((n.nodes name).inst, s)) :
    sc.deliver n place = n.withSite s := by
  rw [deliver_eq hsent hname hreceive]
  exact n.become_self name s

/-- Where nothing is under way, nothing is delivered. -/
private theorem rounds_of_quiet {courier : Courier} (hquiet : n.sent.length = place) (more : Nat) :
    sc.rounds n place courier.order more = n := by
  -- no round finds anything to deliver
  induction more with
  | zero => rfl
  | succ more ih =>
    have hnothing : List.range' place (n.sent.length - place) = [] := by
      rw [hquiet, Nat.sub_self]
      rfl
    rw [rounds, hnothing, List.perm_nil.1 (courier.perm []), hquiet]
    exact ih

/-- The last message is delivered, then what was sent in answer, and nothing is sent in answer to
    that. -/
theorem settle_eq {courier : Courier} {asked settled : Network}
    (hlength : n.sent.length = place + 1) (hasked : sc.deliver n place = asked)
    (hsettled : (courier.order (List.range' (place + 1)
      (asked.sent.length - (place + 1)))).foldl sc.deliver asked = settled)
    (hquiet : settled.sent = asked.sent) : sc.settle n place courier = settled := by
  -- the first round consists of the last message
  have hlast : List.range' place (n.sent.length - place) = [place] := by
    rw [hlength, Nat.add_sub_cancel_left]
    rfl
  -- the second of what was sent in answer
  rw [settle, rounds, hlast, List.perm_singleton.1 (courier.perm [place]), List.foldl_cons,
    List.foldl_nil, hasked, hlength, rounds, hsettled]
  exact rounds_of_quiet (congrArg List.length hquiet) courier.more

/-- If one message is sent in answer to the last one, these two are delivered. -/
theorem settle_of_single {m : Message} {s : Site} (hlast : n.sent.length = place + 1)
    (hasked : sc.deliver n place = n.withSite s) (hsends : n.site.Sends s [m]) (courier : Courier) :
    (n.withSite s).sent[place + 1]? = some m ∧
      ∀ settled : Network, sc.deliver (n.withSite s) (place + 1) = settled →
        settled.sent = (n.withSite s).sent → sc.settle n place courier = settled := by
  have hsent : (n.withSite s).sent = n.sent ++ [m] := hsends.map_sent
  have hplaces : List.range' (place + 1) ((n.withSite s).sent.length - (place + 1)) =
      [place + 1] := by
    rw [hsent, List.length_append, hlast, Nat.add_sub_cancel_left]
    rfl
  refine ⟨?_, fun settled hsettled hquiet => settle_eq hlast hasked ?_ hquiet⟩
  · rw [hsent, ← hlast, List.getElem?_concat_length]
  · rw [hplaces, List.perm_singleton.1 (courier.perm [place + 1])]
    exact hsettled

/-! ## Requests to the broker -/

/-- The last message that was sent is a request from a consumer's endpoint to the broker. -/
structure Asks (sc : Scene) (sent : List Message) (place : Nat) (c : Consumer) (q : Message)
    (request : BrokerRequest) (id : TransactionId) : Prop where
  last : sent[place]? = some q
  length : sent.length = place + 1
  sender : q.header.uriFrom = c.addressing.endpoint.uri
  receiver : q.header.uriTo = sc.hub.uri
  pattern : q.header.pattern = .pubSub
  intake : q.header.intake = .broker
  transaction : q.header.transaction = some id
  request : BrokerRequest.ofMessage q = .ok request

variable {c : Consumer} {q : Message} {request : BrokerRequest} {id : TransactionId}
variable {courier : Courier}

/-- The request comes in at the hub. -/
theorem Asks.entrance_eq (h : sc.Asks n.sent place c q request id) :
    sc.entrance q.header.uriTo = sc.hub := by
  rw [h.receiver, entrance, if_pos rfl]

/-- The message acknowledges a request of a consumer. -/
structure Acknowledges (sc : Scene) (m : Message) (c : Consumer) (id : TransactionId)
    (stage : Stage) : Prop where
  home : sc.home m.header.uriTo = sc.name c
  intake : m.header.intake = .reply
  plain : m.header.isError = false
  transaction : m.header.transaction = some id
  stage : m.header.stage = some stage

variable {stage : Stage} {memory : BrokerMemory}

/-- A request that the broker accepts, and its acknowledgement on its way back. -/
theorem settle_of_accepted (hopen : sc.Open n) (h : sc.Asks n.sent place c q request id)
    (haccepts : Distributor.Accepts sc.hub n.site.now (n.site.memory sc.broker) q.header request
      stage memory) (courier : Courier) :
    ∃ s ack, n.site.Passes s [ack] [] ∧ s.memory sc.broker = memory ∧
      (n.withSite s).sent[place + 1]? = some ack ∧ sc.Acknowledges ack c id stage ∧
      ∀ settled : Network, sc.deliver (n.withSite s) (place + 1) = settled →
        settled.sent = (n.withSite s).sent → sc.settle n place courier = settled := by
  obtain ⟨asked, hanswer, hasked, hmemory⟩ := Distributor.ask_finish haccepts.conduct haccepts.calls
  have htakes : asked.TakesAll sc.hub := hasked.takes _ (hopen.takes _ hub_mem)
  -- the hub takes the request in and acknowledges it
  have hreceive : (n.nodes (sc.home sc.hub.uri)).inst.receive n.site
      (sc.entrance q.header.uriTo) q = ((n.nodes (sc.home sc.hub.uri)).inst,
        (asked.respondVia sc.hub q.header q.properties stage .empty).2) := by
    rw [h.entrance_eq]
    exact Instance.receive_accepted (hopen.passes hub_mem q) h.intake (h.receiver ▸ hopen.bound)
      h.request hanswer haccepts.stage htakes
  let ack : Message :=
    { header := q.header.reply asked.now stage false, body := .empty, properties := q.properties }
  have hpasses := hasked.trans (Site.Passes.send htakes ack)
  obtain ⟨hsent, hsettle⟩ := settle_of_single h.length
    (deliver_eq_withSite h.last (by rw [h.receiver]) hreceive) hpasses.sends courier
  exact ⟨_, ack, hpasses, hmemory, hsent, ⟨congrArg sc.home h.sender,
    Header.intake_of_ackStage? h.intake haccepts.stage rfl rfl, rfl, h.transaction, rfl⟩, hsettle⟩

variable {k : Correlator} {p : Pattern} {st : ReplyState}

/-- From one state of the scene to another the broker came to remember `memory`. At the instance of
    a consumer nothing changed but its pending interactions, of which there are none then, and its
    tickets. -/
def Concluded (sc : Scene) (n settled : Network) (c : Consumer) (memory : BrokerMemory) : Prop :=
  ∃ (desk : Desk) (s : Site) (ms : List Message) (told : List Notice), desk.table.Idle ∧
    n.site.Passes s ms told ∧ s.memory sc.broker = memory ∧
    settled = n.put (sc.name c) ((n.nodes (sc.name c)).withDesk desk) s

/-- A request that the broker accepts is acknowledged to the listener of its interaction. -/
theorem settle_reported (hopen : sc.Open n) (hc : c ∈ sc.consumers)
    (h : sc.Asks n.sent place c q request id)
    (haccepts : Distributor.Accepts sc.hub n.site.now (n.site.memory sc.broker) q.header request
      stage memory) (courier : Courier) {l : Listener}
    (hk : (n.nodes (sc.name c)).inst.correlator = k.add id p st (some l))
    (hidle : k.Idle) (hover : st.EndsAt stage) :
    sc.Concluded n (sc.settle n place courier) c memory := by
  obtain ⟨s, ack, hpasses, hmemory, hsent, hack, hsettle⟩ :=
    settle_of_accepted hopen h haccepts courier
  -- the acknowledgement is the reply that the interaction awaits
  obtain ⟨next, hnext, hfinished⟩ := hover ack.header hack.stage
  obtain ⟨k', hreport, hidle'⟩ := hidle.reported (p := p) hack.transaction hnext hfinished l
  rw [← hk] at hreport
  have htold := Site.Passes.tell s (l.notice? (.message ack))
  refine ⟨⟨k', (n.nodes (sc.name c)).tickets⟩, _, _, _, hidle', hpasses.trans htold,
    (Site.memory_tell ..).trans hmemory, hsettle _ ?_ ?_⟩
  · rw [deliver_eq hsent hack.home (Instance.receive_reported
      (hopen.passes_name hc ack) hack.intake hack.plain hreport)]
    rfl
  · exact htold.sends.map_sent.trans (List.append_nil _)

/-- A wait for something that comes in while everything is delivered, and that concludes the
    interaction. -/
private theorem wait_eq {d : Demand} (hstaged : d.isStaged = false) {t : Ticket}
    {tickets : List Ticket} {k k' : Correlator} {m : Message} {s : Site} :
    let name := sc.name (sc.consumer d)
    let x := n.nodes name
    x.inst.correlator.await id = .ok t →
      sc.settle (n.step sc.home (.work name (.await id))) place courier =
        n.put name (x.withDesk ⟨k, tickets⟩) s →
      t ∈ tickets → k.collect t = some (.ok m, k') →
      sc.wait n d id place courier = n.put name (x.withDesk ⟨(k'.abandon id).1, tickets⟩) s := by
  intro name x hawait hsettled ht hcollect
  -- the wait has its outcome when everything has been delivered
  have houtcome : (n.put name (x.withDesk ⟨k, tickets⟩) s).outcome? name t = some (.ok m) := by
    rw [Network.outcome?, Network.put_nodes_self]
    exact congrArg (Option.map Prod.fst) hcollect
  have hcollected : (x.withDesk ⟨k, tickets⟩).work (.collect t) = x.withDesk ⟨k', tickets⟩ :=
    Node.work_collect ht hcollect
  -- what was waited for was the last, so the interaction is abandoned
  have hconclude : ((x.withDesk ⟨k', tickets⟩).inst.conclude (sc.consumer d) d id (.ok m)).1 =
      (x.withDesk ⟨(k'.abandon id).1, tickets⟩).inst := by
    simp only [Instance.conclude, hstaged]
    rfl
  have hwait : sc.wait n d id place courier =
      ((n.put name (x.withDesk ⟨k, tickets⟩) s).step sc.home (.work name (.collect t))).step sc.home
        (.conclude name (sc.consumer d) d id (.ok m)) := by
    simp only [wait, hawait, hsettled, houtcome, name, x]
  rw [hwait, Network.put_work, hcollected, Network.put_conclude, hconclude]
  rfl

/-- A request that the broker accepts is acknowledged to the consumer that waits. -/
theorem wait_collected {d : Demand} (hopen : sc.Open n) (hstaged : d.isStaged = false)
    (h : sc.Asks n.sent place (sc.consumer d) q request id)
    (haccepts : Distributor.Accepts sc.hub n.site.now (n.site.memory sc.broker) q.header request
      stage memory) (courier : Courier)
    (hk : (n.nodes (sc.name (sc.consumer d))).inst.correlator = k.add id p st none)
    (hidle : k.Idle) (hover : st.EndsAt stage) :
    sc.Concluded n (sc.wait n d id place courier) (sc.consumer d) memory := by
  let name := sc.name (sc.consumer d)
  let x := n.nodes name
  let t : Ticket := ⟨id, k.made⟩
  -- the wait begins
  have hawait : x.inst.correlator.await id = .ok t := by
    rw [hk]
    exact Correlator.Idle.await_add ..
  let waiting := n.put name (x.withDesk ⟨x.inst.correlator, t :: x.tickets⟩) n.site
  have hwaits : n.step sc.home (.work name (.await id)) = waiting := by
    rw [Network.step, Node.work_await hawait]
  have hopen' : sc.Open waiting := hopen.put (consumer_mem d) rfl fun _ htakes => htakes
  -- the acknowledgement comes in
  obtain ⟨s, ack, hpasses, hmemory, hsent, hack, hsettle⟩ :=
    settle_of_accepted hopen' h haccepts courier
  obtain ⟨next, hnext, hfinished⟩ := hover ack.header hack.stage
  obtain ⟨k', k'', hreceived, hcollect, hidle'⟩ :=
    hidle.collected (p := p) hack.transaction hnext hfinished
  have hnode : waiting.nodes name = x.withDesk ⟨x.inst.correlator, t :: x.tickets⟩ :=
    Network.put_nodes_self ..
  have hreceive (via : EndpointRef) : (waiting.nodes name).inst.receive s via ack =
      ((x.withDesk ⟨k', t :: x.tickets⟩).inst, s) := by
    have hreply : (waiting.nodes name).inst.correlator.receive ack = (k', .ok none) := by
      rw [hnode, ← hreceived, ← hk]
      rfl
    rw [Instance.receive_collected (hopen'.passes_name (consumer_mem d) ack) hack.intake hreply,
      hnode]
    rfl
  have hsettled : sc.settle waiting place courier =
      n.put name (x.withDesk ⟨k', t :: x.tickets⟩) s := by
    refine hsettle _ ?_ rfl
    rw [deliver_eq hsent hack.home (hreceive _)]
    exact Network.put_become _
  -- the wait ends
  rw [Correlator.waited_of_plain hack.plain] at hcollect
  exact ⟨⟨(k''.abandon id).1, t :: x.tickets⟩, s, _, _, hidle'.abandon id, hpasses, hmemory,
    wait_eq hstaged hawait (hwaits ▸ hsettled) (.head _) hcollect⟩

/-! ## Demands -/

variable {d : Demand}

/-- Where a demand has been started: its routes are prepared, `k` is pending, and its first message
    is the last that was sent. -/
def started (sc : Scene) (n : Network) (d : Demand) (id : TransactionId) (k : Correlator) :
    Network :=
  let c := sc.consumer d
  let x := n.nodes (sc.name c)
  n.put (sc.name c)
    ((x.withRouting (d.prepare c.addressing x.inst.routing)).withDesk ⟨k, x.tickets⟩)
    (n.site.send c.addressing.endpoint (d.message c.addressing n.site.now id)).2

private theorem started_correlator (id : TransactionId) (k : Correlator) :
    ((sc.started n d id k).nodes (sc.name (sc.consumer d))).inst.correlator = k := by
  rw [started, Network.put_nodes_self]
  rfl

/-- What is pending may change once more. -/
private theorem started_put (id : TransactionId) (k : Correlator) (desk : Desk) (s : Site) :
    let name := sc.name (sc.consumer d)
    let x := n.nodes name
    (sc.started n d id k).put name (((sc.started n d id k).nodes name).withDesk desk) s =
      n.put name ((x.withRouting
        (d.prepare (sc.consumer d).addressing x.inst.routing)).withDesk desk) s := by
  intro name x
  rw [started, Network.put_put, Network.put_nodes_self]
  rfl

namespace Ready

theorem started_passes (h : sc.Ready n) (d : Demand) (id : TransactionId) (k : Correlator) :
    n.site.Passes (sc.started n d id k).site
      [d.message (sc.consumer d).addressing n.site.now id] [] :=
  .send (h.takes _ (endpoint_mem (consumer_mem d))) _

private theorem started_open (h : sc.Ready n) (d : Demand) (id : TransactionId) (k : Correlator) :
    sc.Open (sc.started n d id k) :=
  h.toOpen.put (consumer_mem d) rfl (h.started_passes d id k).takes

/-- The first message of a demand is a request to the broker. -/
theorem started_asks (h : sc.Ready n) (hd : d.request? = some request) (id : TransactionId)
    (k : Correlator) :
    sc.Asks (sc.started n d id k).sent n.sent.length (sc.consumer d)
      (d.message (sc.consumer d).addressing n.site.now id) request id := by
  have hsent : (sc.started n d id k).sent = n.sent ++ [d.message _ _ id] :=
    (h.started_passes d id k).sends.map_sent
  have hreaches : Reaches (sc.consumer d) sc.hub.uri := reaches (consumer_mem d)
  obtain ⟨hrequest, hintake, hpattern⟩ :=
    Demand.ofMessage_message hd (sc.consumer d).addressing n.site.now id
  exact
    -- the request stands at the end of what was sent
    { last := by rw [hsent, List.getElem?_concat_length]
      length := by rw [hsent, List.length_append]; rfl
      sender := hreaches.sender
      receiver := (Demand.uriTo_message hd ..).trans hreaches.receiver
      pattern := hpattern
      intake := hintake
      transaction := rfl
      request := hrequest }

/-- Where nothing is pending, a demand is started as soon as it is made. -/
theorem converse_eq (h : sc.Ready n) {state? : Option ReplyState}
    (hstate : ReplyState.initial d.pattern d.stage = .ok state?) (reporter : Option String)
    (courier : Courier) :
    ∃ id k, k.Idle ∧
      let s := sc.started n d id
        (match state? with
          | none => k
          | some st => k.add id d.pattern st
              (reporter.map fun r => d.listener (sc.consumer d).addressing r))
      sc.converse n d reporter courier =
        if d.isAnswered ∧ reporter = none then sc.wait s d id n.sent.length courier
        else sc.settle s n.sent.length courier := by
  obtain ⟨id, k, hidle, hstart⟩ := Instance.start_of_idle (h.idle _ (consumer_mem d))
    (h.takes _ (endpoint_mem (consumer_mem d))) hstate reporter
  refine ⟨id, k, hidle, ?_⟩
  simp only [converse, Network.step, hstart]
  rfl

/-- What a demand comes to if the broker accepts it: its routes are prepared, nothing stays pending,
    and the broker remembers what it made of the request. -/
theorem converse_accepted (h : sc.Ready n) (hd : d.request? = some request)
    (hstage : request.ackStage? = some stage) {P : BrokerMemory → Prop}
    (haccepts : ∀ now (header : Header),
      header.uriFrom = (sc.consumer d).addressing.endpoint.uri → header.pattern = .pubSub →
        ∃ memory, Distributor.Accepts sc.hub now (n.site.memory sc.broker) header request stage
          memory ∧ P memory)
    (reporter : Option String) (courier : Courier) :
    let c := sc.consumer d
    let x := n.nodes (sc.name c)
    ∃ (desk : Desk) (s : Site) (ms : List Message) (told : List Notice), desk.table.Idle ∧
      n.site.Passes s ms told ∧ P (s.memory sc.broker) ∧
      sc.converse n d reporter courier = n.put (sc.name c)
        ((x.withRouting (d.prepare c.addressing x.inst.routing)).withDesk desk) s := by
  intro c x
  have hinitial := Demand.initial_of_request? hd
  rw [hstage] at hinitial
  -- one reply is awaited, that at the stage of the acknowledgement
  obtain ⟨hanswered, hstaged, st, hstate, hover⟩ := hinitial
  obtain ⟨id, k, hidle, hconverse⟩ := h.converse_eq hstate reporter courier
  let pending := k.add id d.pattern st (reporter.map fun r => d.listener c.addressing r)
  have hopen := h.started_open d id pending
  have hasks := h.started_asks hd id pending
  obtain ⟨memory, haccepts', hP⟩ := haccepts n.site.now _ hasks.sender hasks.pattern
  have hconcluded : sc.Concluded (sc.started n d id pending) (sc.converse n d reporter courier) c
      memory := by
    rw [hconverse]
    have hpending : ((sc.started n d id pending).nodes (sc.name c)).inst.correlator = pending :=
      started_correlator id pending
    -- with a listener the acknowledgement is reported, without one it is waited for
    cases reporter with
    | some r =>
      rw [if_neg (fun hwaits => nomatch hwaits.2)]
      exact settle_reported hopen (consumer_mem d) hasks haccepts' courier hpending hidle hover
    | none =>
      rw [if_pos ⟨hanswered, rfl⟩]
      exact wait_collected hopen hstaged hasks haccepts' courier hpending hidle hover
  obtain ⟨desk, s, ms, told, hidle', hpasses, rfl, hput⟩ := hconcluded
  refine ⟨desk, s, _, _, hidle', (h.started_passes d id pending).trans hpasses, hP, ?_⟩
  rw [hput]
  exact started_put id pending desk s

end Ready

end Scene

end PubSub

end Mal
