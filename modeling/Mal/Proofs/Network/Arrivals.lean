import Mal.Proofs.Correlation.Brought
import Mal.Proofs.Network.Desks

/-!
# Replies that arrive at an initiator

Replies come to an initiator by the transport. A message that was sent is delivered to the instance
at home at the URI that it is for, where the security check lets it pass or not
(`Network.arrivals`); what passes is taken in by the pending interaction if it is a reply in its
transaction. So an interaction goes on with certain replies if these are delivered and let pass, and
nothing else concerns it (`Network.Proceeds`). What its waiters are returned then, and by which
callbacks its listener is told, is read off these replies.

## Key results

- `Network.filterMap_trace`: which messages are replies to an interaction
- `Network.Proceeds.brings`: the replies that are delivered are what is brought to the interaction
- `Network.callbacks_of_brings`: the callbacks by which a listener is told what comes in
-/

namespace Mal

/-! ## Replies as outcomes -/

/-- A message that is not flagged as an error is an outcome as it is. -/
theorem Outcome.ofMessage_of_plain {m : Message} (h : m.header.isError = false) :
    ofMessage m = .message m := by
  simp [ofMessage, Message.error?, h]

/-- So it is for a waiter. -/
theorem Correlator.waited_of_plain {m : Message} (h : m.header.isError = false) :
    waited m = .ok m := by
  simp [waited, Message.error?, h]

/-- What a waiter gets of an error is one. -/
theorem Correlator.waited_of_error {m : Message} (h : m.header.isError = true) :
    ∃ failure, waited m = .error failure := by
  obtain ⟨error, herror⟩ := Option.isSome_iff_exists.1 (m.isSome_error?.trans h)
  exact ⟨.standard error, by simp only [waited, herror]⟩

/-- A reply to an interaction that was initiated here, in the transaction `id`. -/
def Message.RepliesIn (m : Message) (id : TransactionId) : Prop :=
  m.header.transaction = some id ∧ m.header.intake = .reply

instance (m : Message) (id : TransactionId) : Decidable (m.RepliesIn id) :=
  inferInstanceAs (Decidable (_ ∧ _))

/-! ## The initiator -/

namespace Instance

variable {i : Instance} {s : Site}

/-- An interaction that is started is initiated, and nothing else is done with the pending
    interactions. -/
private theorem startOps_of_ok {c : Consumer} {d : Demand} {reporter : Option String}
    {id : TransactionId} (hok : (i.start s c d reporter).2.2 = .ok id) (tickets : List Ticket) :
    let initiate := Desk.Op.initiate (i.clock.seconds s.now) d.pattern d.stage
      (reporter.map fun r => d.listener c.addressing r)
    i.startOps s c d reporter = [initiate] ∧
      (Desk.step ⟨i.correlator, tickets⟩ initiate).2 = .initiated (.ok id) := by
  obtain ⟨hlaunched, _⟩ := i.start_started s c d reporter
  unfold startOps
  -- only what came of the start matters
  generalize (i.start s c d reporter).1.correlator = table at hlaunched
  generalize (i.start s c d reporter).2.1 = s' at hlaunched
  rw [hok] at hlaunched ⊢
  cases hlaunched with
  | sent h => simp only [h, Desk.step, and_self]

end Instance

/-- The callback of a listener that was invoked, if the event is one. -/
def Event.notice? : Event → Option Notice
  | .told n => some n
  | _ => none

/-- The callbacks that have been invoked since an earlier state of a site, oldest first. -/
def Site.noticesSince (s before : Site) : List Notice :=
  (s.events.drop before.events.length).filterMap Event.notice?

private theorem Site.noticesSince_tell (s : Site) (n : Option Notice) :
    (s.tell n).noticesSince s = n.toList := by
  cases n with
  | none => simp [tell, noticesSince]
  | some n => simp [tell, note, noticesSince, Event.notice?]

/-- When a reply comes in, exactly that callback is invoked by which its listener is told of it. -/
private theorem Instance.receive_notices {i : Instance} {s : Site} {via : EndpointRef}
    {m m' : Message}
    {r : Report} (hsecurity : i.security m = .ok m') (hintake : m'.header.intake = .reply)
    (hreport : (i.correlator.receive m').2 = .ok (some r)) :
    (i.receive s via m).2.noticesSince s = (r.listener.notice? r.outcome).toList := by
  simp only [receive, dispatch, hsecurity, hintake, receiveReply]
  generalize i.correlator.receive m' = result at hreport
  obtain ⟨c, answer⟩ := result
  obtain rfl : answer = .ok (some r) := hreport
  exact s.noticesSince_tell _
namespace Network

section

variable {home : String → String} {n : Network} {name : String} {id : TransactionId}

/-- The callbacks that are invoked in a run when replies with the transaction id `id` come in for
    the instance `name`. -/
def callbacks (home : String → String) (n : Network) (name : String) (id : TransactionId) :
    List Move → List Notice
  | [] => []
  | move :: moves =>
    let next := n.step home move
    let brings := (move.ops home n name).any fun op => (op.brings? id).isSome
    (if brings then next.site.noticesSince n.site else []) ++ next.callbacks home name id moves

/-- Replies are brought by messages that are delivered, or directly to the pending interactions. -/
private theorem Move.ops_brings {move : Move} (hmove : ∀ m, move ≠ .work name (.receive m))
    {m : Message}
    {op : Desk.Op} (hop : op ∈ move.ops home n name) (hbrings : op.brings? id = some m) :
    ∃ place via m₀, move = .deliver place via ∧ n.sent[place]? = some m₀ ∧
      home m₀.header.uriTo = name ∧ (n.nodes name).inst.security m₀ = .ok m ∧
      m.header.intake = .reply ∧ move.ops home n name = [.receive m] := by
  obtain ⟨rfl, hid⟩ := Desk.Op.brings?_eq_some hbrings
  cases move with
  | deliver place via =>
    simp only [Move.ops] at hop ⊢
    -- nothing is delivered, so there is no operation
    cases hsent : n.sent[place]? with
    | none => simp [hsent] at hop
    | some m₀ =>
      simp only [hsent] at hop ⊢
      -- the message belongs at one instance, and is checked there
      split at hop
      · next hhome =>
        subst hhome
        simp only [Instance.receiveOps] at hop ⊢
        cases hsecurity : (n.nodes (home m₀.header.uriTo)).inst.security m₀ with
        -- a refused message brings nothing
        | error failure => simp [hsecurity] at hop
        | ok m' =>
          simp only [hsecurity] at hop ⊢
          split at hop
          · next hintake =>
            simp only [List.mem_singleton, Desk.Op.receive.injEq] at hop
            subst hop
            refine ⟨place, via, m₀, rfl, hsent, rfl, hsecurity, hintake, ?_⟩
            simp [hintake]
          · -- a message that is no reply is not for the pending interactions
            cases hop
      · cases hop
  | work name' op =>
    simp only [Move.ops] at hop
    split at hop
    · next hname =>
      subst hname
      obtain rfl := List.mem_singleton.1 hop
      exact absurd rfl (hmove m)
    · cases hop
  | start =>
    -- a start initiates, and abandons what it could not send
    simp only [Move.ops, Instance.startOps] at hop
    split at hop
    · split at hop <;> simp at hop
    · cases hop
  -- the other moves receive nothing
  | conclude | failTransmission | close =>
    simp only [Move.ops, Instance.concludeOps, Instance.failOps] at hop
    repeat' split at hop
    all_goals simp at hop
  | act | arrange | pass => cases hop

/-! ## What is delivered -/

/-- What the check of the instance `name` lets pass of the message that a move delivers to it. -/
def Move.arrival? (home : String → String) (n : Network) (name : String) : Move → Option Message
  | .deliver place _ =>
    match n.sent[place]? with
    | none => none
    | some m =>
      if home m.header.uriTo = name then ((n.nodes name).inst.security m).toOption else none
  | _ => none

/-- What it lets pass of the messages that are delivered to the instance in a run, in order. -/
def arrivals (home : String → String) (n : Network) (name : String) : List Move → List Message
  | [] => []
  | move :: moves =>
    (move.arrival? home n name).toList ++ (n.step home move).arrivals home name moves

/-- What a move brings to an interaction is the reply to it that arrives, if one does. -/
private theorem Move.filterMap_ops {move : Move} (hmove : ∀ m, move ≠ .work name (.receive m)) :
    (move.ops home n name).filterMap (Desk.Op.brings? id) =
      (move.arrival? home n name).toList.filter (·.RepliesIn id) := by
  cases move with
  | deliver place via =>
    simp only [Move.ops, arrival?]
    cases hsent : n.sent[place]? with
    | none => rfl
    | some m =>
      -- a message for another instance arrives elsewhere
      by_cases hhome : home m.header.uriTo = name
      · subst hhome
        simp only [if_true, Instance.receiveOps]
        cases (n.nodes (home m.header.uriTo)).inst.security m with
        | error failure => rfl
        | ok m' =>
          -- what passes is received if it is a reply, and brought if it is in the transaction
          by_cases hintake : m'.header.intake = .reply
          · by_cases hid : m'.header.transaction = some id <;>
              simp [hintake, hid, Desk.Op.brings?, Message.RepliesIn, Except.toOption]
          · simp [hintake, Message.RepliesIn, Except.toOption]
      · simp [hhome]
  | _ =>
    -- only a delivery brings something
    refine List.filterMap_eq_nil_iff.2 fun op hop => ?_
    cases hbrings : op.brings? id with
    | none => rfl
    | some m =>
      obtain ⟨_, _, _, hdeliver, _⟩ := Move.ops_brings hmove hop hbrings
      cases hdeliver

/-- What a run brings to an interaction are the replies to it that arrive. -/
theorem filterMap_trace {moves : List Move} (hmoves : ∀ m, .work name (.receive m) ∉ moves) :
    (n.trace home name moves).filterMap (Desk.Op.brings? id) =
      (n.arrivals home name moves).filter (·.RepliesIn id) := by
  -- induction on the moves, both sides in step with the network
  induction moves generalizing n with
  | nil => rfl
  | cons move moves ih =>
    have hfirst : ∀ m, move ≠ .work name (.receive m) := by
      rintro m rfl
      exact hmoves m (.head _)
    have hrest := ih (n := n.step home move) fun m hmem => hmoves m (.tail _ hmem)
    rw [trace, arrivals, List.filterMap_append, List.filter_append, Move.filterMap_ops hfirst,
      hrest]

/-- Where no reply comes in, no callback is invoked by one. -/
private theorem callbacks_of_not_brings {moves : List Move}
    (h : (n.trace home name moves).filterMap (Desk.Op.brings? id) = []) :
    n.callbacks home name id moves = [] := by
  induction moves generalizing n with
  | nil => rfl
  | cons move moves ih =>
    rw [trace, List.filterMap_append, List.append_eq_nil_iff, List.filterMap_eq_nil_iff] at h
    obtain ⟨hmove, hrest⟩ := h
    have hnone : ¬ ((move.ops home n name).any fun op => (op.brings? id).isSome) = true := by
      simpa using hmove
    rw [callbacks, if_neg hnone, ih hrest]
    rfl

/-- The listener of a pending interaction is told a reply when it is delivered. -/
private theorem notices_of_deliver {place : Nat} {via : EndpointRef} {m₀ m : Message} {x : Exchange}
    {l : Listener} {next : ReplyState} (hsent : n.sent[place]? = some m₀)
    (hhome : home m₀.header.uriTo = name) (hsecurity : (n.nodes name).inst.security m₀ = .ok m)
    (hintake : m.header.intake = .reply) (hid : m.header.transaction = some id)
    (hx : (n.nodes name).desk.table.exchanges.get? id = some x) (hl : x.listener = some l)
    (hstate : x.state.receive m.header = .ok next) :
    (n.step home (.deliver place via)).site.noticesSince n.site =
      (l.notice? (.ofMessage m)).toList := by
  -- the delivery is looked at where the message belongs
  subst hhome
  have hreport : ((n.nodes (home m₀.header.uriTo)).inst.correlator.receive m).2 =
      .ok (some ⟨x.serial, l, .ofMessage m⟩) := by
    have hx' : (n.nodes (home m₀.header.uriTo)).inst.correlator.exchanges.get? id = some x := hx
    simp [Correlator.receive, hid, hx', hstate, hl]
  simp only [step, hsent]
  exact Instance.receive_notices hsecurity hintake hreport

/-- The listener of an interaction is told the replies that are brought to it, each by the callback
    for it. -/
theorem callbacks_of_brings {moves : List Move} {x : Exchange} {l : Listener} {last : ReplyState}
    {ms : List Message} (hd : (n.nodes name).desk.Sound)
    (hx : (n.nodes name).desk.table.exchanges.get? id = some x) (hl : x.listener = some l)
    (hopen : x.state.isFinished = false)
    (hbrings : Desk.Brings id x.serial (n.trace home name moves) ms)
    (hmoves : ∀ m, .work name (.receive m) ∉ moves)
    (hlast : x.state.receiveAll (ms.map Message.header) = .ok last) :
    n.callbacks home name id moves = ms.filterMap fun m => l.notice? (.ofMessage m) := by
  -- callbacks are recorded move by move, so the replies are shared out among the moves
  induction moves generalizing n x ms with
  | nil =>
    obtain rfl : [] = ms := hbrings.replies
    rfl
  | cons move moves ih =>
    have hfirst : ∀ m, move ≠ .work name (.receive m) := by
      rintro m rfl
      exact hmoves m (.head _)
    have hlater : ∀ m, .work name (.receive m) ∉ moves :=
      fun m hmem => hmoves m (.tail _ hmem)
    obtain ⟨ms₁, ms₂, rfl, hbrings₁, hbrings₂⟩ := hbrings.append_cases
    rw [List.map_append] at hlast
    have hd' : ((n.step home move).nodes name).desk.Sound := by
      rw [desk_step]
      exact hd.after _
    cases ms₁ with
    | nil =>
      -- a move that brings nothing leaves the interaction as it is
      have hx' := (hbrings₁.told hd hx hl rfl).2 hopen
      rw [← desk_step] at hx'
      have hnone : ¬ ((move.ops home n name).any fun op => (op.brings? id).isSome) = true := by
        simpa using List.filterMap_eq_nil_iff.1 hbrings₁.replies
      rw [callbacks, if_neg hnone]
      exact ih hd' hx' hl hopen hbrings₂ hlater hlast
    | cons m rest =>
      -- a move that brings something is a delivery, and brings this and nothing else
      have hmem : m ∈ (move.ops home n name).filterMap (Desk.Op.brings? id) := by
        rw [hbrings₁.replies]
        exact .head _
      obtain ⟨op, hop, hbrought⟩ := List.mem_filterMap.1 hmem
      obtain ⟨place, via, m₀, rfl, hsent, hhome, hsecurity, hintake, hops⟩ :=
        Move.ops_brings hfirst hop hbrought
      obtain ⟨-, hid⟩ := Desk.Op.brings?_eq_some hbrought
      rw [hops] at hbrings₁
      obtain rfl : [] = rest := by simpa [Desk.Op.brings?, hid] using hbrings₁.replies
      obtain ⟨next, hstate, hlast⟩ := ReplyState.receiveAll_cons_eq_ok_iff.1 hlast
      have hrest : (n.step home (.deliver place via)).callbacks home name id moves =
          ms₂.filterMap fun m => l.notice? (.ofMessage m) := by
        cases hfinished : next.isFinished with
        | true =>
          -- the interaction is over, and nothing is left to be brought
          obtain ⟨hnil, _⟩ := ReplyState.receiveAll_of_isFinished hfinished hlast
          obtain rfl := List.map_eq_nil_iff.1 hnil
          exact callbacks_of_not_brings hbrings₂.replies
        -- the interaction goes on, and the rest is brought to it
        | false =>
          have hone : x.state.receiveAll ([m].map Message.header) = .ok next :=
            ReplyState.receiveAll_cons_eq_ok_iff.2 ⟨next, hstate, rfl⟩
          have hx' := (hbrings₁.told hd hx hl hone).2 hfinished
          rw [← hops, ← desk_step] at hx'
          exact ih hd' hx' hl hfinished hbrings₂ hlater hlast
      have hbring : (((Move.deliver place via).ops home n name).any
          fun op => (op.brings? id).isSome) = true := by
        simp [hops, Desk.Op.brings?, hid]
      rw [callbacks, if_pos hbring, hrest,
        notices_of_deliver hsent hhome hsecurity hintake hid hx hl hstate, List.singleton_append]
      cases hnotice : l.notice? (.ofMessage m) <;> simp [hnotice]

/-! ## How an interaction goes on -/

/-- How the interaction `id` of the instance `name`, with the serial number `serial`, goes on: the
    messages `ms` are delivered to the instance and let pass, in this order, no other reply to the
    interaction is, and nothing else ends it or the wait for it. -/
structure Proceeds (home : String → String) (n : Network) (name : String) (id : TransactionId)
    (serial : Nat) (moves : List Move) (ms : List Message) : Prop where
  arrived : (n.arrivals home name moves).filter (fun m => m ∈ ms ∨ m.RepliesIn id) = ms
  /-- No failure of the transport is reported for it. -/
  unfailed : ∀ op ∈ n.trace home name moves, op.fails id = false
  /-- It is not given up, no wait for it expires, and the instance is not closed. -/
  uninterrupted : ∀ op ∈ n.trace home name moves, op.interrupts id serial = false
  /-- Replies come in by the transport. -/
  transported : ∀ m, .work name (.receive m) ∉ moves

namespace Proceeds

variable {x : Exchange} {last : ReplyState} {moves : List Move} {replies : List Message}
  {e : Message} {error : StandardError}

/-- The operations of a given run can be looked at one by one. -/
theorem of_trace {serial : Nat} {ms : List Message}
    (harrived : (n.arrivals home name moves).filter (fun m => m ∈ ms ∨ m.RepliesIn id) = ms)
    (hops : ∀ op ∈ n.trace home name moves,
      op.fails id = false ∧ op.interrupts id serial = false)
    (htransported : ∀ m, .work name (.receive m) ∉ moves) :
    n.Proceeds home name id serial moves ms where
  arrived := harrived
  unfailed op hmem := (hops op hmem).1
  uninterrupted op hmem := (hops op hmem).2
  transported := htransported

/-- If the messages are replies to the interaction, they are what is brought to it. -/
theorem brings {serial : Nat} {ms : List Message} (h : n.Proceeds home name id serial moves ms)
    (hreplies : ∀ m ∈ ms, m.RepliesIn id) : Desk.Brings id serial (n.trace home name moves) ms where
  replies := by
    rw [filterMap_trace h.transported]
    -- an arrival is one of the messages or a reply, which the messages are anyway
    refine Eq.trans (List.filter_congr fun m _ => ?_) h.arrived
    by_cases hm : m ∈ ms
    · simp [hm, hreplies m hm]
    · simp [hm]
  unfailed := h.unfailed
  uninterrupted := h.uninterrupted

/-- Waiters are returned the replies as they are, and then the error that comes after them. -/
theorem returned
    (h : n.Proceeds home name id x.serial moves (replies ++ [e]))
    (hreplies : ∀ m ∈ replies ++ [e], m.RepliesIn id)
    (hd : (n.nodes name).desk.Sound) (hc : (n.nodes name).desk.Coherent)
    (hx : (n.nodes name).desk.table.exchanges.get? id = some x) (hl : x.listener = none)
    (hempty : (n.nodes name).desk.table.mailbox x.serial = [])
    (hlast : x.state.receiveAll ((replies ++ [e]).map Message.header) = .ok last)
    (hplain : ∀ m ∈ replies, m.header.isError = false) (he : e.error? = some error) :
    let outcomes := replies.map .ok ++ [.error (.standard error)]
    let returned := (n.nodes name).desk.returned x.serial (n.trace home name moves)
    returned <+: outcomes ∧
      (∀ t ∈ ((n.after home moves).nodes name).tickets, t.serial = x.serial →
        (n.after home moves).outcome? name t = outcomes[returned.length]?) ∧
      (returned ≠ outcomes →
        ((n.after home moves).nodes name).inst.correlator.await id = .ok ⟨id, x.serial⟩) := by
  intro outcomes returned
  -- what waiters get of the replies and of the error
  have houtcomes : (replies ++ [e]).map Correlator.waited = outcomes := by
    rw [List.map_append, List.map_congr_left fun m hm => Correlator.waited_of_plain (hplain m hm)]
    simp [outcomes, Correlator.waited, he]
  obtain ⟨hqueue, hawait⟩ := (h.brings hreplies).returned hd hc hx hl hempty hlast
  rw [← desk_after, houtcomes] at hqueue hawait
  refine ⟨⟨_, hqueue⟩, ?_, hawait⟩
  intro t _ hserial
  exact Desk.collect_of_queue (hserial ▸ hqueue)

/-- A listener is told the replies as they are, and then the error that comes after them. -/
theorem told {l : Listener}
    (h : n.Proceeds home name id x.serial moves (replies ++ [e]))
    (hreplies : ∀ m ∈ replies ++ [e], m.RepliesIn id)
    (hd : (n.nodes name).desk.Sound)
    (hx : (n.nodes name).desk.table.exchanges.get? id = some x) (hl : x.listener = some l)
    (hopen : x.state.isFinished = false)
    (hlast : x.state.receiveAll ((replies ++ [e]).map Message.header) = .ok last)
    (hplain : ∀ m ∈ replies, m.header.isError = false) (he : e.error? = some error) :
    let outcomes := replies.map .message ++ [.error e.header error]
    ((n.nodes name).desk.told x.serial (n.trace home name moves)).map (fun e => e.2.outcome) =
        outcomes ∧
      n.callbacks home name id moves = outcomes.filterMap l.notice? := by
  intro outcomes
  have houtcomes : (replies ++ [e]).map Outcome.ofMessage = outcomes := by
    rw [List.map_append, List.map_congr_left fun m hm => Outcome.ofMessage_of_plain (hplain m hm)]
    simp [outcomes, Outcome.ofMessage, he]
  have hbrings := h.brings hreplies
  -- what is told is recorded twice, as reports and as callbacks
  obtain ⟨htold, _⟩ := hbrings.told hd hx hl hlast
  rw [htold, callbacks_of_brings hd hx hl hopen hbrings h.transported hlast, ← houtcomes,
    List.map_map, List.filterMap_map]
  exact ⟨rfl, rfl⟩

end Proceeds

/-- An interaction that was started is pending, in the state it starts in, and its mailbox is
    empty. -/
theorem IsNew.started (hnew : n.IsNew) (home : String → String) (before : List Move) {c : Consumer}
    {d : Demand} {reporter : Option String} {st : ReplyState} :
    let ready := n.after home before
    let started := ready.step home (.start name c d reporter)
    let desk := (started.nodes name).desk
    let serial := (ready.nodes name).desk.table.made
    ((ready.nodes name).inst.start ready.site c d reporter).2.2 = .ok id →
      ReplyState.initial d.pattern d.stage = .ok (some st) →
      desk.Sound ∧ desk.Coherent ∧ desk.table.mailbox serial = [] ∧
        desk.table.exchanges.get? id =
          some ⟨serial, d.pattern, st, reporter.map fun r => d.listener c.addressing r⟩ := by
  intro ready started desk serial hok hinitial
  obtain ⟨allocator, patience, ops, hready⟩ := hnew.exists_desk_after home name before
  have hd : (ready.nodes name).desk.Sound := hready ▸ (Desk.sound_new allocator patience).after ops
  have hc : (ready.nodes name).desk.Coherent :=
    hready ▸ (Desk.Coherent.new allocator patience).after (Desk.sound_new allocator patience) ops
  obtain ⟨hops, hanswer⟩ := Instance.startOps_of_ok hok (ready.nodes name).tickets
  have hdesk : desk = _ := desk_step home ready name (.start name c d reporter)
  rw [Move.ops, if_pos rfl, hops, Desk.after_cons, Desk.after_nil] at hdesk
  obtain ⟨hx, hempty⟩ := Desk.started hd hc hinitial hanswer
  rw [hdesk]
  exact ⟨hd.step _, hc.step hd _, hempty, hx⟩

/-- What a delivery sends is added to what was sent. -/
theorem sent_of_deliver {place : Nat} {via : EndpointRef} {m : Message} {ms : List Message}
    (hsent : n.sent[place]? = some m)
    (hsends : n.site.Sends ((n.nodes (home m.header.uriTo)).inst.receive n.site via m).2 ms) :
    (n.step home (.deliver place via)).sent = n.sent ++ ms := by
  obtain ⟨out, hout, rfl⟩ := hsends
  simp only [step, hsent]
  exact (congrArg (List.map Prod.snd) hout).trans List.map_append

end

end Network

end Mal
