import Mal.Proofs.Correlation.Abandon
import Mal.Proofs.Network.Failures
import Mal.Provider.Echo
import Mathlib.Data.List.Forall2

/-!
# Streams of updates reach initiators

The echoing provider answers a Progress by a stream of replies, one update for each element of its
body between an acknowledgement and a response (`Echo.stream`). Where its endpoint takes messages
all of these are sent, in this order (`Instance.receive_of_echo`).

The initiator may be ahead of the stream or behind it: at any time it has got a beginning of what
has come in, which is a beginning of the stream. Its interaction is pending until the response is
returned, or told to its listener, and not longer (`Network.stream_arrives`).

As for failures, the transport alone does not see to this (`Network.stream_lost`).

## Key results

- `Conduct.run_inTurn`: replies that are made in turn are all sent
- `Instance.receive_of_echo`: what is sent for a Progress
- `Desk.Brings.pending`, `Desk.Brings.listened`: how long an interaction is pending
- `Network.stream_arrives`: a stream reaches the initiator
- `Network.stream_lost`: streams that do not
-/

namespace Mal

/-! ## Replies in turn -/

/-- The replies of calls that are made one after another at time `now`, and the respondent
    afterwards; nothing if one of the calls is refused. -/
def Respondent.beginAll (r : Respondent) (now : UInt64) :
    List ReplyCall → Option (Respondent × List Message)
  | [] => some (r, [])
  | call :: calls =>
    match r.begin now call with
    | some (.ok (begun, m)) => (begun.beginAll now calls).map fun (last, ms) => (last, m :: ms)
    | _ => none

/-- What a call that returns no error makes of a respondent, and the reply that it sends, if it
    takes a step. -/
private theorem Respondent.begin_of_plain {m : Message} {a : Address} {pattern : Pattern}
    {p p' : ReplyProgress} {call : ReplyCall} {step : ReplyStep} {stage : Stage} {body : Body}
    (hpattern : m.header.pattern = pattern) (hplain : call.error? = none)
    (hstep : call.step? pattern p = some (some step)) (hadvance : p.advance step = .ok p')
    (hstage : step.stage = stage) (hbody : call.body pattern = body) (now : UInt64) :
    (⟨m, a, p⟩ : Respondent).begin now call =
      some (.ok (⟨m, a, p'⟩, a.response now m.header m.properties stage body)) := by
  subst hpattern hstage hbody
  simp only [begin, Respondent.pattern, hstep, hadvance, replyMessage, hplain]

/-- A reply call that is not refused is sent where messages are taken. -/
private theorem Site.replyNoted_of_begin {s : Site} {r begun : Respondent} {call : ReplyCall}
    {m : Message}
    (htakes : s.Takes r.address.endpoint) (hbegin : r.begin s.now call = some (.ok (begun, m))) :
    ∃ s', s.replyNoted r call = (some (.ok ()), begun, s') ∧ s.Sends s' [m] ∧ s'.now = s.now ∧
      s'.Takes r.address.endpoint := by
  obtain ⟨hok, htakes'⟩ := htakes.send m
  let sent := (s.send r.address.endpoint m).2
  have hsends : s.Sends sent [m] := sends_of_send_ok (Prod.ext hok rfl)
  -- the record of the call changes neither the time nor the transport
  refine ⟨sent.note (.replied begun call (some (.ok ()))), ?_, hsends, rfl, htakes'⟩
  simp only [replyNoted, reply, hbegin, hok, Respondent.settle, sent]

/-- Calls that are made in turn are all sent, if none of them is refused and messages are taken. -/
theorem Conduct.run_inTurn {calls : List ReplyCall} {s : Site} {r last : Respondent}
    {ms : List Message} (htakes : s.Takes r.address.endpoint)
    (hbegin : r.beginAll s.now calls = some (last, ms)) :
    ∃ s', (inTurn calls).run r s = (.ok (), last, s') ∧ s.Sends s' ms := by
  -- time stands still meanwhile, and the endpoint goes on taking messages
  induction calls generalizing s r ms with
  | nil =>
    cases hbegin
    exact ⟨s, rfl, .of_sent_eq rfl⟩
  | cons call calls ih =>
    simp only [Respondent.beginAll] at hbegin
    split at hbegin
    · next begun m hfirst =>
      obtain ⟨⟨last', rest⟩, hrest, heq⟩ := Option.map_eq_some_iff.1 hbegin
      cases heq
      -- the first call is sent, and the rest goes on from where it leaves the site
      obtain ⟨mid, hreply, hsends, hnow, htakes'⟩ := Site.replyNoted_of_begin htakes hfirst
      obtain ⟨_, _, hbegun⟩ := Respondent.begin_eq_ok hfirst
      have haddress : begun.address = r.address := by rw [hbegun]
      rw [← haddress] at htakes'
      rw [← hnow] at hrest
      obtain ⟨s', hrun, hsends'⟩ := ih htakes' hrest
      refine ⟨s', ?_, hsends.trans hsends'⟩
      simp only [inTurn, run, hreply]
      exact hrun
    · -- a call that is refused is none of these
      cases hbegin

/-! ## The stream -/

namespace Echo

/-- The replies of the echoing provider at `a` to a Progress `m` with the elements `es`, made at
    time `now`. -/
def stream (a : Address) (now : UInt64) (m : Message) (es : List Bytes) : List Message :=
  let reply := a.response now m.header m.properties
  reply Stage.progressAck .empty ::
    es.map (fun e => reply Stage.progressUpdate (.elements [e])) ++
      [reply Stage.progressResponse .empty]

variable {a : Address} {m : Message}

/-- No reply of the stream is an error. -/
private theorem isError_of_mem_stream {now : UInt64} {es : List Bytes} {e : Message}
    (he : e ∈ stream a now m es) : e.header.isError = false := by
  simp only [stream, List.cons_append, List.mem_cons, List.mem_append, List.mem_map,
    List.not_mem_nil, or_false] at he
  obtain rfl | ⟨_, _, rfl⟩ | rfl := he <;> rfl

/-- After the acknowledgement no update and no response is refused. -/
private theorem beginAll_updates (hpattern : m.header.pattern = .progress) (now : UInt64)
    (es : List Bytes) :
    let reply := a.response now m.header m.properties
    (⟨m, a, ⟨true, false⟩⟩ : Respondent).beginAll now
        (updates (.elements es) ++ [.respond .empty]) =
      some (⟨m, a, ⟨true, true⟩⟩, es.map (fun e => reply Stage.progressUpdate (.elements [e])) ++
        [reply Stage.progressResponse .empty]) := by
  intro reply
  -- every update leaves the respondent as it is, and so does the induction
  induction es with
  | nil =>
    have hrespond : (⟨m, a, ⟨true, false⟩⟩ : Respondent).begin now (.respond .empty) =
        some (.ok (⟨m, a, ⟨true, true⟩⟩, reply Stage.progressResponse .empty)) := by
      apply Respondent.begin_of_plain hpattern <;> rfl
    simp only [updates, List.map_nil, List.nil_append, Respondent.beginAll, hrespond,
      Option.map_some]
  | cons e es ih =>
    have hupdate : (⟨m, a, ⟨true, false⟩⟩ : Respondent).begin now (.update (.elements [e])) =
        some (.ok (⟨m, a, ⟨true, false⟩⟩, reply Stage.progressUpdate (.elements [e]))) := by
      apply Respondent.begin_of_plain hpattern <;> rfl
    simp only [updates] at ih
    simp only [updates, List.map_cons, List.cons_append, Respondent.beginAll, hupdate, ih,
      Option.map_some]

/-- None of the calls that answer a Progress is refused; their replies are the stream. -/
private theorem beginAll_progress (hpattern : m.header.pattern = .progress) (now : UInt64)
    (es : List Bytes) :
    (⟨m, a, {}⟩ : Respondent).beginAll now
        (.acknowledge .empty :: updates (.elements es) ++ [.respond .empty]) =
      some (⟨m, a, ⟨true, true⟩⟩, stream a now m es) := by
  have hack : (⟨m, a, {}⟩ : Respondent).begin now (.acknowledge .empty) =
      some (.ok (⟨m, a, ⟨true, false⟩⟩,
        a.response now m.header m.properties Stage.progressAck .empty)) := by
    apply Respondent.begin_of_plain hpattern <;> rfl
  simp only [List.cons_append, Respondent.beginAll, hack, beginAll_updates hpattern now es,
    Option.map_some, stream]

/-- The echoing provider sends its stream and returns, with the interaction completed. -/
private theorem serve_progress {s : Site} {label : String} {es : List Bytes}
    (hhandler : a.handler = handler label) (hpattern : m.header.pattern = .progress)
    (hbody : m.body = .elements es) (htakes : s.Takes a.endpoint) :
    (s.serve a m).1 = .ok () ∧ (s.serve a m).2.1.progress.complete = true ∧
      s.Sends (s.serve a m).2.2 (stream a s.now m es) := by
  have hconduct : a.handler.conduct m =
      .inTurn (.acknowledge .empty :: updates (.elements es) ++ [.respond .empty]) := by
    rw [hhandler, ← hbody]
    simp only [handler, conduct, hpattern]
  -- the record that the provider is called does not concern the endpoint
  have htakes' : (s.note (.served a m)).Takes a.endpoint := htakes
  obtain ⟨s', hrun, hsends⟩ :=
    Conduct.run_inTurn (r := ⟨m, a, {}⟩) htakes' (beginAll_progress hpattern s.now es)
  simp only [Site.serve, hconduct, hrun, true_and]
  exact hsends

end Echo

/-! ## The callbacks for it -/

/-- A listener is told a reply of a Progress that is not an error by the callback for its stage. -/
private theorem Address.RepliesTo.notice?_progress {a : Address} {h : Header} {stage : Stage}
    {body : Body}
    {e : Message} (hreply : a.RepliesTo h stage false body e) (hpattern : h.pattern = .progress)
    (listener : String) :
    (Listener.interaction listener).notice? (.message e) =
      some ⟨listener, if stage = Stage.progressAck then .progressAck
        else if stage = Stage.progressUpdate then .progressUpdate else .progressResponse,
        .message e⟩ := by
  have hprogress : e.header.pattern = .progress := hreply.pattern.trans hpattern
  simp only [Listener.notice?, Outcome.interactionCallback?, Outcome.header, hprogress,
    Header.stageOrZero, hreply.stage, Option.getD_some, Outcome.isError, Bool.false_eq_true,
    if_false, ← apply_ite, Option.map_some]

/-- The replies of a stream that have come in are told by the callbacks for them. -/
private theorem Echo.filterMap_notice? {a : Address} {h : Header} {es : List Bytes}
    {ack response : Message} {updates : List Message} (hpattern : h.pattern = .progress)
    (hack : a.RepliesTo h Stage.progressAck false .empty ack)
    (hupdates : List.Forall₂
      (fun e m => a.RepliesTo h Stage.progressUpdate false (.elements [e]) m) es updates)
    (hresponse : a.RepliesTo h Stage.progressResponse false .empty response)
    (listener : String) (k : Nat) :
    let notices : List Notice :=
      ⟨listener, .progressAck, .message ack⟩ ::
        updates.map (fun m => ⟨listener, .progressUpdate, .message m⟩) ++
          [⟨listener, .progressResponse, .message response⟩]
    ((ack :: updates ++ [response]).take k).filterMap
        (fun m => (Listener.interaction listener).notice? (.message m)) =
      notices.take k := by
  intro notices
  let notice (m : Message) := (Listener.interaction listener).notice? (.message m)
  have hmap : updates.map notice =
      updates.map fun m => some ⟨listener, .progressUpdate, .message m⟩ := by
    induction hupdates with
    | nil => rfl
    | cons hreply _ ih =>
      rw [List.map_cons, List.map_cons, ih]
      exact congrArg (· :: _) (hreply.notice?_progress hpattern listener)
  -- every reply invokes one callback, so as many are invoked as replies have come in
  have hall : (ack :: updates ++ [response]).map notice = notices.map some := by
    simp only [List.cons_append, List.map_cons, List.map_append, hmap, List.map_nil, notice,
      notices, hack.notice?_progress hpattern, hresponse.notice?_progress hpattern, List.map_map]
    rfl
  calc ((ack :: updates ++ [response]).take k).filterMap notice
      = (((ack :: updates ++ [response]).map notice).take k).filterMap id := by
        rw [← List.map_take, List.filterMap_map]
        rfl
    _ = ((notices.take k).map some).filterMap id := by rw [hall, List.map_take]
    _ = notices.take k := by rw [List.filterMap_map, Function.id_comp, List.filterMap_some]

namespace Instance

variable {i : Instance} {s : Site} {m : Message} {a : Address}

/-- A handler returns with the interaction completed. Exactly its replies are sent; the initiator
    accepts all of them, and the interaction is over then. -/
private theorem receive_of_completed (via : EndpointRef) (hsecurity : i.security m = .ok m)
    (hintake : m.header.intake = .request) (hprovider : i.provider m.header = .ok a)
    (hreturned : (s.serve a m).1 = .ok ())
    (hcomplete : (s.serve a m).2.1.progress.complete = true) {replies : List Message}
    (hsends : s.Sends (s.serve a m).2.2 replies) :
    s.Sends (i.receive s via m).2 replies ∧ (∀ e ∈ replies, m.AnsweredBy e) ∧
      ∃ start last, ReplyState.initial m.header.pattern m.header.stage = .ok (some start) ∧
        start.receiveAll (replies.map Message.header) = .ok last ∧ last.isFinished = true := by
  have hserved : m.header.pattern.isServed = true := Header.isServed_of_intake hintake
  obtain ⟨start, ms, seen, hstart, hms, hseen, _, hcounter⟩ := s.serve_agrees a hserved
  -- the replies are what the respondent sent
  obtain rfl : replies = ms := hsends.sentSince_eq.symm.trans hms.sentSince_eq
  have hafter : (i.receive s via m).2 = (s.serve a m).2.2 := by
    -- the handler returned, so nothing is added
    rw [receive_request s via hsecurity hintake hprovider, dispatchRequest_eq s hprovider,
      hreturned]
  refine ⟨hafter ▸ hsends, ?_, start, seen, ?_, hseen, hcounter.isFinished.trans hcomplete⟩
  · intro e he
    rw [← hsends.sentSince_eq] at he
    exact s.answeredBy_of_serve he
  · rw [Header.stage_of_intake_request hintake, hstart.initial_eq]

/-- For a Progress that comes in for an echoing provider its stream is sent; the initiator accepts
    all of it, and the interaction is over then. -/
theorem receive_of_echo (via : EndpointRef) {label : String} {es : List Bytes}
    (hsecurity : i.security m = .ok m) (hintake : m.header.intake = .request)
    (hprovider : i.provider m.header = .ok a) (hhandler : a.handler = Echo.handler label)
    (hpattern : m.header.pattern = .progress) (hbody : m.body = .elements es)
    (htakes : s.Takes a.endpoint) :
    let stream := Echo.stream a s.now m es
    s.Sends (i.receive s via m).2 stream ∧ (∀ e ∈ stream, m.AnsweredBy e) ∧
      ∃ start last, ReplyState.initial .progress m.header.stage = .ok (some start) ∧
        start.receiveAll (stream.map Message.header) = .ok last ∧ last.isFinished = true := by
  intro stream
  obtain ⟨hreturned, hcomplete, hsends⟩ := Echo.serve_progress hhandler hpattern hbody htakes
  rw [← hpattern]
  exact receive_of_completed via hsecurity hintake hprovider hreturned hcomplete hsends

end Instance

/-! ## How long an interaction is pending -/

/-- What begins the first `k` elements of a list is all of the list if it has no more than these and
    all of them are there. -/
private theorem eq_whole_iff {α : Type} {p l : List α} {k : Nat} (h : p <+: l.take k) :
    p = l ↔ l.length ≤ k ∧ p = l.take k := by
  constructor
  · -- a beginning that is the whole is no longer than what it begins
    rintro rfl
    have hle := h.length_le
    rw [List.length_take] at hle
    have hk : p.length ≤ k := by omega
    exact ⟨hk, (List.take_of_length_le hk).symm⟩
  · rintro ⟨hk, hp⟩
    rw [hp, List.take_of_length_le hk]

/-- The beginning of replies that are accepted is accepted, and ends the interaction if it is all of
    them. -/
private theorem ReplyState.receiveAll_take {st last : ReplyState} {hs : List Header}
    (h : st.receiveAll hs = .ok last) (hfinished : last.isFinished = true) (k : Nat) :
    ∃ mid, st.receiveAll (hs.take k) = .ok mid ∧ (mid.isFinished = true ↔ hs.length ≤ k) := by
  rw [← List.take_append_drop k hs, receiveAll, List.foldlM_append] at h
  -- what refuses a beginning refuses the whole
  cases hmid : st.receiveAll (hs.take k) with
  | error failure =>
    rw [receiveAll] at hmid
    rw [hmid] at h
    cases h
  | ok mid =>
    have hrest : mid.receiveAll (hs.drop k) = .ok last := by
      rw [receiveAll] at hmid
      rw [hmid] at h
      exact h
    refine ⟨mid, rfl, ?_⟩
    rw [← List.drop_eq_nil_iff]
    constructor
    · -- after the end no reply is accepted
      intro hmidover
      exact (receiveAll_of_isFinished hmidover hrest).1
    · -- without a rest the state is the last
      intro hnil
      rw [hnil] at hrest
      cases hrest
      exact hfinished

/-- What is held under an id is pending. -/
private theorem Correlator.contains_of_get? {c : Correlator} {id : TransactionId} {x : Exchange}
    (hx : c.exchanges.get? id = some x) : c.contains id = true := by
  rw [← Bool.not_eq_false, contains_eq_false_iff, hx]
  exact Option.some_ne_none x

/-- What is pending without a listener can be waited for. -/
private theorem Correlator.await_of_get? {c : Correlator} {id : TransactionId} {x : Exchange}
    (hx : c.exchanges.get? id = some x) (hl : x.listener = none) :
    c.await id = .ok ⟨id, x.serial⟩ := by
  simp [await, hx, hl]

namespace Desk

section

variable {d : Desk} {id : TransactionId} {x : Exchange} {ops : List Op} {ms : List Message}
  {last : ReplyState}

/-- When an exchange is gone nothing is pending under its id, unless something else was opened under
    it. -/
private theorem contains_of_not_holds (hx : d.table.exchanges.get? id = some x)
    (hgone : ¬ (d.after ops).Holds x.serial) (hopens : ∀ n, ¬ d.Opens id n ops) :
    (d.after ops).table.contains id = false := by
  rw [Correlator.contains_eq_false_iff, Option.eq_none_iff_forall_ne_some]
  intro y hy
  -- what stands under the id was there before, or was opened
  rcases d.opens_of_after ops hy with ⟨x', hx', hserial⟩ | hopened
  · obtain rfl := Option.some.inj (hx.symm.trans hx')
    exact hgone ⟨id, y, hy, hserial.symm⟩
  · exact hopens _ hopened

/-- What is opened in a run is started in it. -/
private theorem Opens.exists_starts (hd : d.Sound) {n : Nat} (h : d.Opens id n ops) :
    ∃ op ∈ ops, op.starts = true := by
  obtain ⟨earlier, op, later, y, rfl, hmade, _, hy, hserial⟩ := h
  refine ⟨op, List.mem_append_right _ (.head _), ?_⟩
  rw [after_append] at hy
  obtain ⟨_, hopens, _⟩ := opened (hd.after earlier) hy (hserial.trans hmade.symm)
  -- of the operations only these two make an exchange
  cases op with
  | initiate | resume => rfl
  | _ => cases hopens

namespace Brings

/-- Where nothing but replies concerns an interaction, its state follows these replies. -/
private theorem follow {n : Nat} {st : ReplyState} (h : Brings id n ops ms)
    (hlast : st.receiveAll (ms.map Message.header) = .ok last) : st.follow id ops = last := by
  -- induction on the operations; a reply is the only thing that moves the state
  induction ops generalizing st ms with
  | nil =>
    obtain rfl : [] = ms := h.replies
    cases hlast
    rfl
  | cons op ops ih =>
    rcases h.cons_cases with ⟨hnone, hrest⟩ | ⟨m, rest, rfl, hid, rfl, hrest⟩
    · have htake := Op.take?_of_brings?_eq_none hnone (h.unfailed op (.head _)) st
      simp only [ReplyState.follow, htake]
      exact ih hrest hlast
    · obtain ⟨next, hstate, hlast⟩ := ReplyState.receiveAll_cons_eq_ok_iff.1 hlast
      simp only [ReplyState.follow, take?_receive hid hstate]
      exact ih hrest hlast

/-- A waited interaction is pending until the reply that ends it is returned. -/
theorem pending (h : Brings id x.serial ops ms) (hd : d.Sound) (hc : d.Coherent)
    (hx : d.table.exchanges.get? id = some x) (hl : x.listener = none)
    (hempty : d.table.mailbox x.serial = [])
    (hlast : x.state.receiveAll (ms.map Message.header) = .ok last) :
    let isOver := last.isFinished = true ∧ d.returned x.serial ops = ms.map Correlator.waited
    ((d.after ops).table.exchanges.get? id = some { x with state := last } ∧ ¬ isOver) ∨
      (¬ (d.after ops).Holds x.serial ∧ isOver) := by
  intro isOver
  obtain ⟨hqueue, _⟩ := h.returned hd hc hx hl hempty hlast
  -- either the exchange is still there, or its last outcome was handed out
  rcases (waited_after hd hc hx hl h.uninterrupted).2 with hx' | ⟨hfinished, hgone, hbox⟩
  · rw [h.follow hlast] at hx'
    refine .inl ⟨hx', ?_⟩
    rintro ⟨hfinished, hall⟩
    -- the outcome that ended it would still be in the mailbox
    have hcoherent : (d.after ops).Coherent := hc.after hd ops
    obtain ⟨dl, hdl, _⟩ := (hcoherent.waited_tallies hx' hl).finished_iff.1 hfinished
    rw [hall, eq_comm, List.self_eq_append_right, List.map_eq_nil_iff] at hqueue
    rw [hqueue] at hdl
    cases hdl
  · rw [hbox, List.map_nil, List.append_nil] at hqueue
    exact .inr ⟨hgone, h.follow hlast ▸ hfinished, hqueue⟩

/-- A listened interaction is pending until the reply that ends it comes in. -/
theorem listened {l : Listener} (h : Brings id x.serial ops ms) (hd : d.Sound)
    (hx : d.table.exchanges.get? id = some x) (hl : x.listener = some l)
    (hopen : x.state.isFinished = false)
    (hlast : x.state.receiveAll (ms.map Message.header) = .ok last) :
    ((d.after ops).table.exchanges.get? id = some { x with state := last } ∧
        last.isFinished = false) ∨
      (¬ (d.after ops).Holds x.serial ∧ last.isFinished = true) := by
  cases hfinished : last.isFinished with
  | false => exact .inl ⟨(h.told hd hx hl hlast).2 hfinished, rfl⟩
  | true =>
    refine .inr ⟨?_, rfl⟩
    -- the exchange leaves the table with its last reply, and does not come back
    induction ops generalizing d x ms with
    | nil =>
      obtain rfl : [] = ms := h.replies
      cases hlast
      cases hopen.symm.trans hfinished
    | cons op ops ih =>
      have hlt : x.serial < (d.step op).1.table.made :=
        Nat.lt_of_lt_of_le (hd.serial_lt hx) (d.made_le_step op)
      rw [after_cons]
      rcases h.cons_cases with ⟨hnone, hrest⟩ | ⟨m, rest, rfl, hid, rfl, hrest⟩
      · -- what is not a reply to it leaves the exchange as it is
        have htake := Op.take?_of_brings?_eq_none hnone (h.unfailed op (.head _)) x.state
        have hx' := (stays hd hx (h.uninterrupted op (.head _)) htake
          (by simp [hd.taking_listened hx hl op])).1
        exact ih hrest (hd.step op) hx' hl hopen hlast
      · obtain ⟨next, hstate, hlast⟩ := ReplyState.receiveAll_cons_eq_ok_iff.1 hlast
        obtain ⟨_, _, _, _, hx'⟩ := tells hd hx hl (take?_receive hid hstate)
        -- a reply moves the state, and takes the exchange away if it is the last
        cases hnext : next.isFinished with
        | true =>
          rw [hnext, if_pos rfl] at hx'
          exact (told_of_not_holds hlt hx' ops).1
        | false =>
          rw [hnext, if_neg Bool.false_ne_true] at hx'
          exact ih (x := { x with state := next }) hrest (hd.step _) hx' hl hnext hlast

end Brings

end

end Desk

namespace Network

/-- At the end of a run the interaction of the instance `name` with the serial number `serial` is
    gone: nothing is pending under its id `id`, unless something else was opened under it in the
    run. -/
def Ended (home : String → String) (n : Network) (name : String) (id : TransactionId) (serial : Nat)
    (moves : List Move) : Prop :=
  let last := n.after home moves
  ¬ (last.nodes name).desk.Holds serial ∧
    ((∀ j, ¬ (n.nodes name).desk.Opens id j (n.trace home name moves)) →
      (last.nodes name).inst.correlator.contains id = false)

section

variable {home : String → String} {n : Network} {name : String} {id : TransactionId}
  {x : Exchange} {moves : List Move} {stream : List Message} {last : ReplyState} {k : Nat}

/-- When an interaction has left the table it is gone. -/
private theorem ended_of_not_holds (hx : (n.nodes name).desk.table.exchanges.get? id = some x)
    (hgone : ¬ ((n.after home moves).nodes name).desk.Holds x.serial) :
    n.Ended home name id x.serial moves := by
  refine ⟨hgone, fun hopens => ?_⟩
  have hdesk := desk_after home n name moves
  rw [hdesk] at hgone
  have hcontains := Desk.contains_of_not_holds hx hgone hopens
  rwa [← hdesk] at hcontains

namespace Proceeds

/-- A stream of replies comes in for a waited interaction, which it brings to its end. Waiters are
    returned what has come in of it, in order, and until they were returned all of it the
    interaction is pending. -/
private theorem waited (h : n.Proceeds home name id x.serial moves (stream.take k))
    (hreplies : ∀ m ∈ stream, m.RepliesIn id) (hd : (n.nodes name).desk.Sound)
    (hc : (n.nodes name).desk.Coherent)
    (hx : (n.nodes name).desk.table.exchanges.get? id = some x) (hl : x.listener = none)
    (hempty : (n.nodes name).desk.table.mailbox x.serial = [])
    (hover : x.state.receiveAll (stream.map Message.header) = .ok last)
    (hfinished : last.isFinished = true) (hplain : ∀ m ∈ stream, m.header.isError = false) :
    let after := n.after home moves
    let returned := (n.nodes name).desk.returned x.serial (n.trace home name moves)
    returned <+: (stream.take k).map .ok ∧
      (∀ t ∈ (after.nodes name).tickets, t.serial = x.serial →
        after.outcome? name t = ((stream.take k).map .ok)[returned.length]?) ∧
      (returned ≠ stream.map .ok → (after.nodes name).inst.correlator.contains id = true ∧
        (after.nodes name).inst.correlator.await id = .ok ⟨id, x.serial⟩) ∧
      (returned = stream.map .ok → n.Ended home name id x.serial moves) := by
  intro after returned
  have hbrings := h.brings fun m hm => hreplies m (List.mem_of_mem_take hm)
  -- the state after the replies that have come in
  obtain ⟨seen, hseen, hend⟩ := ReplyState.receiveAll_take hover hfinished k
  rw [← List.map_take] at hseen
  rw [List.length_map] at hend
  have hwaited : (stream.take k).map Correlator.waited = (stream.take k).map .ok :=
    List.map_congr_left fun m hm =>
      Correlator.waited_of_plain (hplain m (List.mem_of_mem_take hm))
  have hdesk : (after.nodes name).desk = _ := desk_after home n name moves
  obtain ⟨hqueue, _⟩ := hbrings.returned hd hc hx hl hempty hseen
  rw [hwaited, ← hdesk] at hqueue
  have hbegin : returned <+: (stream.take k).map .ok := ⟨_, hqueue⟩
  -- all of the stream is returned when all of it has come in and was returned
  have hall : returned = stream.map .ok ↔
      seen.isFinished = true ∧ returned = (stream.take k).map .ok := by
    have hwhole := hbegin
    rw [List.map_take] at hwhole ⊢
    rw [eq_whole_iff hwhole, List.length_map, hend]
  have hpending := hbrings.pending hd hc hx hl hempty hseen
  rw [hwaited, ← hall, ← hdesk] at hpending
  refine ⟨hbegin, ?_, ?_, ?_⟩
  · intro t _ hserial
    exact Desk.collect_of_queue (hserial ▸ hqueue)
  · intro hleft
    -- what is left can be waited for
    rcases hpending with ⟨hx', _⟩ | ⟨_, hreturned⟩
    · have hawait := Correlator.await_of_get? (x := { x with state := seen }) hx' hl
      exact ⟨Correlator.contains_of_get? hx', hawait⟩
    · exact absurd hreturned hleft
  · intro hreturned
    -- when all has been returned nothing is left
    rcases hpending with ⟨_, hleft⟩ | ⟨hgone, _⟩
    · exact absurd hreturned hleft
    · exact ended_of_not_holds hx hgone

/-- A stream of replies comes in for a listened interaction, which it brings to its end. The
    listener is told what has come in of it, in order, and until it was told all of it the
    interaction is pending. -/
private theorem listened {l : Listener} (h : n.Proceeds home name id x.serial moves (stream.take k))
    (hreplies : ∀ m ∈ stream, m.RepliesIn id) (hd : (n.nodes name).desk.Sound)
    (hx : (n.nodes name).desk.table.exchanges.get? id = some x) (hl : x.listener = some l)
    (hopen : x.state.isFinished = false)
    (hover : x.state.receiveAll (stream.map Message.header) = .ok last)
    (hfinished : last.isFinished = true) (hplain : ∀ m ∈ stream, m.header.isError = false) :
    let after := n.after home moves
    ((n.nodes name).desk.told x.serial (n.trace home name moves)).map (fun e => e.2.outcome) =
        (stream.take k).map .message ∧
      n.callbacks home name id moves =
        ((stream.take k).filterMap fun m => l.notice? (.message m)) ∧
      (k < stream.length → (after.nodes name).inst.correlator.contains id = true) ∧
      (stream.length ≤ k → n.Ended home name id x.serial moves) := by
  intro after
  have hbrings := h.brings fun m hm => hreplies m (List.mem_of_mem_take hm)
  obtain ⟨seen, hseen, hend⟩ := ReplyState.receiveAll_take hover hfinished k
  rw [← List.map_take] at hseen
  rw [List.length_map] at hend
  have houtcomes : (stream.take k).map Outcome.ofMessage = (stream.take k).map .message :=
    List.map_congr_left fun m hm =>
      Outcome.ofMessage_of_plain (hplain m (List.mem_of_mem_take hm))
  obtain ⟨htold, _⟩ := hbrings.told hd hx hl hseen
  -- pending or gone, as the first `k` replies are all of them or not
  have hpending := hbrings.listened hd hx hl hopen hseen
  rw [← desk_after, hend, ← Bool.not_eq_true, hend] at hpending
  refine ⟨?_, ?_, ?_, ?_⟩
  · -- the reports of the table
    rw [htold, List.map_map]
    exact houtcomes
  · -- the callbacks of the site
    have hcallbacks := congrArg (List.filterMap l.notice?) houtcomes
    rw [List.filterMap_map, List.filterMap_map] at hcallbacks
    exact (callbacks_of_brings hd hx hl hopen hbrings h.transported hseen).trans hcallbacks
  · intro hk
    rcases hpending with ⟨hx', _⟩ | ⟨_, hle⟩
    · exact Correlator.contains_of_get? hx'
    · omega
  · intro hk
    rcases hpending with ⟨_, hlt⟩ | ⟨hgone, _⟩
    · omega
    · exact ended_of_not_holds hx hgone

end Proceeds

end

/-- A stream of updates reaches the initiator. Whatever happened in a network before, let a
    Progress with the elements `es` be started, with a listener or without one; let its request be
    delivered at any later time to an instance where the echoing provider is bound for it, whose
    endpoint takes messages.

    The stream is sent then: an acknowledgement, an update for each element in turn, which carries
    this element alone, and a response. All of these are replies in the transaction of the request.
    Let anything happen in which the first `k` of them are delivered to the initiator, in this
    order, and pass its check, and nothing else ends the interaction:

    - waiters have been returned these replies, as far as they have collected, and the next to be
      collected is the next of these; until the response is returned the interaction is pending and
      can be waited for, and then it is gone;
    - a listener was told these replies, by the callbacks for them; until it was told the response
      the interaction is pending, and then it is gone. -/
theorem stream_arrives {n : Network} (hnew : n.IsNew) (home : String → String)
    (before mid later : List Move) (name : String) (c : Consumer) (operation : UInt16)
    (es : List Bytes) (reporter : Option String) (place : Nat) (via : EndpointRef)
    {id : TransactionId} {a : Address} {label : String} :
    let ready := n.after home before
    let d := Demand.progress operation (.elements es)
    let started := ready.step home (.start name c d reporter)
    let request := d.message c.addressing ready.site.now id
    let asked := started.after home mid
    let provider := (asked.nodes (home request.header.uriTo)).inst
    let moves := mid ++ .deliver place via :: later
    let last := started.after home moves
    let serial := (ready.nodes name).desk.table.made
    ((ready.nodes name).inst.start ready.site c d reporter).2.2 = .ok id →
      asked.sent[place]? = some request → provider.security request = .ok request →
      provider.provider request.header = .ok a → a.handler = Echo.handler label →
      asked.site.Takes a.endpoint →
      ∃ ack updates response,
        let stream := ack :: updates ++ [response]
        a.RepliesTo request.header Stage.progressAck false .empty ack ∧
          List.Forall₂
            (fun e m => a.RepliesTo request.header Stage.progressUpdate false (.elements [e]) m)
            es updates ∧
          a.RepliesTo request.header Stage.progressResponse false .empty response ∧
          (∀ m ∈ stream, m.RepliesIn id) ∧
          (asked.step home (.deliver place via)).sent = asked.sent ++ stream ∧
          ∀ k, started.Proceeds home name id serial moves (stream.take k) →
            (reporter = none →
              let returned := (started.nodes name).desk.returned serial
                (started.trace home name moves)
              returned <+: (stream.take k).map .ok ∧
                (∀ t ∈ (last.nodes name).tickets, t.serial = serial →
                  last.outcome? name t = ((stream.take k).map .ok)[returned.length]?) ∧
                (returned ≠ stream.map .ok →
                  (last.nodes name).inst.correlator.contains id = true ∧
                    (last.nodes name).inst.correlator.await id = .ok ⟨id, serial⟩) ∧
                (returned = stream.map .ok → started.Ended home name id serial moves)) ∧
            ∀ r, reporter = some r →
              let notices : List Notice :=
                ⟨r, .progressAck, .message ack⟩ ::
                  updates.map (fun m => ⟨r, .progressUpdate, .message m⟩) ++
                    [⟨r, .progressResponse, .message response⟩]
              ((started.nodes name).desk.told serial (started.trace home name moves)).map
                  (fun e => e.2.outcome) = (stream.take k).map .message ∧
                started.callbacks home name id moves = notices.take k ∧
                (k < stream.length → (last.nodes name).inst.correlator.contains id = true) ∧
                (stream.length ≤ k → started.Ended home name id serial moves) := by
  intro ready d started request asked provider moves last serial hok hplace hsecurity hprovider
    hhandler htakes
  obtain ⟨hsends, hanswers, start, ended, hinitial, hover, hfinished⟩ :=
    Instance.receive_of_echo via hsecurity rfl hprovider hhandler rfl rfl htakes
  obtain ⟨hd, hc, hempty, hx⟩ := hnew.started home before hok hinitial
  let stream := Echo.stream a asked.site.now request es
  -- no reply of the stream is an error, and all are replies to the interaction
  have hplain : ∀ m ∈ stream, m.header.isError = false := fun m => Echo.isError_of_mem_stream
  have hreplies : ∀ m ∈ stream, m.RepliesIn id := fun m hm => (hanswers m hm).repliesIn rfl
  let reply (stage : Stage) (body : Body) :=
    a.response asked.site.now request.header request.properties stage body
  -- what was sent, in terms of its contents
  have hreply (stage : Stage) (body : Body) :
      a.RepliesTo request.header stage false body (reply stage body) := a.repliesTo_response ..
  have hupdates : List.Forall₂
      (fun e m => a.RepliesTo request.header Stage.progressUpdate false (.elements [e]) m) es
      (es.map fun e => reply Stage.progressUpdate (.elements [e])) :=
    List.forall₂_map_right_iff.2 (List.forall₂_same.2 fun e _ => hreply ..)
  refine ⟨reply Stage.progressAck .empty,
    es.map fun e => reply Stage.progressUpdate (.elements [e]),
    reply Stage.progressResponse .empty, hreply .., hupdates, hreply .., hreplies,
    sent_of_deliver hplace hsends, ?_⟩
  intro k hproceeds
  constructor
  · -- a waiter
    rintro rfl
    exact hproceeds.waited hreplies hd hc hx rfl hempty hover hfinished hplain
  · -- a listener
    rintro r rfl
    have hopen : start.isFinished = false :=
      (ReplyState.underWay_of_initial hinitial).isFinished
    obtain ⟨htold, hcallbacks, hpending, hended⟩ :=
      hproceeds.listened hreplies hd hx rfl hopen hover hfinished hplain
    have hnotices := Echo.filterMap_notice? rfl (hreply ..) hupdates (hreply ..) r k
    exact ⟨htold, hcallbacks.trans hnotices, hpending, hended⟩

/-- A Progress with two elements. Its waiter begins to wait before anything has come in, lags
    behind the updates, and is returned the whole stream in the end; a listener is told all of it.
    Then nothing is pending under the id. -/
theorem stream_arrives_two :
    let a : Address := { endpoint := ⟨1, "b"⟩, uri := "b", handler := Echo.handler "echo" }
    let c : Consumer := { addressing := { endpoint := ⟨0, "a"⟩, uriFrom := "a", uriTo := "b" } }
    let before : List Move :=
      [.pass 0 [⟨"a", "a", false, []⟩, ⟨"b", "b", false, []⟩] .empty,
        .arrange "b" (.manual 0) .unrestricted { allocator := .start 0 0 } { separator := "::" }
          ((({} : Bindings).bindProvider {} a).2)]
    let ready := (create {} (.manual 0) 0).after id before
    let arrive (place : Nat) := Move.deliver place ⟨0, "a"⟩
    let collect := Move.work "a" (.collect ⟨1, 0⟩)
    let later : List Move :=
      [arrive 1, collect, arrive 2, arrive 3, .work "a" (.await 1), collect, collect, arrive 4,
        .work "a" (.await 1), collect]
    let moves : List Move := [.work "a" (.await 1)] ++ .deliver 0 ⟨1, "b"⟩ :: later
    let started (reporter : Option String) :=
      ready.step id (.start "a" c (.progress 0 (.elements [[1], [2]])) reporter)
    let reply (stage : Stage) (body : Body) : Message :=
      { header := { uriFrom := "b", uriTo := "a", pattern := .progress, stage := some stage,
                    timestamp := 0, transaction := some 1 }
        body := body }
    let ack := reply 2 .empty
    let first := reply 3 (.elements [[1]])
    let second := reply 3 (.elements [[2]])
    let response := reply 4 .empty
    ((started none).nodes "a").desk.returned 0 ((started none).trace id "a" moves) =
        [.ok ack, .ok first, .ok second, .ok response] ∧
      (((started none).after id moves).nodes "a").inst.correlator.contains 1 = false ∧
      (started (some "l")).callbacks id "a" 1 moves =
        [⟨"l", .progressAck, .message ack⟩, ⟨"l", .progressUpdate, .message first⟩,
          ⟨"l", .progressUpdate, .message second⟩, ⟨"l", .progressResponse, .message response⟩] ∧
      (((started (some "l")).after id moves).nodes "a").inst.correlator.contains 1 = false := by
  intro a c before ready arrive collect later moves started reply ack first second response
  have hnew := isNew_create {} (.manual 0) 0
  have harrives (reporter : Option String) :=
    @stream_arrives _ hnew id before [.work "a" (.await 1)] later "a" c 0 [[1], [2]] reporter 0
      ⟨1, "b"⟩ 1 a "echo"
  have htransported (m : Message) : .work "a" (.receive m) ∉ moves := by
    simp [moves, later, arrive, collect]
  -- nothing else is started, so nothing is opened under the id
  have hended {reporter : Option String} (h : (started reporter).Ended id "a" 1 0 moves)
      (hstarts : ∀ op ∈ (started reporter).trace id "a" moves, op.starts = false)
      (hsound : ((started reporter).nodes "a").desk.Sound) :
      (((started reporter).after id moves).nodes "a").inst.correlator.contains 1 = false := by
    refine h.2 fun j hopens => ?_
    obtain ⟨op, hmem, hop⟩ := hopens.exists_starts hsound
    cases (hstarts op hmem).symm.trans hop
  have hreturned : ((started none).nodes "a").desk.returned 0 ((started none).trace id "a" moves) =
      [.ok ack, .ok first, .ok second, .ok response] := by decide +kernel
  -- what was sent says which messages the stream consists of
  refine ⟨hreturned, ?_, ?_⟩
  · obtain ⟨ack', updates, response', _, _, _, _, hsent, hwaited⟩ :=
      harrives none rfl rfl rfl rfl rfl ⟨_, rfl, rfl, rfl⟩
    have hstream : [ack, first, second, response] = ack' :: updates ++ [response'] :=
      congrArg List.tail hsent
    rw [← hstream] at hwaited
    obtain ⟨_, _, _, hover⟩ :=
      (hwaited 4 (.of_trace (by decide +kernel) (by decide +kernel) htransported)).1 rfl
    -- the waiter's interaction is over, since it was returned everything
    exact hended (hover hreturned) (by decide +kernel) (hnew.started id before rfl rfl).1
  · obtain ⟨ack', updates, response', _, _, _, _, hsent, hlistened⟩ :=
      harrives (some "l") rfl rfl rfl rfl rfl ⟨_, rfl, rfl, rfl⟩
    have hstream : [ack, first, second, response] = ack' :: updates ++ [response'] :=
      congrArg List.tail hsent
    obtain ⟨rfl, hrest⟩ := List.cons.inj hstream
    obtain ⟨rfl, hlast⟩ : [first, second] = updates ∧ [response] = [response'] :=
      List.append_inj' (show [first, second] ++ [response] = _ from hrest) rfl
    obtain rfl := List.singleton_inj.1 hlast
    -- so is the listener's, since everything has come in
    obtain ⟨_, hcallbacks, _, htold⟩ :=
      (hlistened 4 (.of_trace (by decide +kernel) (by decide +kernel) htransported)).2 "l" rfl
    exact ⟨hcallbacks,
      hended (htold (Nat.le_refl 4)) (by decide +kernel) (hnew.started id before rfl rfl).1⟩

/-- An echoing provider is asked for the updates of one element, all messages that are sent are
    delivered once each and in order, and still the initiator does not get the stream:

    - if the security check of its instance refuses the replies, waiters are returned nothing and a
      listener is told nothing, and the interaction stays pending;
    - if the send of the update fails, an error comes in its place, and no response follows;
    - if its instance was closed before, it gets the notice of the shutdown. -/
theorem stream_lost :
    let a : Address := { endpoint := ⟨1, "b"⟩, uri := "b", handler := Echo.handler "echo" }
    let c : Consumer := { addressing := { endpoint := ⟨0, "a"⟩, uriFrom := "a", uriTo := "b" } }
    let arrange (name : String) (security : Security) (bindings : Bindings) : Move :=
      .arrange name (.manual 0) security { allocator := .start 0 0 } { separator := "::" } bindings
    let asked (faults : List (Option Failure)) (security : Security) (reporter : Option String) :=
      (create {} (.manual 0) 0).after id
        [.pass 0 [⟨"a", "a", false, []⟩, ⟨"b", "b", false, faults⟩] .empty,
          arrange "a" security {},
          arrange "b" .unrestricted (({} : Bindings).bindProvider {} a).2,
          .start "a" c (.progress 0 (.elements [[1]])) reporter, .work "a" (.await 1),
          .deliver 0 ⟨1, "b"⟩]
    let arrive (place : Nat) := Move.deliver place ⟨0, "a"⟩
    let collect := Move.work "a" (.collect ⟨1, 0⟩)
    let replies : List Move := [arrive 1, arrive 2, arrive 3]
    let request := (Demand.progress 0 (.elements [[1]])).message c.addressing 0 1
    let reply (stage : Stage) (body : Body) : Message :=
      { header := { uriFrom := "b", uriTo := "a", pattern := .progress, stage := some stage,
                    timestamp := 0, transaction := some 1 }
        body := body }
    let ack := reply 2 .empty
    let update := reply 3 (.elements [[1]])
    let response := reply 4 .empty
    let failure : Failure := .transport "lost"
    let failed : Message :=
      { header := { response.header with isError := true }, body := .error failure.standardError }
    let refused := (asked [] (.allowing [[1]]) none).after id replies
    let broken := asked [none, some failure] .unrestricted none
    (∀ security reporter, (asked [] security reporter).sent =
        [request, ack, update, response]) ∧
      refused.outcome? "a" ⟨1, 0⟩ = none ∧
      (refused.nodes "a").inst.correlator.contains 1 = true ∧
      (asked [] (.allowing [[1]]) (some "l")).callbacks id "a" 1 replies = [] ∧
      broken.sent = [request, ack, failed] ∧
      (broken.after id [arrive 1, collect, arrive 2]).outcome? "a" ⟨1, 0⟩ =
        some (.error (.standard failure.standardError)) ∧
      ((asked [] .unrestricted none).after id (.close "a" :: replies)).outcome? "a" ⟨1, 0⟩ =
        some (.error Correlator.closed) := by
  intro a c arrange asked arrive collect replies request reply ack update response failure failed
    refused broken
  refine ⟨?_, ?_, ?_, ?_, ?_, ?_, ?_⟩
  · intro security reporter
    cases reporter <;> rfl
  -- the others are runs
  · decide +kernel
  · decide +kernel
  · decide +kernel
  · decide +kernel
  · decide +kernel
  · decide +kernel

end Network

end Mal
