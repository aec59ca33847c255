import Mal.Proofs.Correlation.Accepted

/-!
# Waiting and listening

An interaction can be started without a listener, and then its outcomes are waited for, or with one.
The two forms are carried out differently: a reply is classified in one place for waiters and in
another for listeners, an error that is no reply is passed to a waiter as it is and to a listener in
its standard form, and a listened exchange leaves the table at once when it is over. But both take
what the state of the replies accepts (`ReplyState.accepted`), so what is queued for the waiter and
what is told to the listener are the same outcomes.

## Key results

- `Desk.tells`: what is told of a listened exchange, outcome by outcome
- `Desk.told_eq_accepted`: what a run tells of it
- `Desk.forms_agree`: both forms report the same outcomes
-/

namespace Mal

/-- An outcome as a result: a message, or an error without the header that it came with. -/
def Outcome.result : Outcome → Except StandardError Message
  | message m => .ok m
  | error _ e => .error e

/-- A message has the same result for a listener as for a waiter. -/
private theorem Outcome.result_ofMessage (m : Message) :
    (Outcome.ofMessage m).result = (Correlator.waited m).mapError Failure.standardError := by
  unfold Outcome.ofMessage Correlator.waited
  cases m.error? <;> rfl

/-- A waiter gets no message that is flagged as an error. -/
private theorem Correlator.isError_of_waited {m m' : Message} (h : waited m = .ok m') :
    m'.header.isError = false := by
  unfold waited at h
  split at h
  · cases h
  · next herror =>
    cases h
    rw [← Message.isSome_error?, herror]
    rfl

/-- Neither is such a message among what is accepted. -/
private theorem ReplyState.isError_of_accepted {st : ReplyState} {id : TransactionId}
    {ops : List Desk.Op}
    {m : Message} (hm : .ok m ∈ st.accepted id ops) : m.header.isError = false := by
  induction ops generalizing st with
  | nil => cases hm
  | cons op ops ih =>
    simp only [accepted] at hm
    split at hm
    · exact ih hm
    · next next outcome htake =>
      -- this outcome was accepted first, or it is among the later ones
      rcases List.mem_cons.1 hm with rfl | hm
      · rcases take?_eq_some htake with ⟨m', _, _, _, hwaited⟩ | ⟨_, _, _, _, _, _, _, _, herror⟩
        · exact Correlator.isError_of_waited hwaited.symm
        · cases herror
      · exact ih hm

namespace Desk

section

variable {d : Desk} {op : Op} {id : TransactionId} {x : Exchange} {l : Listener}

/-! ## Listened exchanges -/

/-- No ticket takes anything from a listened exchange. -/
theorem Sound.taking_listened (hd : d.Sound) (hx : d.table.exchanges.get? id = some x)
    (hl : x.listener = some l) (op : Op) : d.taking x.serial op = [] := by
  cases op with
  | collect t =>
    refine if_neg ?_
    rintro ⟨ht, hserial⟩
    rw [(hd.ticket_waited ht hx hserial.symm).2] at hl
    cases hl
  | _ => rfl

/-- What a listened exchange accepts is told to its listener as one outcome, with the result that a
    waiter would get; a message is told as it is. The exchange moves on, or leaves the table. -/
theorem tells (hd : d.Sound) (hx : d.table.exchanges.get? id = some x) (hl : x.listener = some l)
    {next : ReplyState} {waited : Except Failure Message}
    (htake : x.state.take? id op = some (next, waited)) :
    ∃ o : Outcome, (d.step op).2.reportsOn x.serial = [⟨x.serial, l, o⟩] ∧
      o.result = waited.mapError Failure.standardError ∧
      (∀ m, op = .receive m → o = .ofMessage m) ∧
      if next.isFinished then ¬ (d.step op).1.Holds x.serial
      else (d.step op).1.table.exchanges.get? id = some { x with state := next } := by
  rcases ReplyState.take?_eq_some htake with
    ⟨m, rfl, hid, hstate, rfl⟩ | ⟨now, header, failure, stage, rfl, hid, hstage, rfl, rfl⟩
  · -- a reply takes the exchange off the table if it is the last, else leaves it in its new state
    have hreceive : d.table.receive m =
        ({ d.table with
            exchanges :=
              if next.isFinished then d.table.exchanges.erase id
              else d.table.exchanges.put id { x with state := next } },
          .ok (some ⟨x.serial, l, .ofMessage m⟩)) := by
      simp [Correlator.receive, hid, hx, hstate, hl]
    simp only [step, hreceive]
    refine ⟨.ofMessage m, reportsOn_self rfl, Outcome.result_ofMessage m, ?_, ?_⟩
    · intro m' h
      cases h
      rfl
    · split
      · exact hd.not_holds_erase hx
      · exact Directory.get?_put_self ..
  · -- an error always takes the exchange off the table
    simp only [step, Correlator.fail_of_listened hid hx hstage hl]
    refine ⟨_, reportsOn_self rfl, rfl, ?_, ?_⟩
    · intro m h
      cases h
    · rw [if_pos (ReplyState.isFinished_ended _)]
      exact hd.not_holds_erase hx

/-- What a run tells of a listened exchange that is not interrupted is what its state accepts. -/
theorem told_eq_accepted (hd : d.Sound) (hx : d.table.exchanges.get? id = some x)
    (hl : x.listener = some l) {ops : List Op}
    (hops : ∀ op ∈ ops, op.interrupts id x.serial = false) :
    (d.told x.serial ops).map (fun e => e.2.outcome.result) =
        (x.state.accepted id ops).map (Except.mapError Failure.standardError) ∧
      ∀ e ∈ d.told x.serial ops, e.2.listener = l := by
  induction ops generalizing d x with
  | nil => exact ⟨rfl, by simp [told]⟩
  | cons op ops ih =>
    have hop := hops op (.head _)
    have hrest : ∀ op ∈ ops, op.interrupts id x.serial = false :=
      fun op hmem => hops op (.tail _ hmem)
    have hlt : x.serial < (d.step op).1.table.made :=
      Nat.lt_of_lt_of_le (hd.serial_lt hx) (d.made_le_step op)
    rw [told]
    cases htake : x.state.take? id op with
    | none =>
      -- nobody collects for a listened exchange, so only what it accepts can end it
      have hunmarked : ∀ dl ∈ d.taking x.serial op, dl.terminal = false := by
        simp [hd.taking_listened hx hl op]
      obtain ⟨hx', hr⟩ := stays hd hx hop htake hunmarked
      simp only [hr, List.map_nil, List.nil_append, ReplyState.accepted, htake]
      exact ih (hd.step op) hx' hl hrest
    | some t =>
      obtain ⟨next, waited⟩ := t
      obtain ⟨o, hr, hresult, _, hx'⟩ := tells hd hx hl htake
      simp only [hr, ReplyState.accepted, htake, List.map_cons, List.map_nil,
        List.singleton_append, hresult, List.cons.injEq, true_and, List.mem_cons,
        forall_eq_or_imp]
      cases hfinished : next.isFinished with
      | true =>
        -- nothing is told any more, and nothing is accepted
        rw [hfinished, if_pos rfl] at hx'
        obtain ⟨_, htold⟩ := told_of_not_holds hlt hx' ops
        obtain ⟨_, haccepted⟩ := ReplyState.follow_of_isFinished hfinished id ops
        simp [htold, haccepted]
      | false =>
        rw [hfinished, if_neg Bool.false_ne_true] at hx'
        exact ih (x := { x with state := next }) (hd.step op) hx' hl hrest

/-! ## Interactions of which nothing is kept -/

/-- Only what starts an interaction makes an exchange. -/
private theorem made_step_of_not_starts (d : Desk) (hop : op.starts = false) :
    (d.step op).1.table.made = d.table.made := by
  have hturn := d.turn op
  generalize d.step op = result at hturn
  cases hturn with
  | added a hfree hopens =>
    -- only these operations open something
    cases op with
    | initiate | resume => cases hop
    | _ => cases hopens
  | awaited => rfl
  | descended hd => exact hd.1

/-- Nothing is told of an exchange that is not in the table. -/
theorem reportsOn_of_not_holds {n : Nat} (hgone : ¬ d.Holds n) (op : Op) :
    (d.step op).2.reportsOn n = [] := by
  have hturn := d.turn op
  generalize d.step op = result at hturn
  cases hturn with
  | added a _ _ _ hr => simp [Answer.reportsOn, hr]
  | awaited => rfl
  | descended _ hr =>
    refine List.filter_eq_nil_iff.2 ?_
    intro r hmem heq
    exact hgone (eq_of_beq heq ▸ hr r hmem)

/-- Of an exchange that is not made nothing arrives and nothing is told. -/
private theorem unmade_after (hd : d.Sound) {n : Nat} (hn : d.table.made ≤ n) {ops : List Op}
    (hops : ∀ op ∈ ops, op.starts = false) : d.arrived n ops = [] ∧ d.told n ops = [] := by
  induction ops generalizing d with
  | nil => exact ⟨rfl, rfl⟩
  | cons op ops ih =>
    -- the exchange is not in the table, since it is not even made
    have hgone : ¬ d.Holds n := by
      rintro ⟨id, x, hx, rfl⟩
      exact Nat.not_lt.2 hn (hd.serial_lt hx)
    have hmade := d.made_step_of_not_starts (hops op (.head _))
    obtain ⟨harrived, htold⟩ :=
      ih (hd.step op) (hmade ▸ hn) (fun op hmem => hops op (.tail _ hmem))
    rw [arrived, arriving_of_not_holds hgone, harrived, told, reportsOn_of_not_holds hgone, htold]
    exact ⟨rfl, rfl⟩

end

/-! ## Both forms -/

/-- Whether there is a listener plays no part in how an interaction is answered when it is
    started. -/
private theorem initiate_answer (d : Desk) (seconds : UInt64) (p : Pattern) (stage : Option Stage)
    (l l' : Option Listener) :
    (d.step (.initiate seconds p stage l)).2 = (d.step (.initiate seconds p stage l')).2 := by
  simp only [step, Correlator.initiate]
  -- both go through the same cases of the start
  cases ReplyState.initial p stage with
  | error failure => rfl
  | ok state? =>
    cases d.table.allocator.next (fun _ => seconds) d.table.contains with
    | none => rfl
    | some next => cases state? <;> rfl

/-- Nothing is made of an interaction that has no replies. -/
private theorem made_initiate_of_unkept (d : Desk) (seconds : UInt64) {p : Pattern}
    {stage : Option Stage} (l : Option Listener) (hnone : ReplyState.initial p stage = .ok none) :
    (d.step (.initiate seconds p stage l)).1.table.made = d.table.made := by
  have h := d.table.initiate_initiated seconds p stage l
  simp only [step]
  generalize d.table.initiate seconds p stage l = result at h
  cases h with
  | refused | unkept => rfl
  | added a hsome => cases hnone.symm.trans hsome

/-- Both forms of an interaction report the same outcomes. Whatever an instance did before, let an
    interaction be started once without a listener and once with one. It is answered alike. If it
    is started, let anything happen in both cases that starts nothing and does not interrupt it,
    such as any replies and errors to any interactions, and waits.

    The outcomes told to the listener are those returned to waiters or still queued for them, in the
    same order: messages as they are, errors in their standard form. In neither form a message that
    is flagged as an error passes for a success. -/
theorem forms_agree (a : Allocator) (patience : UInt64) (before ops : List Op) (seconds : UInt64)
    (p : Pattern) (stage : Option Stage) (l : Listener) :
    let d := (new a patience).after before
    let n := d.table.made
    let waiting := d.step (.initiate seconds p stage none)
    let listening := d.step (.initiate seconds p stage (some l))
    let queued := waiting.1.returned n ops ++
      ((waiting.1.after ops).table.mailbox n).map Delivery.outcome
    let told := listening.1.told n ops
    listening.2 = waiting.2 ∧ ∀ id, waiting.2 = .initiated (.ok id) →
      (∀ op ∈ ops, op.starts = false ∧ op.interrupts id n = false) →
      told.map (fun e => e.2.outcome.result) = queued.map (Except.mapError Failure.standardError) ∧
        (∀ e ∈ told, e.2.listener = l) ∧
        (∀ m, .ok m ∈ queued → m.header.isError = false) ∧
        ∀ e ∈ told, ∀ m, e.2.outcome = .message m → m.header.isError = false := by
  intro d n waiting listening queued told
  have hd : d.Sound := (sound_new a patience).after before
  have hc : d.Coherent := (Coherent.new a patience).after (sound_new a patience) before
  have hanswer : listening.2 = waiting.2 := d.initiate_answer seconds p stage ..
  refine ⟨hanswer, ?_⟩
  intro id hok hops
  have hstarts : ∀ op ∈ ops, op.starts = false := fun op hmem => (hops op hmem).1
  have hinterrupts : ∀ op ∈ ops, op.interrupts id n = false := fun op hmem => (hops op hmem).2
  -- the waiter's outcomes are what has arrived for the mailbox
  have hqueued : queued = (waiting.1.arrived n ops).map Delivery.outcome := by
    have hconserved := returned_append_mailbox (hd.step (.initiate seconds p stage none)) n ops
    rwa [hc.step_box_empty hd _ (Nat.le_refl _), List.nil_append] at hconserved
  -- and both forms report what is accepted
  suffices haccepted : ∃ accepted : List (Except Failure Message), queued = accepted ∧
      told.map (fun e => e.2.outcome.result) =
        accepted.map (Except.mapError Failure.standardError) ∧
      (∀ e ∈ told, e.2.listener = l) ∧ ∀ m, .ok m ∈ accepted → m.header.isError = false by
    obtain ⟨_, rfl, htold, hl, herror⟩ := haccepted
    refine ⟨htold, hl, herror, ?_⟩
    intro e he m hm
    have hresult : (.ok m : Except StandardError Message) ∈
        queued.map (Except.mapError Failure.standardError) := by
      rw [← htold]
      exact List.mem_map.2 ⟨e, he, by rw [hm]; rfl⟩
    obtain ⟨outcome, hmem, heq⟩ := List.mem_map.1 hresult
    cases outcome with
    | error failure => cases heq
    | ok m' =>
      cases heq
      exact herror m hmem
  cases hstate : ReplyState.initial p stage with
  -- an interaction that is refused has no id
  | error failure =>
    simp [waiting, step, Correlator.initiate, hstate] at hok
  | ok state? =>
    cases state? with
    | none =>
      -- no exchange is made, so neither form has anything to report
      have hunmade (l : Option Listener) :
          (d.step (.initiate seconds p stage l)).1.table.made ≤ n :=
        Nat.le_of_eq (d.made_initiate_of_unkept seconds l hstate)
      obtain ⟨harrived, _⟩ := unmade_after (hd.step _) (hunmade none) hstarts
      obtain ⟨_, htold⟩ := unmade_after (hd.step _) (hunmade (some l)) hstarts
      refine ⟨[], by rw [hqueued, harrived]; rfl, ?_⟩
      rw [show told = [] from htold]
      simp
    | some st =>
      -- the two exchanges start in the same state and accept the same
      obtain ⟨hx, _⟩ := started hd hc hstate hok
      obtain ⟨hx', _⟩ := started hd hc hstate (hanswer.trans hok)
      obtain ⟨harrived, _⟩ := waited_after (hd.step _) (hc.step hd _) hx rfl hinterrupts
      obtain ⟨htold, hl⟩ := told_eq_accepted (hd.step _) hx' rfl hinterrupts
      exact ⟨st.accepted id ops, hqueued.trans harrived, htold, hl,
        fun m => ReplyState.isError_of_accepted⟩

/-- An Invoke in both forms: it is acknowledged, an error that belongs to another one comes in, and
    then a response that is flagged as an error but has the body of a success. -/
theorem forms_agree_invoke :
    let l := Listener.interaction "l"
    let ack : Message :=
      { header := { uriFrom := "p", uriTo := "c", pattern := .invoke, stage := some 2,
                    timestamp := 0, transaction := some 1 } }
    let response : Message :=
      { header := { ack.header with stage := some 3, isError := true }, body := .updates [] }
    let ops : List Op :=
      [.receive ack, .fail 0 { ack.header with transaction := some 7 } (.internal "lost"),
       .receive response, .receive response]
    let d := new ⟨0, 0, 0⟩ 1000
    let waiting := (d.step (.initiate 0 .invoke (some 1) none)).1
    let told := (d.step (.initiate 0 .invoke (some 1) (some l))).1.told 0 ops
    let unknown : StandardError :=
      .withInfo StandardError.unknown "error message with update-list body"
    ((waiting.after ops).table.mailbox 0).map Delivery.outcome =
        [.ok ack, .error (.standard unknown)] ∧
      told.map (fun e => e.2.outcome.result) = [.ok ack, .error unknown] := by
  intro l ack response ops d waiting told unknown
  have hops : ∀ op ∈ ops, op.starts = false ∧ op.interrupts 1 0 = false := by
    simp [ops, Op.starts, Op.interrupts]
  obtain ⟨_, hagree⟩ := forms_agree ⟨0, 0, 0⟩ 1000 [] ops 0 .invoke (some 1) l
  obtain ⟨htold, _⟩ := hagree 1 rfl hops
  have hqueued : ((waiting.after ops).table.mailbox 0).map Delivery.outcome =
      [.ok ack, .error (.standard unknown)] := by decide +kernel
  have hreturned : waiting.returned 0 ops = [] := rfl
  have hall : waiting.returned 0 ops ++
      ((waiting.after ops).table.mailbox 0).map Delivery.outcome =
        [.ok ack, .error (.standard unknown)] := by rw [hreturned, hqueued, List.nil_append]
  exact ⟨hqueued, htold.trans (congrArg (List.map (Except.mapError Failure.standardError)) hall)⟩

end Desk

end Mal
