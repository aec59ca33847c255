import Mal.Proofs.Correlation.Mailbox

/-!
# What is in the table

Four things are kept in step by different operations: whether an exchange is in the table, the state
that follows its replies, what waits in its mailbox, and the mark of the last delivery.
`Desk.Coherent` says how they belong together, at every moment of every run:

* a listened exchange is not over, since it leaves the table with its last outcome
* a waited exchange stays until its last outcome is collected, and it is over exactly when the last
  delivery in its mailbox is marked as the last (`Tallies`)
* the state of an exchange is one of its own pattern (`ReplyState.OfPattern`)

## Key results

- `pending_step`: where an exchange that is pending after an operation comes from
- `Coherent.after`: the table is coherent at every moment
- `coherent_and_kept`: and starting an interaction replaces nothing in it
-/

namespace Mal

/-! ## States and patterns -/

namespace ReplyState

/-- The states that an interaction of a pattern goes through, from its start to its end. -/
inductive OfPattern : Pattern → ReplyState → Prop where
  | submit (received : Bool) : OfPattern .submit (.single Stage.submitAck received)
  | request (received : Bool) : OfPattern .request (.single Stage.requestResponse received)
  | invoke (phase : Phase) : OfPattern .invoke (.invoke phase)
  | progress (phase : Phase) : OfPattern .progress (.progress phase)
  | register (received : Bool) : OfPattern .pubSub (.single Stage.registerAck received)
  | deregister (received : Bool) : OfPattern .pubSub (.single Stage.deregisterAck received)
  | publishRegister (received : Bool) :
      OfPattern .pubSub (.publish Stage.publishRegisterAck received)
  | publishDeregister (received : Bool) :
      OfPattern .pubSub (.publish Stage.publishDeregisterAck received)

variable {p : Pattern} {st next : ReplyState}

/-- An interaction under way is in a state of its pattern. -/
private theorem UnderWay.ofPattern {s : Stage} (h : UnderWay p s st) : OfPattern p st := by
  cases h <;> constructor

/-- A reply changes how far an interaction has come, not what it will have come to in the end. -/
private theorem ended_of_accept {stage : Stage} {e : Bool} (h : st.accept stage e = .ok next) :
    next.ended = st.ended := by
  unfold accept at h
  split at h
  -- these states are over and take nothing
  case h_5 | h_8 => cases h
  case h_7 =>
    -- an acknowledged Progress takes updates and the response
    split at h
    · cases h; rfl
    · split at h
      · cases h; rfl
      · cases h
  all_goals
    -- in the other states one stage is accepted
    split at h
    · cases h <;> rfl
    · cases h <;> rfl

/-- Which pattern a state is of does not depend on how far the interaction has come. -/
private theorem ofPattern_ended_iff : OfPattern p st.ended ↔ OfPattern p st := by
  constructor
  · intro h
    cases st <;> cases h <;> constructor
  · intro h
    cases h <;> constructor

/-- A reply leads from a state of a pattern to another one of it. -/
private theorem OfPattern.receive (h : OfPattern p st) {header : Header}
    (hr : st.receive header = .ok next) : OfPattern p next := by
  rw [← ofPattern_ended_iff, ended_of_accept (receive_eq_ok_iff.1 hr)]
  exact ofPattern_ended_iff.2 h

/-- Whoever accepts a reply was not over. -/
theorem isFinished_of_receive {header : Header} (hr : st.receive header = .ok next) :
    st.isFinished = false := by
  rw [← Bool.not_eq_true]
  intro hover
  obtain ⟨reason, hrefused⟩ := accept_of_isFinished hover header.mark.1 header.mark.2
  rw [receive_eq_ok_iff, hrefused] at hr
  cases hr

end ReplyState

/-! ## States and mailboxes -/

/-- A mailbox tallies with a state: at most the last delivery in it is marked as the last of its
    exchange, and it is exactly when the exchange is over. -/
structure Tallies (st : ReplyState) (box : List Delivery) : Prop where
  unmarked : ∀ d ∈ box.dropLast, d.terminal = false
  finished_iff : st.isFinished = true ↔ ∃ d, box.getLast? = some d ∧ d.terminal = true

namespace Tallies

variable {st next : ReplyState} {box : List Delivery}

/-- An exchange that nothing has arrived for, or all has been taken of, is not over. -/
private theorem nil (h : st.isFinished = false) : Tallies st [] where
  unmarked := by simp
  finished_iff := by simp [h]

/-- No delivery is marked before the exchange is over. -/
private theorem unmarked_of_open (h : Tallies st box) (hopen : st.isFinished = false) :
    ∀ d ∈ box, d.terminal = false := by
  intro d hmem
  -- the last delivery would have ended the exchange
  have hlast : ∀ e, box.getLast? = some e → e.terminal = false := by
    intro e he
    rw [← Bool.not_eq_true]
    intro hterminal
    rw [h.finished_iff.2 ⟨e, he, hterminal⟩] at hopen
    cases hopen
  rcases List.eq_nil_or_concat box with rfl | ⟨init, last, rfl⟩
  · cases hmem
  · rw [List.concat_eq_append] at h hmem hlast
    -- before the last none is marked, whatever the state
    rcases List.mem_append.1 hmem with hinit | hmem
    · exact h.unmarked d (by simpa using hinit)
    · obtain rfl := List.mem_singleton.1 hmem
      exact hlast d (by simp)

/-- A delivery that is marked as the last exactly when it ends the exchange. -/
private theorem push (h : Tallies st box) (hopen : st.isFinished = false) {d : Delivery}
    (hd : d.terminal = next.isFinished) : Tallies next (box ++ [d]) where
  unmarked := by
    rw [List.dropLast_concat]
    exact h.unmarked_of_open hopen
  finished_iff := by simp [hd]

/-- What is collected and is not the last. -/
private theorem pop {d : Delivery} (h : Tallies st (d :: box)) (hd : d.terminal = false) :
    Tallies st box := by
  cases box with
  -- the last delivery was collected and did not end the exchange
  | nil =>
    refine nil ?_
    rw [← Bool.not_eq_true, h.finished_iff]
    simp [hd]
  | cons e rest =>
    refine ⟨?_, ?_⟩
    · intro f hf
      exact h.unmarked f (List.mem_cons_of_mem _ hf)
    · rw [h.finished_iff, List.getLast?_cons_cons]

end Tallies

namespace Desk

/-! ## Where pending exchanges come from -/

/-- What becomes of the exchange `x` under `id` if it stays pending. -/
inductive Remains (d : Desk) (op : Op) (id : TransactionId) (x : Exchange) : Exchange → Prop where
  /-- Nothing arrives, and what is taken is not the last. -/
  | same (ha : x.listener = none → x.arrival? id op = none)
      (ht : x.listener = none → ∀ dl ∈ d.taking x.serial op, dl.terminal = false) :
      Remains d op id x x
  /-- Something arrives, and it is not the last if there is a listener. -/
  | moved {next : ReplyState} (hopen : x.state.isFinished = false)
      (hshape : ∀ p, x.state.OfPattern p → next.OfPattern p)
      (hl : x.listener ≠ none → next.isFinished = false)
      (ht : d.taking x.serial op = [])
      (ha : x.listener = none →
        ∃ dl, x.arrival? id op = some dl ∧ dl.terminal = next.isFinished) :
      Remains d op id x { x with state := next }

section

variable {d : Desk} {op : Op} {id : TransactionId} {x x' : Exchange}

/-- An operation that leaves an exchange alone. -/
private theorem Remains.of_eq (ha : x.arrival? id op = none) (ht : d.taking x.serial op = []) :
    Remains d op id x x :=
  .same (fun _ => ha) (fun _ dl hmem => by rw [ht] at hmem; cases hmem)

/-- The exchange under one id is the only one that a message under this id is for. -/
private theorem arrival?_receive_of_ne {m : Message} {id' : TransactionId}
    (hid : m.header.transaction = some id') (hne : id' ≠ id) :
    x.arrival? id (.receive m) = none := by
  refine if_neg ?_
  rw [hid, Option.some.injEq]
  exact hne

/-- What is pending after a reply. -/
private theorem pending_receive (m : Message)
    (hx' : (d.table.receive m).1.exchanges.get? id = some x') :
    ∃ x, d.table.exchanges.get? id = some x ∧ Remains d (.receive m) id x x' := by
  have h := d.table.receive_received m
  generalize d.table.receive m = result at h hx'
  cases h with
  -- an exchange under the id would not have been dropped
  | dropped hnone =>
    refine ⟨x', hx', .of_eq (if_neg ?_) rfl⟩
    intro hid
    rw [hnone id hid] at hx'
    cases hx'
  | @refused id₀ x₀ failure hid hx hstate =>
    -- nothing has moved, and nothing arrives where a reply is refused
    refine ⟨x', hx', .of_eq ?_ rfl⟩
    by_cases hne : id₀ = id
    · subst hne
      obtain rfl := Option.some.inj (hx.symm.trans hx')
      simp only [Exchange.arrival?, hstate, ite_self]
    · exact arrival?_receive_of_ne hid hne
  | @posted id₀ x₀ next hid hx hstate hl | @passed id₀ x₀ next l hid hx hstate hl hopen =>
    -- the exchange that the reply is for has moved on, the others are as before
    simp only [Correlator.post_exchanges, Directory.get?_put] at hx'
    split at hx'
    · next heq =>
      subst heq
      cases hx'
      refine ⟨x₀, hx, .moved (ReplyState.isFinished_of_receive hstate)
        (fun p hp => hp.receive hstate) ?_ rfl ?_⟩
      · -- only what is waited for may be over and stay in the table
        intro hnot
        first
          | exact hopen
          | exact absurd hl hnot
      · intro _
        refine ⟨⟨Correlator.waited m, next.isFinished⟩, ?_, rfl⟩
        simp only [Exchange.arrival?, hid, hstate, if_true]
    · next hne => exact ⟨x', hx', .of_eq (arrival?_receive_of_ne hid hne) rfl⟩
  | @completed id₀ x₀ next l hid hx hstate hl hover =>
    -- the exchange that the reply was for has left the table
    simp only [Directory.get?_erase] at hx'
    split at hx'
    · cases hx'
    · next hne => exact ⟨x', hx', .of_eq (arrival?_receive_of_ne hid (Ne.symm hne)) rfl⟩

/-- What is pending after an error. -/
private theorem pending_fail (now : UInt64) (header : Header) (failure : Failure)
    (hx' : (d.table.fail now header failure).1.exchanges.get? id = some x') :
    ∃ x, d.table.exchanges.get? id = some x ∧ Remains d (.fail now header failure) id x x' := by
  have hother {id₀ : TransactionId} (hid : header.transaction = some id₀) (hne : id₀ ≠ id) :
      x'.arrival? id (.fail now header failure) = none := by
    refine if_neg ?_
    rintro ⟨hid', _⟩
    exact hne (Option.some.inj (hid.symm.trans hid'))
  have h := d.table.fail_failed now header failure
  generalize d.table.fail now header failure = result at h hx'
  cases h with
  | dropped hover =>
    refine ⟨x', hx', .of_eq (if_neg ?_) rfl⟩
    -- an exchange that is still open would not have been passed over
    rintro ⟨hid, hopen⟩
    rw [ReplyState.isFinished, hover id x' hid hx'] at hopen
    cases hopen
  | @posted id₀ x₀ stage hid hx hstage hl =>
    simp only [Correlator.post_exchanges, Directory.get?_put] at hx'
    split at hx'
    · next heq =>
      subst heq
      cases hx'
      have hopen := ReplyState.isFinished_of_pendingStage hstage
      refine ⟨x₀, hx, .moved hopen (fun p => ReplyState.ofPattern_ended_iff.2)
        -- an error ends the exchange, and its waiter is still to collect it
        (fun hnot => absurd hl hnot) rfl ?_⟩
      intro _
      refine ⟨⟨.error failure, true⟩, ?_, by simp⟩
      simp only [Exchange.arrival?, hid, hopen, and_self, if_true]
    · next hne => exact ⟨x', hx', .of_eq (hother hid hne) rfl⟩
  | @reported id₀ x₀ stage l hid hx hstage hl =>
    simp only [Directory.get?_erase] at hx'
    split at hx'
    · cases hx'
    · next hne => exact ⟨x', hx', .of_eq (hother hid (Ne.symm hne)) rfl⟩

/-- What is pending after something was collected. The last delivery of an exchange takes the
    exchange off the table, so whatever is taken of one that stays is not its last. -/
private theorem pending_collect (hd : d.Sound) (t : Ticket)
    (hx' : (d.step (.collect t)).1.table.exchanges.get? id = some x') :
    d.table.exchanges.get? id = some x' ∧ Remains d (.collect t) id x' x' := by
  by_cases ht : t ∈ d.tickets
  · -- the mailbox was empty, or its oldest delivery was taken
    rcases d.table.collect_cases t with ⟨hbox, hc⟩ | ⟨dl, rest, c', hbox, hc, _, hexchanges⟩
    · simp only [step, ht, hc, if_true] at hx'
      refine ⟨hx', .of_eq rfl ?_⟩
      simp only [taking]
      split
      · next h => rw [← h.2, hbox]; rfl
      · rfl
    · simp only [step, ht, hc, if_true] at hx'
      cases hterminal : dl.terminal with
      -- what was taken did not end anything, and nothing else has changed
      | false =>
        simp only [hexchanges, hterminal, Bool.false_eq_true, if_false] at hx'
        refine ⟨hx', .same (fun _ => rfl) ?_⟩
        intro _ dl' hmem
        simp only [taking] at hmem
        split at hmem
        · next h =>
          rw [← h.2, hbox] at hmem
          obtain rfl := List.mem_singleton.1 hmem
          exact hterminal
        · cases hmem
      | true =>
        simp only [hexchanges, hterminal, if_true, Correlator.release_get?,
          Option.filter_eq_some_iff] at hx'
        obtain ⟨hx, hkept⟩ := hx'
        refine ⟨hx, .of_eq rfl ?_⟩
        -- the ticket is not for the exchange, or it would be released
        refine if_neg ?_
        rintro ⟨_, hserial⟩
        have hid := (hd.ticket_waited ht hx hserial.symm).1
        simp [hid, hserial] at hkept
  · -- without a ticket nothing is collected
    simp only [step, ht, if_false] at hx'
    exact ⟨hx', .of_eq rfl (if_neg fun h => ht h.1)⟩

/-- An exchange that is pending after an operation is new and under way, or it was pending before
    and remains. -/
theorem pending_step (hd : d.Sound) (op : Op)
    (hx' : (d.step op).1.table.exchanges.get? id = some x') :
    (x'.serial = d.table.made ∧ (d.step op).1.table.made = d.table.made + 1 ∧
        ∃ s, ReplyState.UnderWay x'.pattern s x'.state) ∨
      (∃ x, d.table.exchanges.get? id = some x ∧ Remains d op id x x') := by
  cases op with
  | receive m => exact .inr (pending_receive m hx')
  | fail now header failure => exact .inr (pending_fail now header failure hx')
  | collect t => exact .inr ⟨x', pending_collect hd t hx'⟩
  | shutdown now => cases hx'
  | initiate seconds p stage l =>
    have h := d.table.initiate_initiated seconds p stage l
    simp only [step] at hx' ⊢
    generalize d.table.initiate seconds p stage l = result at h hx' ⊢
    cases h with
    -- what was there before stays
    | refused | unkept => exact .inr ⟨x', hx', .of_eq rfl rfl⟩
    | added a hstate hfree =>
      simp only [Correlator.add_get?] at hx'
      split at hx'
      · cases hx'
        obtain ⟨s, rfl⟩ := ReplyState.exists_stage_of_initial hstate
        exact .inl ⟨rfl, rfl, s, ReplyState.underWay_of_initial hstate⟩
      · exact .inr ⟨x', hx', .of_eq rfl rfl⟩
  | resume p last id₀ l =>
    have h := d.table.resume_resumed p last id₀ l
    simp only [step] at hx' ⊢
    generalize d.table.resume p last id₀ l = result at h hx' ⊢
    cases h with
    | refused => exact .inr ⟨x', hx', .of_eq rfl rfl⟩
    | added hstate hfree =>
      simp only [Correlator.add_get?] at hx'
      split at hx'
      · cases hx'
        exact .inl ⟨rfl, rfl, last, ReplyState.resume_eq_ok_iff.1 hstate⟩
      · exact .inr ⟨x', hx', .of_eq rfl rfl⟩
  | abandon id₀ =>
    simp only [step, Correlator.abandon, Directory.get?_erase] at hx'
    split at hx'
    · cases hx'
    · exact .inr ⟨x', hx', .of_eq rfl rfl⟩
  | await id₀ =>
    refine .inr ⟨x', ?_, .of_eq rfl rfl⟩
    simp only [step] at hx'
    split at hx' <;> exact hx'
  | expire t milliseconds =>
    refine .inr ⟨x', ?_, .of_eq rfl rfl⟩
    simp only [step] at hx'
    -- a wait that has expired may release its exchange, but no other
    split at hx'
    · simp only [Correlator.expire, Correlator.release_get?, Option.filter_eq_some_iff] at hx'
      exact hx'.1
    · exact hx'

end

/-! ## Coherence -/

/-- How the table, the states in it and the mailboxes belong together. -/
structure Coherent (d : Desk) : Prop where
  /-- What has a listener is not over. -/
  listened_open {id : TransactionId} {x : Exchange} :
    d.table.exchanges.get? id = some x → x.listener ≠ none → x.state.isFinished = false
  /-- What has none is over exactly when the last delivery waits to be collected. -/
  waited_tallies {id : TransactionId} {x : Exchange} :
    d.table.exchanges.get? id = some x → x.listener = none →
      Tallies x.state (d.table.mailbox x.serial)
  ofPattern {id : TransactionId} {x : Exchange} :
    d.table.exchanges.get? id = some x → x.state.OfPattern x.pattern
  /-- The mailboxes of exchanges to come are empty. -/
  box_empty {n : Nat} : d.table.made ≤ n → d.table.mailbox n = []

namespace Coherent

/-- A new desk is coherent: there is nothing on it. -/
theorem new (a : Allocator) (patience : UInt64) : (Desk.new a patience).Coherent where
  listened_open h := by cases h
  waited_tallies h := by cases h
  ofPattern h := by cases h
  box_empty _ := rfl

variable {d : Desk}

/-- Nothing arrives for an exchange that is not there yet. -/
theorem step_box_empty (h : d.Coherent) (hd : d.Sound) (op : Op) {n : Nat}
    (hn : d.table.made ≤ n) : (d.step op).1.table.mailbox n = [] := by
  have hstep := mailbox_step hd op n
  rw [h.box_empty hn, List.nil_append] at hstep
  have harriving : d.arriving n op = [] := by
    -- nothing comes in for an exchange that is still to be made
    refine arriving_eq_nil ?_
    intro id x hx heq _
    have hlt := hd.serial_lt hx
    omega
  rw [harriving] at hstep
  exact (List.append_eq_nil_iff.1 hstep).2

/-- Coherence is kept by every operation. -/
theorem step (h : d.Coherent) (hd : d.Sound) (op : Op) : (d.step op).1.Coherent where
  listened_open hx' hl := by
    -- a new exchange is under way, an older one has remained in one of two ways
    rcases pending_step hd op hx' with ⟨_, _, s, hu⟩ | ⟨x, hx, hr⟩
    · exact hu.isFinished
    · cases hr with
      | same => exact h.listened_open hx hl
      | moved _ _ hopen => exact hopen hl
  waited_tallies {id x'} hx' hl := by
    rcases pending_step hd op hx' with ⟨hserial, _, s, hu⟩ | ⟨x, hx, hr⟩
    · rw [h.step_box_empty hd op (Nat.le_of_eq hserial.symm)]
      exact .nil hu.isFinished
    · cases hr with
      -- it took nothing in, and lost at most the delivery that was collected
      | same ha ht =>
        have hstep := mailbox_step hd op x'.serial
        have hbefore := h.waited_tallies hx hl
        rw [hd.arriving_eq hx hl, ha hl, Option.toList_none, List.append_nil] at hstep
        cases htaken : d.taking x'.serial op with
        | nil =>
          rw [htaken, List.nil_append] at hstep
          rw [hstep]
          exact hbefore
        | cons dl rest =>
          obtain rfl := taking_tail htaken
          rw [htaken, List.singleton_append] at hstep
          rw [← hstep] at hbefore
          exact hbefore.pop (ht hl dl (by rw [htaken]; exact .head _))
      -- it took something in, which is put behind what was there
      | moved hopen _ _ ht ha =>
        have hstep := mailbox_step hd op x.serial
        obtain ⟨dl, harrival, hterminal⟩ := ha hl
        rw [hd.arriving_eq hx hl, harrival, ht, List.nil_append] at hstep
        refine hstep ▸ ?_
        exact (h.waited_tallies hx hl).push hopen hterminal
  ofPattern hx' := by
    rcases pending_step hd op hx' with ⟨_, _, s, hu⟩ | ⟨x, hx, hr⟩
    · exact hu.ofPattern
    · cases hr with
      | same => exact h.ofPattern hx
      | moved _ hshape => exact hshape _ (h.ofPattern hx)
  box_empty hn := h.step_box_empty hd op (Nat.le_trans (d.made_le_step op) hn)

/-- The table is coherent at every moment of a run. -/
theorem after (h : d.Coherent) (hd : d.Sound) (ops : List Op) : (d.after ops).Coherent := by
  induction ops generalizing d with
  | nil => exact h
  | cons op ops ih => exact ih (h.step hd op) (hd.step op)

end Coherent

/-- Whether an operation starts an interaction or takes one over. -/
def Op.starts : Op → Bool
  | .initiate .. | .resume .. => true
  | _ => false

/-- What starts an interaction leaves those that are pending where they are. -/
theorem get?_of_starts {d : Desk} {op : Op} (hop : op.starts = true) {id : TransactionId}
    {x : Exchange} (hx : d.table.exchanges.get? id = some x) :
    (d.step op).1.table.exchanges.get? id = some x := by
  -- a new exchange takes a free id, so it is under another one
  have hadd (a : Allocator) {id' : TransactionId} (p : Pattern) (st : ReplyState)
      (l : Option Listener) (hfree : d.table.exchanges.get? id' = none) :
      ({ d.table with allocator := a }.add id' p st l).exchanges.get? id = some x := by
    rw [Correlator.add_get?, if_neg, hx]
    rintro rfl
    rw [hx] at hfree
    cases hfree
  cases op with
  | initiate seconds p stage l =>
    have h := d.table.initiate_initiated seconds p stage l
    simp only [step]
    generalize d.table.initiate seconds p stage l = result at h
    cases h with
    | refused | unkept => exact hx
    | added a _ hfree => exact hadd a _ _ _ hfree
  | resume p last id' l =>
    have h := d.table.resume_resumed p last id' l
    simp only [step]
    generalize d.table.resume p last id' l = result at h
    cases h with
    | refused => exact hx
    | added _ hfree => exact hadd d.table.allocator _ _ _ hfree
  | _ => cases hop

/-- Whatever an instance has done, its table is coherent, and starting an interaction or taking one
    over replaces nothing in it. -/
theorem coherent_and_kept (a : Allocator) (patience : UInt64) (ops : List Op) :
    let d := (new a patience).after ops
    d.Coherent ∧
      ∀ op id x, op.starts = true → d.table.exchanges.get? id = some x →
        (d.step op).1.table.exchanges.get? id = some x := by
  intro d
  refine ⟨(Coherent.new a patience).after (sound_new a patience) ops, ?_⟩
  intro op id x hop hx
  exact get?_of_starts hop hx

/-- An Invoke whose acknowledgement and response both wait to be collected: it is over and still in
    the table, and it stays there when a Submit is started. -/
theorem coherent_and_kept_invoke :
    let ack : Message :=
      { header := { uriFrom := "p", uriTo := "c", pattern := .invoke, stage := some 2,
                    timestamp := 0, transaction := some 1 } }
    let response : Message := { header := { ack.header with stage := some 3 } }
    let d := (new ⟨0, 0, 0⟩ 1000).after
      [.initiate 0 .invoke (some 1) none, .receive ack, .receive response]
    let x : Exchange := ⟨0, .invoke, .invoke .complete, none⟩
    d.table.exchanges.get? 1 = some x ∧
      (d.table.mailbox 0).map Delivery.terminal = [false, true] ∧
      Tallies x.state (d.table.mailbox 0) ∧
      (d.step (.initiate 0 .submit (some 1) none)).1.table.exchanges.get? 1 = some x := by
  intro ack response d x
  have hx : d.table.exchanges.get? 1 = some x := rfl
  obtain ⟨hcoherent, hkept⟩ := coherent_and_kept ⟨0, 0, 0⟩ 1000
    [.initiate 0 .invoke (some 1) none, .receive ack, .receive response]
  refine ⟨hx, rfl, hcoherent.waited_tallies hx rfl, ?_⟩
  exact hkept (.initiate 0 .submit (some 1) none) 1 x rfl hx

end Desk

end Mal
