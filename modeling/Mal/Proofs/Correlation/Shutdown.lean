import Mal.Proofs.Correlation.Mailbox

/-!
# What a shutdown leaves to its waiters

A shutdown ends the exchanges that are not over and takes everything off the table. A mailbox
outlives that: whoever has a ticket still collects what was queued, in order, and then the notice of
the shutdown. But no ticket is given out for the mailbox any more. An initiator that comes back for
the next outcome with nothing but the transaction id is told that nothing is pending, and what the
mailbox holds for it is never read.

## Key results

- `returned_of_not_holds`: what is returned of an exchange that has left the table
- `shutdown_returned`: what is returned of an exchange that was pending at a shutdown
- `shutdown_unread`: an outcome and a notice of the shutdown that are not returned
-/

namespace Mal

/-- What a shutdown says to the waiters of an exchange: nothing, if it is over. -/
def Exchange.closing (x : Exchange) : List (Except Failure Message) :=
  if x.state.isFinished then [] else [.error Correlator.closed]

namespace Desk

/-- Whether an operation goes on with one of these waits, for this mailbox. -/
def Op.collectsFrom (tickets : List Ticket) (n : Nat) : Op → Bool
  | .collect t => decide (t ∈ tickets) && t.serial == n
  | _ => false

section

variable {d : Desk} {n : Nat}

/-! ## After an exchange has left the table -/

/-- Nothing arrives for an exchange that has left the table. -/
theorem arriving_of_not_holds (hgone : ¬ d.Holds n) (op : Op) : d.arriving n op = [] := by
  refine arriving_eq_nil ?_
  intro id x hx heq _
  exact absurd ⟨id, x, hx, heq⟩ hgone

/-- No ticket is given out for an exchange that has left the table. -/
private theorem mem_tickets_of_not_holds (hgone : ¬ d.Holds n) (op : Op) {t : Ticket}
    (ht : t.serial = n) : t ∈ (d.step op).1.tickets ↔ t ∈ d.tickets := by
  have hturn := d.turn op
  generalize d.step op = result at hturn
  cases hturn with
  | added | descended => rfl
  | @awaited id t' ht' =>
    have hne : t ≠ t' := by
      rintro rfl
      obtain ⟨x, hx, _, rfl⟩ := Correlator.await_eq_ok ht'
      exact hgone ⟨id, x, hx, ht⟩
    simp [hne]

/-- Not during a whole run either. -/
private theorem mem_tickets_after (hlt : n < d.table.made) (hgone : ¬ d.Holds n) {t : Ticket}
    (ht : t.serial = n) {ops : List Op} (h : t ∈ (d.after ops).tickets) : t ∈ d.tickets := by
  induction ops generalizing d with
  | nil => exact h
  | cons op ops ih =>
    have hstep := ih (Nat.lt_of_lt_of_le hlt (d.made_le_step op))
      (step_of_not_holds hlt hgone op).1 h
    exact (mem_tickets_of_not_holds hgone op ht).1 hstep

/-- So whoever may collect is settled for good. -/
private theorem collectsFrom_of_not_holds (hgone : ¬ d.Holds n) (op op' : Op) :
    Op.collectsFrom (d.step op).1.tickets n op' = Op.collectsFrom d.tickets n op' := by
  cases op' with
  | collect t =>
    by_cases ht : t.serial = n
    · simp [Op.collectsFrom, mem_tickets_of_not_holds hgone op ht]
    · rw [Op.collectsFrom, Op.collectsFrom, beq_false_of_ne ht, Bool.and_false, Bool.and_false]
  | _ => rfl

/-- What an operation takes is the oldest delivery, if it is such a wait. -/
private theorem taking_eq (d : Desk) (n : Nat) (op : Op) :
    d.taking n op =
      (d.table.mailbox n).take (if Op.collectsFrom d.tickets n op then 1 else 0) := by
  cases op with
  | collect t =>
    by_cases h : t ∈ d.tickets ∧ t.serial = n
    · simp [taking, Op.collectsFrom, h, List.take_one]
    · rw [taking, if_neg h]
      simp_all [Op.collectsFrom]
  | _ => simp [taking, Op.collectsFrom]

/-- Of an exchange that left the table the rest of its mailbox is returned, one delivery for each
    wait that goes on. -/
theorem returned_of_not_holds (hd : d.Sound) (hlt : n < d.table.made) (hgone : ¬ d.Holds n)
    (ops : List Op) :
    d.returned n ops =
      ((d.table.mailbox n).map Delivery.outcome).take
        (ops.countP (Op.collectsFrom d.tickets n)) := by
  induction ops generalizing d with
  | nil => simp [returned]
  | cons op ops ih =>
    have hrest := ih (hd.step op) (Nat.lt_of_lt_of_le hlt (d.made_le_step op))
      (step_of_not_holds hlt hgone op).1
    -- no new ticket is for the mailbox, so the same operations collect from it as before
    have hcount : ops.countP (Op.collectsFrom (d.step op).1.tickets n) =
        ops.countP (Op.collectsFrom d.tickets n) :=
      congrArg (ops.countP ·) (funext (collectsFrom_of_not_holds hgone op))
    have hstep := mailbox_step hd op n
    rw [arriving_of_not_holds hgone, List.append_nil, taking_eq] at hstep
    rw [returned_cons, hrest, hcount, taking_eq, List.countP_cons, Nat.add_comm (ops.countP _)]
    generalize (if Op.collectsFrom d.tickets n op then 1 else 0) = k at hstep ⊢
    -- the mailbox afterwards is what the operation did not take
    have hleft : (d.step op).1.table.mailbox n = (d.table.mailbox n).drop k :=
      List.append_cancel_left (hstep.trans (List.take_append_drop k _).symm)
    rw [hleft, List.take_add, List.map_take, List.map_drop]

/-- A run in two parts. -/
private theorem returned_append (d : Desk) (n : Nat) (ops ops' : List Op) :
    d.returned n (ops ++ ops') = d.returned n ops ++ (d.after ops).returned n ops' := by
  induction ops generalizing d with
  | nil => rfl
  | cons op ops ih => simp [returned, ih]

/-! ## At a shutdown -/

/-- A shutdown leaves nothing on the table. -/
private theorem not_holds_shutdown (d : Desk) (now : UInt64) (n : Nat) :
    ¬ (d.step (.shutdown now)).1.Holds n := by
  rintro ⟨id, x, hx, _⟩
  cases hx

/-- The waiter of an exchange is left what was queued, and the notice of the shutdown. -/
private theorem Sound.mailbox_closed (hd : d.Sound) {id : TransactionId} {x : Exchange}
    (hx : d.table.exchanges.get? id = some x) (hl : x.listener = none) (now : UInt64) :
    ((d.step (.shutdown now)).1.table.mailbox x.serial).map Delivery.outcome =
      (d.table.mailbox x.serial).map Delivery.outcome ++ x.closing := by
  have harrival : (x.arrival? id (.shutdown now)).toList.map Delivery.outcome = x.closing := by
    cases h : x.state.isFinished <;> simp [Exchange.arrival?, Exchange.closing, h]
  rw [← harrival, ← hd.arriving_eq hx hl, ← List.map_append]
  exact congrArg _ (d.mailbox_shutdown now x.serial)

end

/-- What is returned of an exchange that was waited for when the instance closed: all that it had
    accepted, in order, and then the notice of the shutdown, as far as waits go on that had begun
    before. There are no others: its id is not pending any more, and no ticket that is given out
    later is for its mailbox. The notice is the standard error with the number for a shutdown. -/
theorem shutdown_returned (a : Allocator) (patience : UInt64) (before later : List Op)
    (now : UInt64) {id : TransactionId} {x : Exchange} :
    let start := new a patience
    let d := start.after before
    let closed := (d.step (.shutdown now)).1
    d.table.exchanges.get? id = some x → x.listener = none →
      start.returned x.serial (before ++ .shutdown now :: later) =
          ((start.arrived x.serial before).map Delivery.outcome ++ x.closing).take
            ((start.returned x.serial before).length +
              later.countP (Op.collectsFrom d.tickets x.serial)) ∧
        (closed.step (.await id)).2 = .awaited (.error (.disorder .notPending (some id) none)) ∧
        (∀ t ∈ (closed.after later).tickets, t.serial = x.serial → t ∈ d.tickets) ∧
        ∃ info, Correlator.closed = .standard ⟨StandardError.shutdown, info⟩ := by
  intro start d closed hx hl
  -- the shutdown takes the exchange off the table, and nothing brings it back
  have hd : d.Sound := (sound_new a patience).after before
  have hclosed : closed.Sound := hd.step _
  have hlt : x.serial < closed.table.made :=
    Nat.lt_of_lt_of_le (hd.serial_lt hx) (d.made_le_step _)
  have hgone : ¬ closed.Holds x.serial := d.not_holds_shutdown now x.serial
  refine ⟨?_, rfl, ?_, Correlator.exists_closed_eq⟩
  · -- what was queued before comes first
    have hqueued : start.returned x.serial before ++
        (d.table.mailbox x.serial).map Delivery.outcome =
          (start.arrived x.serial before).map Delivery.outcome :=
      returned_append_mailbox (sound_new a patience) x.serial before
    -- then comes what the mailbox holds after the shutdown, one delivery for each collection
    have hlater := returned_of_not_holds hclosed hlt hgone later
    rw [hd.mailbox_closed hx hl now] at hlater
    rw [returned_append, returned_cons, ← hqueued, List.append_assoc, List.take_length_add_append]
    exact congrArg _ hlater
  · intro t ht hserial
    exact mem_tickets_after hlt hgone hserial ht

/-- An Invoke with a wait that began before the instance closed: the wait gives the acknowledgement,
    and when it goes on, the notice of the shutdown. -/
theorem shutdown_returned_invoke :
    let ack : Message :=
      { header := { uriFrom := "p", uriTo := "c", pattern := .invoke, stage := some 2,
                    timestamp := 0, transaction := some 1 } }
    let before : List Op := [.initiate 0 .invoke (some 1) none, .await 1, .receive ack]
    let later : List Op := [.collect ⟨1, 0⟩, .collect ⟨1, 0⟩, .collect ⟨1, 0⟩]
    let start := new ⟨0, 0, 0⟩ 1000
    let x : Exchange := ⟨0, .invoke, .invoke .acknowledged, none⟩
    let notice : Failure := .standard ⟨StandardError.shutdown, some "MAL instance closed"⟩
    (start.after before).table.exchanges.get? 1 = some x ∧
      start.returned 0 (before ++ .shutdown 5 :: later) = [.ok ack, .error notice] := by
  intro ack before later start x notice
  have hx : (start.after before).table.exchanges.get? 1 = some x := rfl
  obtain ⟨hreturned, _⟩ := shutdown_returned ⟨0, 0, 0⟩ 1000 before later 5 hx rfl
  exact ⟨hx, hreturned⟩

/-- An Invoke whose initiator has collected the acknowledgement when the instance closes. Coming
    back for the response it is told that nothing is pending, while the notice of the shutdown, or
    the response itself if it came in time, lies in the mailbox. -/
theorem shutdown_unread :
    let ack : Message :=
      { header := { uriFrom := "p", uriTo := "c", pattern := .invoke, stage := some 2,
                    timestamp := 0, transaction := some 1 } }
    let response : Message := { header := { ack.header with stage := some 3 } }
    let waiting := (new ⟨0, 0, 0⟩ 1000).after
      [.initiate 0 .invoke (some 1) none, .receive ack, .await 1, .collect ⟨1, 0⟩]
    let closed := waiting.after [.shutdown 5]
    let closedLate := waiting.after [.receive response, .shutdown 5]
    let refused : Answer := .awaited (.error (.disorder .notPending (some 1) none))
    let notice : Failure := .standard ⟨StandardError.shutdown, some "MAL instance closed"⟩
    waiting.table.exchanges.get? 1 = some ⟨0, .invoke, .invoke .acknowledged, none⟩ ∧
      (closed.table.mailbox 0).map Delivery.outcome = [.error notice] ∧
      (closed.step (.await 1)).2 = refused ∧
      (closedLate.table.mailbox 0).map Delivery.outcome = [.ok response] ∧
      (closedLate.step (.await 1)).2 = refused :=
  ⟨rfl, rfl, rfl, rfl, rfl⟩

end Desk

end Mal
