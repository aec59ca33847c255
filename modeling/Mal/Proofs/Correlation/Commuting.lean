import Mal.Proofs.Correlation.Mailbox

/-!
# Replies of different transactions commute

A reply, or an error, is handled by the exchange that is pending under its transaction id, and by
nothing else of the table: `Op.handling` says what becomes of that exchange, `Correlator.settle`
writes it down, and `step_of_pending` that this is all that happens. So two of them that carry
different ids may change places: one of them writes under one key and into one mailbox, the other
under another key and into another mailbox, since serial numbers tell exchanges apart.

Which one came first can only be seen in the order in which mailboxes were made. Desks that differ
in nothing else are `Alike`, and no run tells them apart.

## Key results

- `step_of_absent`, `step_of_pending`: all that a reply or an error does
- `Sound.swap`: two neighbours with different ids may change places
- `Alike.run`: alike desks give the same answers for good
- `handling_commutes`: all this at every desk that an instance comes to
-/

namespace Mal

/-! ## Writing under a present key -/

namespace Directory

variable {κ α : Type} [DecidableEq κ]

/-- Puts a value under a key, or erases what is there. -/
def write (d : Directory κ α) (k : κ) : Option α → Directory κ α
  | some v => d.put k v
  | none => d.erase k

private theorem get?_write (d : Directory κ α) (k x : κ) (v? : Option α) :
    (d.write k v?).get? x = if x = k then v? else d.get? x := by
  cases v? with
  | none => exact get?_erase ..
  | some v =>
    rw [write, get?_put]
    simp only [eq_comm]

private theorem contains_write_of_ne (d : Directory κ α) {k x : κ} (hne : x ≠ k) (v? : Option α) :
    (d.write k v?).contains x = d.contains x := by
  rw [contains, get?_write, if_neg hne, contains]

/-- Storing under a key that is present goes through the list and replaces. -/
private theorem store_eq_map {k : κ} {v : α} {l : List (κ × α)} (h : (l.map Prod.fst).Nodup)
    (hk : k ∈ l.map Prod.fst) : store k v l = l.map fun e => if e.1 = k then (k, v) else e := by
  induction l with
  | nil => cases hk
  | cons e rest ih =>
    obtain ⟨k', v'⟩ := e
    simp only [List.map_cons, List.nodup_cons] at h
    by_cases heq : k' = k
    · -- the key does not occur a second time
      have hrest : ∀ e ∈ rest, (if e.1 = k then (k, v) else e) = e := by
        intro e hmem
        apply if_neg
        intro he
        apply h.1
        rw [heq, ← he]
        exact List.mem_map_of_mem hmem
      simp only [store, heq, if_true, List.map_cons]
      rw [List.map_congr_left hrest, List.map_id']
    · -- the first entry is another one, so the key is in the rest
      have hk' : k ∈ rest.map Prod.fst := by
        cases hk with
        | head => exact absurd rfl heq
        | tail _ hmem => exact hmem
      simp only [store, if_neg heq, List.map_cons, ih h.2 hk']

/-- Writing under a key that is present rewrites its entry, or leaves it out. -/
private theorem entries_write {d : Directory κ α} {k : κ} (hk : d.contains k = true)
    (v? : Option α) :
    (d.write k v?).entries =
      d.entries.filterMap fun e => if e.1 = k then v?.map (Prod.mk k) else some e := by
  cases v? with
  -- erasing keeps the other entries in their order
  | none =>
    show d.entries.filter (fun e => !decide (e.1 = k)) = _
    rw [← List.filterMap_eq_filter]
    congr 1
    funext e
    by_cases he : e.1 = k
    · simp [Option.guard, he]
    · simp [Option.guard, he]
  | some v =>
    -- storing replaces the entry where it stands
    have hmem : k ∈ d.entries.map Prod.fst := (contains_iff_mem_keys d k).mp hk
    show store k v d.entries = _
    rw [store_eq_map d.nodup hmem, ← List.filterMap_eq_map]
    congr 1
    funext e
    by_cases he : e.1 = k
    · simp [he]
    · simp [he]

/-- Under different keys that are present, writes may change places. -/
private theorem write_comm {d : Directory κ α} {k k' : κ} (hne : k ≠ k') (hk : d.contains k = true)
    (hk' : d.contains k' = true) (v? w? : Option α) :
    (d.write k v?).write k' w? = (d.write k' w?).write k v? := by
  -- each key is still present after the write under the other
  have hk₂ : (d.write k' w?).contains k = true := by
    rw [contains_write_of_ne d hne]
    exact hk
  have hk'₂ : (d.write k v?).contains k' = true := by
    rw [contains_write_of_ne d hne.symm]
    exact hk'
  apply eq_of_entries
  rw [entries_write hk'₂, entries_write hk, entries_write hk₂, entries_write hk',
    List.filterMap_filterMap, List.filterMap_filterMap]
  congr 1
  funext e
  -- an entry with one of the keys is written once, any other stays
  by_cases he : e.1 = k
  · have he' : e.1 ≠ k' := fun h => hne (he.symm.trans h)
    cases v? <;> simp [he, hne]
  · by_cases he' : e.1 = k'
    · cases w? <;> simp [he', hne.symm]
    · simp [he, he']

end Directory

/-! ## What becomes of one exchange -/

/-- What becomes of a pending interaction when a reply or an error is there for it. -/
structure Handling where
  /-- The exchange as it stays in the table, if it stays. -/
  kept : Option Exchange
  /-- What goes into its mailbox. -/
  delivery : Option Delivery := none
  answer : Desk.Answer

/-- Writes down what becomes of the exchange `x` under an id. -/
def Correlator.settle (c : Correlator) (id : TransactionId) (x : Exchange) (h : Handling) :
    Correlator :=
  let c := { c with exchanges := c.exchanges.write id h.kept }
  match h.delivery with
  | none => c
  | some d => c.post x.serial d

namespace Correlator

variable (c : Correlator) (id : TransactionId) (x : Exchange) (h : Handling)

@[simp] theorem settle_exchanges : (c.settle id x h).exchanges = c.exchanges.write id h.kept := by
  unfold settle
  split <;> rfl

@[simp] theorem settle_allocator : (c.settle id x h).allocator = c.allocator := by
  unfold settle
  split <;> rfl

@[simp] theorem settle_made : (c.settle id x h).made = c.made := by
  unfold settle
  split <;> rfl

@[simp] theorem settle_patience : (c.settle id x h).patience = c.patience := by
  unfold settle
  split <;> rfl

@[simp] theorem settle_mailbox (n : Nat) :
    (c.settle id x h).mailbox n =
      c.mailbox n ++ if x.serial = n then h.delivery.toList else [] := by
  unfold settle
  split
  · next hnone => simp [hnone, mailbox]
  · next d hsome =>
    rw [mailbox_post, hsome]
    by_cases hn : x.serial = n
    · simp [hn, mailbox]
    · simp [hn, mailbox]

/-- Mailboxes play no part in starting an interaction. -/
private theorem initiate_mailboxes (boxes : Directory Nat (List Delivery)) (seconds : UInt64)
    (p : Pattern) (stage : Option Stage) (l : Option Listener) :
    initiate { c with mailboxes := boxes } seconds p stage l =
      ({ (c.initiate seconds p stage l).1 with mailboxes := boxes },
        (c.initiate seconds p stage l).2) := by
  -- an id is in use or not by the exchanges, not by the mailboxes
  have hnext : ({ c with mailboxes := boxes } : Correlator).contains = c.contains := rfl
  unfold initiate
  rw [hnext]
  cases ReplyState.initial p stage with
  | error failure => rfl
  | ok state? =>
    cases c.allocator.next (fun _ => seconds) c.contains with
    | none => rfl
    | some found => cases state? <;> rfl

/-- A shutdown does not change how long a wait lasts. -/
private theorem shutdown_patience (now : UInt64) : (c.shutdown now).1.patience = c.patience := by
  have hposts : ∀ (l : List (TransactionId × Exchange × Stage)) (c : Correlator),
      (l.foldl (fun c (_, x, _) => c.post x.serial ⟨.error closed, true⟩) c).patience =
        c.patience := by
    intro l
    induction l with
    | nil => exact fun _ => rfl
    | cons e rest ih => exact fun c => ih _
  exact hposts _ c

/-- The correlator after the oldest delivery was taken out of a mailbox, where `rest` is left. -/
def drawn (t : Ticket) (terminal : Bool) (rest : List Delivery) : Correlator :=
  let c := { c with mailboxes := c.mailboxes.put t.serial rest }
  if terminal then c.release t else c

end Correlator

namespace Desk

/-- The transaction id that a reply or an error carries. -/
def Op.handles? : Op → Option (Option TransactionId)
  | .receive m => some m.header.transaction
  | .fail _ header _ => some header.transaction
  | _ => none

/-- The answer to a reply or an error that nothing is pending for. -/
def Op.unheard : Op → Answer
  | .receive _ => .received (.ok none)
  | _ => .failed none

/-- What a reply or an error makes of the exchange that is pending under its id. -/
def Op.handling (id : TransactionId) (x : Exchange) : Op → Handling
  | .receive m =>
    match x.state.receive m.header, x.listener with
    | .error failure, _ => { kept := some x, answer := .received (.error failure) }
    | .ok state, none =>
      { kept := some { x with state := state }
        delivery := some ⟨Correlator.waited m, state.isFinished⟩
        answer := .received (.ok none) }
    | .ok state, some listener =>
      { kept := if state.isFinished then none else some { x with state := state }
        answer := .received (.ok (some ⟨x.serial, listener, .ofMessage m⟩)) }
  | .fail now header failure =>
    match x.state.fail, x.listener with
    | none, _ => { kept := some x, answer := .failed none }
    | some (_, state), none =>
      { kept := some { x with state := state }
        delivery := some ⟨.error failure, true⟩
        answer := .failed none }
    | some (stage, _), some _ =>
      { kept := none
        answer := .failed (Correlator.errorReport now id x stage (some header) failure) }
  | op => { kept := some x, answer := op.unheard }

variable {d d' : Desk} {op op' : Op} {i i' : Option TransactionId} {id : TransactionId}
  {x : Exchange} {n : Nat}

/-- Nothing happens if nothing is pending under the id. -/
theorem step_of_absent (h : op.handles? = some i)
    (habsent : ∀ id, i = some id → d.table.exchanges.get? id = none) :
    d.step op = (d, op.unheard) := by
  cases op with
  -- the two ways to find nothing: no id, or no exchange under it
  | receive m =>
    cases h
    cases hid : m.header.transaction with
    | none => simp only [step, Correlator.receive, hid, Op.unheard]
    | some id => simp only [step, Correlator.receive, hid, habsent id hid, Op.unheard]
  | fail now header failure =>
    cases h
    cases hid : header.transaction with
    | none => simp only [step, Correlator.fail, hid, Op.unheard]
    | some id => simp only [step, Correlator.fail, hid, habsent id hid, Op.unheard]
  | _ => cases h

/-- Otherwise what becomes of the pending exchange is written down, and this is all. -/
theorem step_of_pending (h : op.handles? = some (some id))
    (hx : d.table.exchanges.get? id = some x) :
    d.step op =
      ({ d with table := d.table.settle id x (op.handling id x) },
        (op.handling id x).answer) := by
  -- to write an exchange where it already is changes nothing
  have hsame : d.table.exchanges.write id (some x) = d.table.exchanges :=
    Directory.put_of_get?_eq_some hx
  cases op with
  | receive m =>
    have hid : m.header.transaction = some id := Option.some.inj h
    -- refused, or accepted for a waiter or for a listener, which hears of the last reply
    -- differently
    cases hstate : x.state.receive m.header with
    | error failure =>
      simp only [step, Correlator.receive, hid, hx, hstate, Op.handling, Correlator.settle, hsame]
    | ok state =>
      cases hl : x.listener with
      | none =>
        simp only [step, Correlator.receive, hid, hx, hstate, hl, Op.handling, Correlator.settle,
          Directory.write]
        rfl
      | some l =>
        cases hover : state.isFinished <;>
          simp [step, Correlator.receive, hid, hx, hstate, hl, hover, Op.handling,
            Correlator.settle, Directory.write]
  | fail now header failure =>
    have hid : header.transaction = some id := Option.some.inj h
    cases hstate : x.state.fail with
    | none =>
      simp only [step, Correlator.fail, hid, hx, hstate, Op.handling, Correlator.settle, hsame]
    | some pair =>
      obtain ⟨stage, state⟩ := pair
      cases hl : x.listener <;>
        simp only [step, Correlator.fail, hid, hx, hstate, hl, Op.handling, Correlator.settle,
          Directory.write]
  | _ => cases h

/-- Under the id that is carried, either nothing is pending or one exchange is. -/
private theorem absent_or_pending (d : Desk) (i : Option TransactionId) :
    (∀ id, i = some id → d.table.exchanges.get? id = none) ∨
      ∃ id x, i = some id ∧ d.table.exchanges.get? id = some x := by
  cases i with
  | none =>
    left
    intro id h
    cases h
  | some id =>
    cases hx : d.table.exchanges.get? id with
    | none =>
      left
      intro id' h
      cases h
      exact hx
    | some x => exact .inr ⟨id, x, rfl, hx⟩

/-- Under another id nothing changes. -/
theorem get?_step_of_handles (h : op.handles? = some i) (hne : some id ≠ i) :
    (d.step op).1.table.exchanges.get? id = d.table.exchanges.get? id := by
  obtain habsent | ⟨id', x, rfl, hx⟩ := d.absent_or_pending i
  · rw [step_of_absent h habsent]
  · have hid : id ≠ id' := fun heq => hne (congrArg some heq)
    rw [step_of_pending h hx, Correlator.settle_exchanges, Directory.get?_write, if_neg hid]

/-- Where nothing is pending, nothing is told. -/
private theorem reports_unheard (op : Op) : op.unheard.reports = [] := by
  cases op <;> rfl

/-- What is told of a reply or an error is told of the exchange under its id. -/
private theorem reportsOn_handling (op : Op) (hn : x.serial ≠ n) :
    (op.handling id x).answer.reportsOn n = [] := by
  -- a report has the serial number of the exchange that it is about
  have hserial : ∀ r ∈ (op.handling id x).answer.reports, r.serial = x.serial := by
    intro r hr
    cases op with
    | receive m =>
      simp only [Op.handling] at hr
      split at hr
      · cases hr
      · cases hr
      · cases hr with
        | head => rfl
        | tail _ hrest => cases hrest
    | fail now header failure =>
      simp only [Op.handling] at hr
      split at hr
      · cases hr
      · cases hr
      · obtain ⟨l, _, rfl⟩ := Option.map_eq_some_iff.mp (Option.mem_toList.mp hr)
        rfl
    | _ => cases hr
  apply List.filter_eq_nil_iff.mpr
  intro r hr heq
  exact hn ((hserial r hr).symm.trans (eq_of_beq heq))

/-- What is collected is the oldest delivery. -/
private theorem step_collect (d : Desk) (t : Ticket) :
    d.step (.collect t) =
      if t ∈ d.tickets then
        match d.table.mailbox t.serial with
        | [] => (d, .collected none)
        | dl :: rest =>
          ({ d with table := d.table.drawn t dl.terminal rest }, .collected (some dl.outcome))
      else (d, .collected none) := by
  simp only [step, Correlator.collect]
  split
  · cases d.table.mailbox t.serial <;> rfl
  · rfl

/-! ## Desks that cannot be told apart -/

/-- Desks that differ at most in the order in which their mailboxes were made. -/
structure Alike (d d' : Desk) : Prop where
  exchanges : d.table.exchanges = d'.table.exchanges
  allocator : d.table.allocator = d'.table.allocator
  made : d.table.made = d'.table.made
  patience : d.table.patience = d'.table.patience
  mailbox (serial : Nat) : d.table.mailbox serial = d'.table.mailbox serial
  tickets : d.tickets = d'.tickets

/-- The desk with other mailboxes. -/
def reboxed (d : Desk) (boxes : Directory Nat (List Delivery)) : Desk :=
  { d with table := { d.table with mailboxes := boxes } }

namespace Alike

private theorem refl (d : Desk) : d.Alike d := ⟨rfl, rfl, rfl, rfl, fun _ => rfl, rfl⟩

/-- An operation that looks at no mailbox and fills none answers the same, and leaves the desks
    alike. -/
private theorem step_of_quiet (h : d.Alike d')
    (hquiet : ∀ boxes, (d.reboxed boxes).step op = ((d.step op).1.reboxed boxes, (d.step op).2)) :
    (d.step op).2 = (d'.step op).2 ∧ (d.step op).1.Alike (d'.step op).1 := by
  -- desks that are alike differ in their mailboxes only
  have hd' : d' = d.reboxed d'.table.mailboxes := by
    obtain ⟨⟨_, _, _, _, _⟩, _⟩ := d
    obtain ⟨⟨_, _, _, _, _⟩, _⟩ := d'
    obtain ⟨rfl, rfl, rfl, rfl, _, rfl⟩ := h
    rfl
  have hself : d.step op = ((d.step op).1.reboxed d.table.mailboxes, (d.step op).2) :=
    hquiet d.table.mailboxes
  rw [hd', hquiet]
  refine ⟨rfl, ?_⟩
  rw [congrArg Prod.fst hself]
  exact ⟨rfl, rfl, rfl, rfl, h.mailbox, rfl⟩

/-- A reply or an error is handled alike. -/
private theorem step_of_handles (h : d.Alike d') (hop : op.handles? = some i) :
    (d.step op).2 = (d'.step op).2 ∧ (d.step op).1.Alike (d'.step op).1 := by
  -- both find the same exchange, since the exchanges are the same
  obtain habsent | ⟨id, x, rfl, hx⟩ := d.absent_or_pending i
  · have habsent' := habsent
    rw [h.exchanges] at habsent'
    rw [step_of_absent hop habsent, step_of_absent hop habsent']
    exact ⟨rfl, h⟩
  · have hx' := hx
    rw [h.exchanges] at hx'
    rw [step_of_pending hop hx, step_of_pending hop hx']
    refine ⟨rfl, ?_⟩
    constructor
    · rw [Correlator.settle_exchanges, Correlator.settle_exchanges, h.exchanges]
    · rw [Correlator.settle_allocator, Correlator.settle_allocator, h.allocator]
    · rw [Correlator.settle_made, Correlator.settle_made, h.made]
    · rw [Correlator.settle_patience, Correlator.settle_patience, h.patience]
    · intro n
      rw [Correlator.settle_mailbox, Correlator.settle_mailbox, h.mailbox]
    · exact h.tickets

/-- A shutdown reports the same and fills the same mailboxes. -/
private theorem step_shutdown (h : d.Alike d') (now : UInt64) :
    (d.step (.shutdown now)).2 = (d'.step (.shutdown now)).2 ∧
      (d.step (.shutdown now)).1.Alike (d'.step (.shutdown now)).1 := by
  -- it reports from the exchanges, which are the same
  constructor
  · show Answer.closed (d.table.shutdown now).2 = .closed (d'.table.shutdown now).2
    rw [Correlator.shutdown_reports, Correlator.shutdown_reports, h.exchanges]
  constructor
  · rfl
  · show (d.table.shutdown now).1.allocator = (d'.table.shutdown now).1.allocator
    rw [Correlator.shutdown_allocator, Correlator.shutdown_allocator, h.allocator]
  · show (d.table.shutdown now).1.made = (d'.table.shutdown now).1.made
    rw [Correlator.shutdown_made, Correlator.shutdown_made, h.made]
  · show (d.table.shutdown now).1.patience = (d'.table.shutdown now).1.patience
    rw [Correlator.shutdown_patience, Correlator.shutdown_patience, h.patience]
  · intro n
    show (d.table.shutdown now).1.mailbox n = (d'.table.shutdown now).1.mailbox n
    rw [mailbox_shutdown, mailbox_shutdown, h.mailbox, arriving, arriving, h.exchanges]
  · exact h.tickets

/-- Taking the same delivery out of the same mailbox leaves the desks alike. -/
private theorem drawn (h : d.Alike d') (t : Ticket) (terminal : Bool) (rest : List Delivery) :
    Alike { d with table := d.table.drawn t terminal rest }
      { d' with table := d'.table.drawn t terminal rest } := by
  have hput (n : Nat) : ((d.table.mailboxes.put t.serial rest).get? n).getD [] =
      ((d'.table.mailboxes.put t.serial rest).get? n).getD [] := by
    rw [Directory.get?_put, Directory.get?_put]
    split
    · rfl
    · exact h.mailbox n
  -- only the last delivery touches an exchange
  cases terminal with
  | false => exact ⟨h.exchanges, h.allocator, h.made, h.patience, hput, h.tickets⟩
  | true =>
    have hreleased : (d.table.release t).exchanges = (d'.table.release t).exchanges := by
      unfold Correlator.release
      rw [h.exchanges]
    exact ⟨hreleased, h.allocator, h.made, h.patience, hput, h.tickets⟩

/-- The same is collected. -/
private theorem step_collect (h : d.Alike d') (t : Ticket) :
    (d.step (.collect t)).2 = (d'.step (.collect t)).2 ∧
      (d.step (.collect t)).1.Alike (d'.step (.collect t)).1 := by
  rw [Desk.step_collect, Desk.step_collect, ← h.tickets, ← h.mailbox]
  -- the same tickets are out, and the same is in the mailbox
  split
  · split
    · exact ⟨rfl, h⟩
    · next dl rest _ =>
      have hdrawn := h.drawn t dl.terminal rest
      rw [← h.tickets] at hdrawn
      exact ⟨rfl, hdrawn⟩
  · exact ⟨rfl, h⟩

/-- The same waits expire. -/
private theorem step_expire (h : d.Alike d') (t : Ticket) (milliseconds : UInt64) :
    (d.step (.expire t milliseconds)).2 = (d'.step (.expire t milliseconds)).2 ∧
      (d.step (.expire t milliseconds)).1.Alike (d'.step (.expire t milliseconds)).1 := by
  simp only [Desk.step, ← h.tickets, ← h.mailbox]
  split
  · refine ⟨rfl, ?_, h.allocator, h.made, h.patience, h.mailbox, rfl⟩
    show (d.table.release t).exchanges = (d'.table.release t).exchanges
    unfold Correlator.release
    rw [h.exchanges]
  · exact ⟨rfl, h⟩

/-- An operation answers the same on both, and leaves them alike. -/
private theorem step (h : d.Alike d') (op : Op) :
    (d.step op).2 = (d'.step op).2 ∧ (d.step op).1.Alike (d'.step op).1 := by
  cases op with
  | receive m => exact h.step_of_handles rfl
  | fail now header failure => exact h.step_of_handles rfl
  | shutdown now => exact h.step_shutdown now
  | collect t => exact h.step_collect t
  | expire t milliseconds => exact h.step_expire t milliseconds
  -- the operations below do not look at the mailboxes
  | abandon id => exact h.step_of_quiet fun _ => rfl
  | initiate seconds p stage l =>
    apply h.step_of_quiet
    intro boxes
    simp only [Desk.step, reboxed, Correlator.initiate_mailboxes]
  | resume p last id l =>
    apply h.step_of_quiet
    intro boxes
    have hcontains : (d.reboxed boxes).table.contains id = d.table.contains id := rfl
    simp only [Desk.step, Correlator.resume, hcontains]
    split
    · rfl
    · rfl
    · split <;> rfl
  | await id =>
    apply h.step_of_quiet
    intro boxes
    have hawait : (d.reboxed boxes).table.await id = d.table.await id := rfl
    simp only [Desk.step, hawait]
    split <;> rfl

end Alike

/-- The answers of a run. -/
def answers (d : Desk) : List Op → List Answer
  | [] => []
  | op :: ops => (d.step op).2 :: (d.step op).1.answers ops

/-- Alike desks give the same answers in any run, tell every listener the same and return the same
    to every waiter. -/
theorem Alike.run (h : d.Alike d') (ops : List Op) :
    d.answers ops = d'.answers ops ∧ (∀ n, d.told n ops = d'.told n ops) ∧
      (∀ n, d.returned n ops = d'.returned n ops) := by
  induction ops generalizing d d' with
  | nil => exact ⟨rfl, fun _ => rfl, fun _ => rfl⟩
  | cons op ops ih =>
    -- the first operation leaves them alike, and so does the rest of the run
    obtain ⟨hanswer, hnext⟩ := h.step op
    obtain ⟨hanswers, htold, hreturned⟩ := ih hnext
    refine ⟨?_, fun n => ?_, fun n => ?_⟩
    · rw [answers, answers, hanswer, hanswers]
    · rw [told, told, hanswer, htold]
    · rw [returned, returned, hanswer, hreturned]

/-! ## Changing places -/

/-- A reply or an error is answered the same after one with another id. -/
private theorem answer_step_of_ne (h : op.handles? = some i) (h' : op'.handles? = some i')
    (hne : i ≠ i') : ((d.step op).1.step op').2 = (d.step op').2 := by
  obtain habsent | ⟨id, x, rfl, hx⟩ := d.absent_or_pending i'
  · -- the first operation does not bring anything under the other id
    have habsent' : ∀ id, i' = some id → (d.step op).1.table.exchanges.get? id = none := by
      intro id hid
      rw [get?_step_of_handles h (hid ▸ hne.symm)]
      exact habsent id hid
    rw [step_of_absent h' habsent, step_of_absent h' habsent']
  · have hx' := (get?_step_of_handles h hne.symm).trans hx
    rw [step_of_pending h' hx, step_of_pending h' hx']

/-- One that nothing is pending for leaves no trace wherever it comes. -/
private theorem after_of_absent (h : op.handles? = some i) (h' : op'.handles? = some i')
    (hne : i ≠ i') (habsent : ∀ id, i' = some id → d.table.exchanges.get? id = none) :
    d.after [op, op'] = d.after [op', op] := by
  have habsent' : ∀ id, i' = some id → (d.step op).1.table.exchanges.get? id = none := by
    intro id hid
    rw [get?_step_of_handles h (hid ▸ hne.symm)]
    exact habsent id hid
  simp only [after_cons, after_nil, step_of_absent h' habsent, step_of_absent h' habsent']

/-- Neighbours with different ids may change places. -/
theorem Sound.swap (hd : d.Sound) (h : op.handles? = some i) (h' : op'.handles? = some i')
    (hne : i ≠ i') : (d.after [op, op']).Alike (d.after [op', op]) := by
  obtain habsent | ⟨id, x, rfl, hx⟩ := d.absent_or_pending i
  · -- where one of them finds nothing, the other works alone either way
    rw [after_of_absent h' h hne.symm habsent]
    exact .refl _
  obtain habsent' | ⟨id', x', rfl, hx'⟩ := d.absent_or_pending i'
  · rw [after_of_absent h h' hne habsent']
    exact .refl _
  -- both find something, under different ids and so with different serial numbers
  have hid : id ≠ id' := fun heq => hne (congrArg some heq)
  have hserial : x.serial ≠ x'.serial := fun heq => hid (hd.serial_inj hx hx' heq)
  have hin : d.table.exchanges.contains id = true := by simp [Directory.contains, hx]
  have hin' : d.table.exchanges.contains id' = true := by simp [Directory.contains, hx']
  have hnext := (get?_step_of_handles h hne.symm).trans hx'
  have hnext' := (get?_step_of_handles h' hne).trans hx
  simp only [after_cons, after_nil]
  rw [step_of_pending h' hnext, step_of_pending h hnext', step_of_pending h hx,
    step_of_pending h' hx']
  constructor
  · simp only [Correlator.settle_exchanges]
    -- the two entries are written one after the other, in either order
    exact Directory.write_comm hid hin hin' ..
  · simp only [Correlator.settle_allocator]
  · simp only [Correlator.settle_made]
  · simp only [Correlator.settle_patience]
  · intro n
    simp only [Correlator.settle_mailbox]
    -- at most one of the two mailboxes is this one
    by_cases hn : x.serial = n
    · simp [hn, show x'.serial ≠ n from fun heq => hserial (hn.trans heq.symm)]
    · simp [hn]
  · rfl

/-- Only an exchange that is pending under the id is told something. -/
theorem exists_pending_of_reportsOn (h : op.handles? = some i)
    (htold : (d.step op).2.reportsOn n ≠ []) :
    ∃ id x, i = some id ∧ d.table.exchanges.get? id = some x ∧ x.serial = n := by
  obtain habsent | ⟨id, x, rfl, hx⟩ := d.absent_or_pending i
  · rw [step_of_absent h habsent] at htold
    exact absurd (by simp [Answer.reportsOn, reports_unheard]) htold
  · rw [step_of_pending h hx] at htold
    by_cases hn : x.serial = n
    · exact ⟨id, x, rfl, hx, hn⟩
    · exact absurd (reportsOn_handling op hn) htold

/-- Two neighbours with different ids tell no listener things in another order. -/
private theorem Sound.told_swap (hd : d.Sound) (h : op.handles? = some i)
    (h' : op'.handles? = some i')
    (hne : i ≠ i') (n : Nat) : d.told n [op, op'] = d.told n [op', op] := by
  simp only [told, answer_step_of_ne h h' hne, answer_step_of_ne h' h hne.symm, List.append_nil]
  by_cases hnil : (d.step op).2.reportsOn n = []
  · -- one of them tells this listener nothing
    rw [hnil]
    simp
  by_cases hnil' : (d.step op').2.reportsOn n = []
  · rw [hnil']
    simp
  obtain ⟨id, x, rfl, hx, hn⟩ := exists_pending_of_reportsOn h hnil
  -- both tell of the exchange, which would then be under both ids
  obtain ⟨id', x', rfl, hx', hn'⟩ := exists_pending_of_reportsOn h' hnil'
  exact absurd (congrArg some (hd.serial_inj hx hx' (hn.trans hn'.symm))) hne

/-- At every desk that an instance comes to, two operations that each take in a reply or an error,
    under different transaction ids, may be carried out in either order. Each gets the answer that
    it gets in the other order; the table is the same, and so is what waits in every mailbox; every
    interaction is told the same outcomes in the same order. Nor does it show later: whatever is
    done next, the answers are the same, every listener is told the same, and every waiter is
    returned the same. -/
theorem handling_commutes (allocator : Allocator) (patience : UInt64) (ops : List Op)
    (h : op.handles? = some i) (h' : op'.handles? = some i') (hne : i ≠ i') :
    let d := (new allocator patience).after ops
    let one := d.after [op, op']
    let other := d.after [op', op]
    ((d.step op').1.step op).2 = (d.step op).2 ∧ ((d.step op).1.step op').2 = (d.step op').2 ∧
    one.table.exchanges = other.table.exchanges ∧ one.table.allocator = other.table.allocator ∧
    (∀ serial, one.table.mailbox serial = other.table.mailbox serial) ∧
    (∀ serial, d.told serial [op, op'] = d.told serial [op', op]) ∧
    ∀ later, one.answers later = other.answers later ∧
      (∀ serial, one.told serial later = other.told serial later) ∧
      (∀ serial, one.returned serial later = other.returned serial later) := by
  intro d one other
  have hd : d.Sound := (sound_new allocator patience).after ops
  have halike : one.Alike other := hd.swap h h' hne
  refine ⟨answer_step_of_ne h' h hne.symm, answer_step_of_ne h h' hne, halike.exchanges,
    halike.allocator, halike.mailbox, hd.told_swap h h' hne, halike.run⟩

/-- The acknowledgement of an Invoke that is waited for, and the error that ends a Submit with a
    listener. -/
theorem handling_commutes_invoke_submit :
    let ack : Message :=
      { header := { uriFrom := "p", uriTo := "c", pattern := .invoke, stage := some 2,
                    timestamp := 0, transaction := some 1 } }
    let lost : Header :=
      { uriFrom := "c", uriTo := "q", pattern := .submit, stage := some 1, timestamp := 0,
        transaction := some 2 }
    let reply := Op.receive ack
    let failure := Op.fail 0 lost (.transport "unreachable")
    let d := (new ⟨0, 0, 0⟩ 1000).after
      [.initiate 0 .invoke (some 1) none, .initiate 0 .submit (some 1) (some (.interaction "l"))]
    reply.handles? = some (some 1) ∧ failure.handles? = some (some 2) ∧
      ((d.after [failure, reply]).table.mailbox 0).map Delivery.terminal = [false] ∧
      (d.after [failure, reply]).table.contains 2 = false ∧
      (d.after [reply, failure]).table.exchanges = (d.after [failure, reply]).table.exchanges ∧
      (d.after [reply, failure]).table.mailbox 0 = (d.after [failure, reply]).table.mailbox 0 ∧
      d.told 1 [reply, failure] = d.told 1 [failure, reply] := by
  intro ack lost reply failure d
  have hreply : reply.handles? = some (some 1) := rfl
  have hfailure : failure.handles? = some (some 2) := rfl
  have hne : (some 1 : Option TransactionId) ≠ some 2 := by decide
  obtain ⟨_, _, hexchanges, _, hmailbox, htold, _⟩ :=
    handling_commutes ⟨0, 0, 0⟩ 1000
      [.initiate 0 .invoke (some 1) none, .initiate 0 .submit (some 1) (some (.interaction "l"))]
      hreply hfailure hne
  exact ⟨hreply, hfailure, rfl, rfl, hexchanges, hmailbox 0, htold 1⟩

end Desk

end Mal
