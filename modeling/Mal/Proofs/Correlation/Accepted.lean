import Mal.Proofs.Correlation.Shutdown
import Mal.Proofs.Correlation.Sole

/-!
# What an interaction accepts

Whether an interaction accepts what comes in under its id depends on the state of its replies and on
nothing else: not on the table, not on mailboxes, and not on how far a waiter has come.
`ReplyState.accepted` lists what is accepted in a run, by the state alone.

A waited exchange keeps to this list. What comes in may be far ahead of the waiter, and the table
forgets the exchange not when its last outcome is accepted, but when this outcome is collected;
until then the mailbox holds exactly what was accepted and is not returned yet.

## Key results

- `Desk.stays`, `Desk.moves`, `Desk.drained`: what an operation does to a waited exchange
- `Desk.waited_after`: a waited exchange during a run
- `Desk.returned_in_order`: what its waiters are returned, and how long it is pending
-/

namespace Mal

/-- Results can be compared if what they carry can be. -/
instance decidableEqExcept {ε α : Type} [DecidableEq ε] [DecidableEq α] : DecidableEq (Except ε α)
  | .ok a, .ok b => decidable_of_iff (a = b) (by simp)
  | .error e, .error f => decidable_of_iff (e = f) (by simp)
  | .ok _, .error _ => isFalse (by simp)
  | .error _, .ok _ => isFalse (by simp)

namespace ReplyState

/-- What an operation brings to an interaction under `id` in this state: the state afterwards, and
    the outcome, as a waiter gets it. `none` if the operation is not for the interaction, or if it
    is refused. -/
def take? (st : ReplyState) (id : TransactionId) :
    Desk.Op → Option (ReplyState × Except Failure Message)
  | .receive m =>
    if m.header.transaction = some id then
      match st.receive m.header with
      | .ok next => some (next, Correlator.waited m)
      | .error _ => none
    else none
  | .fail _ header failure =>
    if header.transaction = some id ∧ st.isFinished = false then some (st.ended, .error failure)
    else none
  | _ => none

/-- The state after a run of operations. -/
def follow (st : ReplyState) (id : TransactionId) : List Desk.Op → ReplyState
  | [] => st
  | op :: ops =>
    match st.take? id op with
    | none => st.follow id ops
    | some (next, _) => next.follow id ops

/-- The outcomes that are accepted in a run of operations, in the order they are accepted. -/
def accepted (st : ReplyState) (id : TransactionId) :
    List Desk.Op → List (Except Failure Message)
  | [] => []
  | op :: ops =>
    match st.take? id op with
    | none => st.accepted id ops
    | some (next, outcome) => outcome :: next.accepted id ops

variable {st next : ReplyState} {id : TransactionId} {op : Desk.Op}

/-- An interaction that is over accepts nothing. -/
private theorem take?_of_isFinished (h : st.isFinished = true) (id : TransactionId) (op : Desk.Op) :
    st.take? id op = none := by
  cases op with
  | receive m =>
    -- no reply is accepted, so there is no next state
    cases hstate : st.receive m.header with
    | error failure => simp only [take?, hstate, ite_self]
    | ok next =>
      rw [isFinished_of_receive hstate] at h
      cases h
  | fail => simp [take?, h]
  | _ => rfl

/-- Not in a whole run either. -/
theorem follow_of_isFinished (h : st.isFinished = true) (id : TransactionId)
    (ops : List Desk.Op) : st.follow id ops = st ∧ st.accepted id ops = [] := by
  induction ops with
  | nil => exact ⟨rfl, rfl⟩
  | cons op ops ih =>
    simp only [follow, accepted, take?_of_isFinished h]
    exact ih

/-- What is accepted is a reply that the state accepts, or an error while the interaction is not
    over. -/
theorem take?_eq_some {outcome : Except Failure Message}
    (h : st.take? id op = some (next, outcome)) :
    (∃ m, op = .receive m ∧ m.header.transaction = some id ∧ st.receive m.header = .ok next ∧
        outcome = Correlator.waited m) ∨
      ∃ now header failure stage, op = .fail now header failure ∧
        header.transaction = some id ∧ st.pendingStage = some stage ∧ next = st.ended ∧
        outcome = .error failure := by
  cases op with
  | receive m =>
    simp only [take?] at h
    split at h
    · -- the reply is in the transaction, and in order
      next hid =>
      split at h
      · next hstate =>
        cases h
        exact .inl ⟨m, rfl, hid, hstate, rfl⟩
      · cases h
    · cases h
  | fail now header failure =>
    simp only [take?] at h
    split at h
    · -- an error is accepted as long as a stage is awaited
      next hopen =>
      cases h
      obtain ⟨stage, hstage⟩ := exists_pendingStage hopen.2
      exact .inr ⟨now, header, failure, stage, rfl, hopen.1, hstage, rfl, rfl⟩
    · cases h
  | _ => cases h

end ReplyState

/-- What arrives for an exchange, if no shutdown does, is what its state accepts. -/
private theorem Exchange.arrival?_eq_take? (x : Exchange) (id : TransactionId) {op : Desk.Op}
    (hop : ∀ now, op ≠ .shutdown now) :
    x.arrival? id op = (x.state.take? id op).map fun t => ⟨t.2, t.1.isFinished⟩ := by
  cases op with
  -- both look up the same id and state
  | receive m =>
    simp only [arrival?, ReplyState.take?]
    split
    · cases x.state.receive m.header <;> rfl
    · rfl
  | fail now header failure =>
    simp only [arrival?, ReplyState.take?]
    split
    · simp
    · rfl
  | shutdown now => exact absurd rfl (hop now)
  | _ => rfl

namespace Desk

/-- Whether an operation ends an exchange under `id` with the serial number `n`, or the wait for it,
    though not all its outcomes were collected. -/
def Op.interrupts (id : TransactionId) (n : Nat) : Op → Bool
  | .abandon id' => id' == id
  | .shutdown _ => true
  | .expire t _ => t.serial == n
  | _ => false

section

variable {d : Desk} {op : Op} {id : TransactionId} {x : Exchange}

/-! ## What one operation does -/

/-- A ticket for one exchange does not release another. -/
private theorem release_of_ne (hx : d.table.exchanges.get? id = some x) {t : Ticket}
    (hne : t.serial ≠ x.serial) : (d.table.release t).exchanges.get? id = some x := by
  rw [Correlator.release_get?, hx]
  simp [Option.filter, Ne.symm hne]

/-- A reply that the exchange under `id` does not accept is for another exchange, or for none. -/
theorem stays_receive (hd : d.Sound) (hx : d.table.exchanges.get? id = some x) {m : Message}
    (hnone : x.state.take? id (.receive m) = none) :
    (d.step (.receive m)).1.table.exchanges.get? id = some x ∧
      (d.step (.receive m)).2.reportsOn x.serial = [] := by
  -- an exchange that takes the reply is under another id, and so has another serial number
  have hother {id' : TransactionId} {x' : Exchange} {next : ReplyState}
      (hid : m.header.transaction = some id') (hx' : d.table.exchanges.get? id' = some x')
      (hstate : x'.state.receive m.header = .ok next) : id' ≠ id := by
    rintro rfl
    obtain rfl : x = x' := Option.some.inj (hx.symm.trans hx')
    simp [ReplyState.take?, hid, hstate] at hnone
  have h := d.table.receive_received m
  simp only [step]
  generalize d.table.receive m = result at h
  cases h with
  | dropped | refused => exact ⟨hx, rfl⟩
  -- the exchange that took the reply is another one
  | posted hid hx' hstate =>
    have hne := hother hid hx' hstate
    exact ⟨by simp [Directory.get?_put, hne, hx], rfl⟩
  | passed hid hx' hstate =>
    have hne := hother hid hx' hstate
    exact ⟨by simp [Directory.get?_put, hne, hx], reportsOn_other rfl (hd.serial_ne hx hx' hne)⟩
  | completed hid hx' hstate =>
    have hne := hother hid hx' hstate
    exact ⟨by simp [Directory.get?_erase, Ne.symm hne, hx],
      reportsOn_other rfl (hd.serial_ne hx hx' hne)⟩

/-- So is an error. -/
theorem stays_fail (hd : d.Sound) (hx : d.table.exchanges.get? id = some x) {now : UInt64}
    {header : Header} {failure : Failure}
    (hnone : x.state.take? id (.fail now header failure) = none) :
    (d.step (.fail now header failure)).1.table.exchanges.get? id = some x ∧
      (d.step (.fail now header failure)).2.reportsOn x.serial = [] := by
  have hother {id' : TransactionId} {x' : Exchange} {stage : Stage}
      (hid : header.transaction = some id') (hx' : d.table.exchanges.get? id' = some x')
      (hstage : x'.state.pendingStage = some stage) : id' ≠ id := by
    rintro rfl
    obtain rfl : x = x' := Option.some.inj (hx.symm.trans hx')
    simp [ReplyState.take?, hid, ReplyState.isFinished, hstage] at hnone
  have h := d.table.fail_failed now header failure
  simp only [step]
  generalize d.table.fail now header failure = result at h
  cases h with
  | dropped => exact ⟨hx, rfl⟩
  | posted hid hx' hstage =>
    have hne := hother hid hx' hstage
    exact ⟨by simp [Directory.get?_put, hne, hx], rfl⟩
  | reported hid hx' hstage =>
    have hne := hother hid hx' hstage
    exact ⟨by simp [Directory.get?_erase, Ne.symm hne, hx],
      reportsOn_other rfl (hd.serial_ne hx hx' hne)⟩

/-- An exchange stays as it is, and nothing is told of it, if an operation neither brings something
    for it, nor interrupts it, nor takes its last outcome. -/
theorem stays (hd : d.Sound) (hx : d.table.exchanges.get? id = some x)
    (hop : op.interrupts id x.serial = false) (hnone : x.state.take? id op = none)
    (htaken : ∀ dl ∈ d.taking x.serial op, dl.terminal = false) :
    (d.step op).1.table.exchanges.get? id = some x ∧ (d.step op).2.reportsOn x.serial = [] := by
  cases op with
  | receive m => exact stays_receive hd hx hnone
  | fail now header failure => exact stays_fail hd hx hnone
  | initiate | resume => exact ⟨get?_of_starts rfl hx, rfl⟩
  | shutdown now => cases hop
  -- the operations left are those of the initiator, none of which interrupts this exchange
  | abandon id' =>
    have hne : id' ≠ id := by simpa [Op.interrupts] using hop
    exact ⟨by simp [step, Correlator.abandon, Directory.get?_erase, Ne.symm hne, hx], rfl⟩
  | await id' =>
    simp only [step]
    split <;> exact ⟨hx, rfl⟩
  | expire t milliseconds =>
    have hne : t.serial ≠ x.serial := by simpa [Op.interrupts] using hop
    simp only [step]
    split
    · exact ⟨release_of_ne hx hne, rfl⟩
    · exact ⟨hx, rfl⟩
  | collect t =>
    simp only [step]
    -- a ticket that is not known collects nothing
    split
    · next ht =>
      rcases d.table.collect_cases t with ⟨_, hc⟩ | ⟨dl, rest, c', hbox, hc, _, hexchanges⟩
      · simp only [hc]
        exact ⟨hx, rfl⟩
      · simp only [hc, hexchanges]
        refine ⟨?_, rfl⟩
        -- what is marked as the last is collected from another mailbox
        split
        · next hterminal =>
          refine release_of_ne hx ?_
          intro hserial
          have hmem : dl ∈ d.taking x.serial (.collect t) := by
            rw [taking, if_pos ⟨ht, hserial⟩, ← hserial, hbox]
            exact .head _
          cases hterminal.symm.trans (htaken dl hmem)
        · exact hx
    · -- a delivery that is not the last releases nothing
      exact ⟨hx, rfl⟩

/-- A waited exchange moves on by what it accepts. -/
theorem moves (hx : d.table.exchanges.get? id = some x) (hl : x.listener = none)
    {next : ReplyState} {outcome : Except Failure Message}
    (htake : x.state.take? id op = some (next, outcome)) :
    (d.step op).1.table.exchanges.get? id = some { x with state := next } := by
  rcases ReplyState.take?_eq_some htake with
    ⟨m, rfl, hid, hstate, _⟩ | ⟨now, header, failure, stage, rfl, hid, hstage, rfl, _⟩
  · simp [step, Correlator.receive, hid, hx, hstate, hl]
  · simp [step, Correlator.fail, ReplyState.fail, hid, hx, hstage, hl]

/-- Whoever collects the last outcome of an exchange leaves its mailbox empty, and takes it off the
    table. -/
theorem drained (hd : d.Sound) (hc : d.Coherent) (hx : d.table.exchanges.get? id = some x)
    (hl : x.listener = none) {dl : Delivery} (hmem : dl ∈ d.taking x.serial op)
    (hterminal : dl.terminal = true) :
    x.state.isFinished = true ∧ ¬ (d.step op).1.Holds x.serial ∧
      (d.step op).1.table.mailbox x.serial = [] := by
  cases op with
  | collect t =>
    simp only [taking] at hmem
    split at hmem
    · -- the ticket is for this mailbox
      next h =>
      obtain ⟨ht, hserial⟩ := h
      rcases d.table.collect_cases t with ⟨hbox, _⟩ | ⟨dl', rest, c', hbox, hcol, hmailbox, hexch⟩
      · rw [← hserial, hbox] at hmem
        cases hmem
      · have htallies := hc.waited_tallies hx hl
        rw [← hserial, hbox] at hmem htallies
        obtain rfl : dl = dl' := by simpa using hmem
        -- the mark is on the last delivery, so there is no other
        obtain rfl : rest = [] := by
          cases rest with
          | nil => rfl
          | cons e rest => cases hterminal.symm.trans (htallies.unmarked dl (by simp))
        -- the ticket is for this exchange, so it is this one that is released
        have hid : id = t.transaction := (hd.ticket_waited ht hx hserial.symm).1
        refine ⟨htallies.finished_iff.2 ⟨dl, rfl, hterminal⟩, ?_, ?_⟩
        · -- after the release no exchange has this serial number
          rintro ⟨id', x', hx', heq⟩
          simp only [step, ht, hcol, hexch, hterminal, if_true, Correlator.release_get?,
            Option.filter_eq_some_iff] at hx'
          obtain rfl := hd.serial_inj hx'.1 hx heq
          simp [← hid, heq, hserial] at hx'
        · simp [step, ht, hcol, hmailbox, hserial]
    · cases hmem
  | _ => cases hmem

/-- What comes to the mailbox of a waited exchange is what its state accepts. -/
private theorem Sound.arriving_eq_take? (hd : d.Sound) (hx : d.table.exchanges.get? id = some x)
    (hl : x.listener = none) (hop : op.interrupts id x.serial = false) :
    d.arriving x.serial op =
      ((x.state.take? id op).map fun t => ⟨t.2, t.1.isFinished⟩).toList := by
  have hshutdown (now : UInt64) : op ≠ .shutdown now := by
    rintro rfl
    cases hop
  rw [hd.arriving_eq hx hl, x.arrival?_eq_take? id hshutdown]

/-! ## Runs -/

/-- Nothing arrives during a run for an exchange that is over. -/
private theorem arrived_of_not_isOpen {n : Nat} (hd : d.Sound) (hlt : n < d.table.made)
    (hover : ¬ d.table.IsOpen n) (ops : List Op) : d.arrived n ops = [] := by
  induction ops generalizing d with
  | nil => rfl
  | cons op ops ih =>
    have hlt' := Nat.lt_of_lt_of_le hlt (d.made_le_step op)
    rw [arrived, arriving_of_not_isOpen hover, List.nil_append]
    exact ih (hd.step op) hlt' (not_isOpen_step hd hlt hover op)

/-- A waited exchange that is not interrupted: what arrives for it is what its state accepts, and it
    is pending in the state that this leads to, or all is over and collected. -/
theorem waited_after (hd : d.Sound) (hc : d.Coherent) (hx : d.table.exchanges.get? id = some x)
    (hl : x.listener = none) {ops : List Op}
    (hops : ∀ op ∈ ops, op.interrupts id x.serial = false) :
    (d.arrived x.serial ops).map Delivery.outcome = x.state.accepted id ops ∧
      ((d.after ops).table.exchanges.get? id = some { x with state := x.state.follow id ops } ∨
        (x.state.follow id ops).isFinished = true ∧ ¬ (d.after ops).Holds x.serial ∧
          (d.after ops).table.mailbox x.serial = []) := by
  -- the exchange changes its state on the way, or leaves the table in the middle of the run
  induction ops generalizing d x with
  | nil => exact ⟨rfl, .inl hx⟩
  | cons op ops ih =>
    have hop := hops op (.head _)
    have hrest : ∀ op ∈ ops, op.interrupts id x.serial = false :=
      fun op hmem => hops op (.tail _ hmem)
    have hlt : x.serial < (d.step op).1.table.made :=
      Nat.lt_of_lt_of_le (hd.serial_lt hx) (d.made_le_step op)
    rw [arrived, hd.arriving_eq_take? hx hl hop, after_cons]
    cases htake : x.state.take? id op with
    -- an outcome is accepted and put behind the others
    | some t =>
      obtain ⟨next, outcome⟩ := t
      obtain ⟨harrived, hlast⟩ :=
        ih (hd.step op) (hc.step hd op) (moves hx hl htake) hl hrest
      simp only [ReplyState.accepted, ReplyState.follow, htake]
      exact ⟨congrArg (outcome :: ·) harrived, hlast⟩
    | none =>
      -- nothing is accepted, but the waiter may be the one who moves
      simp only [ReplyState.accepted, ReplyState.follow, htake, Option.map_none,
        Option.toList_none, List.nil_append]
      by_cases htaken : ∃ dl ∈ d.taking x.serial op, dl.terminal = true
      · -- the last outcome is collected
        obtain ⟨dl, hmem, hterminal⟩ := htaken
        obtain ⟨hfinished, hgone, hempty⟩ := drained hd hc hx hl hmem hterminal
        obtain ⟨hfollow, haccepted⟩ := ReplyState.follow_of_isFinished hfinished id ops
        -- the exchange has left the table, so nothing arrives for it any more
        have hover : ¬ (d.step op).1.table.IsOpen x.serial := by
          rintro ⟨id', x', hx', hserial, _⟩
          exact hgone ⟨id', x', hx', hserial⟩
        have hbox := (over_after (hd.step op) hlt hover ops).2
        rw [hempty] at hbox
        rw [hfollow, haccepted, arrived_of_not_isOpen (hd.step op) hlt hover]
        exact ⟨rfl, .inr ⟨hfinished, (told_of_not_holds hlt hgone ops).1,
          List.suffix_nil.1 hbox⟩⟩
      · -- what was collected leaves it pending
        have hunmarked : ∀ dl ∈ d.taking x.serial op, dl.terminal = false := by
          simpa using htaken
        exact ih (hd.step op) (hc.step hd op) (stays hd hx hop htake hunmarked).1 hl hrest

/-- A run in two parts. -/
theorem after_append (d : Desk) (ops ops' : List Op) :
    d.after (ops ++ ops') = (d.after ops).after ops' :=
  List.foldl_append

/-- What is pending after a run that starts nothing was pending before. -/
private theorem pending_of_not_starts (hd : d.Sound) {ops : List Op}
    (hops : ∀ op ∈ ops, op.starts = false) {y : Exchange}
    (hy : (d.after ops).table.exchanges.get? id = some y) :
    ∃ x, d.table.exchanges.get? id = some x ∧ x.serial = y.serial := by
  induction ops generalizing d with
  | nil => exact ⟨y, hy, rfl⟩
  | cons op ops ih =>
    obtain ⟨z, hz, hserial⟩ := ih (hd.step op) (fun op hmem => hops op (.tail _ hmem)) hy
    rcases d.pending_or_new op hz with ⟨x, hx, hx'⟩ | ⟨_, hnew⟩
    · exact ⟨x, hx, hx'.trans hserial⟩
    · -- it would have been opened by the operation, which starts nothing
      obtain ⟨s, hopens, _⟩ := opened hd hz hnew
      have hstarts := hops op (.head _)
      cases op with
      | initiate | resume => cases hstarts
      | _ => cases hopens

end

/-- What the waiters of an uninterrupted exchange are returned, followed by what is left for them,
    is what the state of the exchange accepts, if nothing was left before. -/
theorem returned_append_accepted {d : Desk} (hd : d.Sound) (hc : d.Coherent) {id : TransactionId}
    {x : Exchange} (hx : d.table.exchanges.get? id = some x) (hl : x.listener = none)
    (hempty : d.table.mailbox x.serial = []) {ops : List Op}
    (hops : ∀ op ∈ ops, op.interrupts id x.serial = false) :
    d.returned x.serial ops ++ ((d.after ops).table.mailbox x.serial).map Delivery.outcome =
      x.state.accepted id ops := by
  have hconserved := returned_append_mailbox hd x.serial ops
  rw [hempty, List.nil_append] at hconserved
  exact hconserved.trans (waited_after hd hc hx hl hops).1

/-- Of such a queue the oldest outcome is collected next. -/
theorem collect_of_queue {c : Correlator} {t : Ticket}
    {returned accepted : List (Except Failure Message)}
    (hqueue : returned ++ (c.mailbox t.serial).map Delivery.outcome = accepted) :
    (c.collect t).map Prod.fst = accepted[returned.length]? := by
  rw [← hqueue, List.getElem?_append_right (Nat.le_refl _), Nat.sub_self]
  rcases c.collect_cases t with ⟨hbox, hcol⟩ | ⟨dl, rest, c', hbox, hcol, _⟩
  · simp [hcol, hbox]
  · simp [hcol, hbox]

/-! ## From the start on -/

/-- A waited interaction that was started is pending, in the state it starts in, and its mailbox is
    empty. -/
theorem started {d : Desk} (hd : d.Sound) (hc : d.Coherent) {seconds : UInt64} {p : Pattern}
    {stage : Option Stage} {l : Option Listener} {st : ReplyState} {id : TransactionId}
    (hstate : ReplyState.initial p stage = .ok (some st))
    (hok : (d.step (.initiate seconds p stage l)).2 = .initiated (.ok id)) :
    (d.step (.initiate seconds p stage l)).1.table.exchanges.get? id =
        some ⟨d.table.made, p, st, l⟩ ∧
      (d.step (.initiate seconds p stage l)).1.table.mailbox d.table.made = [] := by
  refine ⟨?_, hc.step_box_empty hd _ (Nat.le_refl _)⟩
  have h := d.table.initiate_initiated seconds p stage l
  simp only [step] at hok ⊢
  generalize d.table.initiate seconds p stage l = result at h hok
  cases h with
  | refused => cases hok
  -- an interaction that starts in a state has replies
  | unkept a id' hnone => cases hstate.symm.trans hnone
  | added a hsome =>
    cases hstate.symm.trans hsome
    cases hok
    rw [Correlator.add_get?, if_pos rfl]

/-- Outcomes are returned in order, once each. Whatever an instance did before, let an interaction
    be started without a listener, and let anything happen afterwards that does not interrupt it.

    What its waiters were returned by then is the beginning of what the interaction has accepted,
    and the next to be collected is the next of that. As long as the interaction can accept more,
    or not all it accepted was returned, it is pending and can be waited for. Once it is over, its
    id is not pending, and a wait for it is refused, until something is started again. -/
theorem returned_in_order (a : Allocator) (patience : UInt64) (before ops : List Op)
    (seconds : UInt64) {p : Pattern} {stage : Option Stage} {st : ReplyState}
    {id : TransactionId} :
    let d := (new a patience).after before
    let start := d.step (.initiate seconds p stage none)
    let n := d.table.made
    let last := start.1.after ops
    let accepted := st.accepted id ops
    let returned := start.1.returned n ops
    let finished := (st.follow id ops).isFinished = true ∧ returned = accepted
    ReplyState.initial p stage = .ok (some st) → start.2 = .initiated (.ok id) →
      (∀ op ∈ ops, op.interrupts id n = false) →
      returned <+: accepted ∧
        (∀ t ∈ last.tickets, t.serial = n →
          (last.step (.collect t)).2 = .collected accepted[returned.length]?) ∧
        (last.Holds n ↔ ¬ finished) ∧
        (¬ finished → last.table.contains id = true ∧
          (last.step (.await id)).2 = .awaited (.ok ⟨id, n⟩)) ∧
        (finished → ∀ later, (∀ op ∈ ops ++ later, op.starts = false) →
          (last.after later).table.contains id = false ∧
            ((last.after later).step (.await id)).2 =
              .awaited (.error (.disorder .notPending (some id) none))) := by
  intro d start n last accepted returned finished hstate hok hops
  have hd : d.Sound := (sound_new a patience).after before
  have hc : d.Coherent := (Coherent.new a patience).after (sound_new a patience) before
  have hd' : start.1.Sound := hd.step _
  obtain ⟨hx, hempty⟩ := started hd hc hstate hok
  have hlast := (waited_after hd' (hc.step hd _) hx rfl hops).2
  have hqueue : returned ++ (last.table.mailbox n).map Delivery.outcome = accepted :=
    returned_append_accepted hd' (hc.step hd _) hx rfl hempty hops
  -- all is returned when nothing is left in the mailbox
  have hreturned : returned = accepted ↔ last.table.mailbox n = [] := by
    rw [← hqueue, List.self_eq_append_right, List.map_eq_nil_iff]
  have hpending :
      (last.table.exchanges.get? id = some ⟨n, p, st.follow id ops, none⟩ ∧ ¬ finished) ∨
        (¬ last.Holds n ∧ finished) := by
    rcases hlast with hx' | ⟨hfinished, hgone, hbox⟩
    · -- an exchange that is pending is not over, or its last outcome is still in the mailbox
      refine .inl ⟨hx', ?_⟩
      rintro ⟨hfinished, heq⟩
      have hlast : last.Coherent := (hc.step hd _).after hd' ops
      obtain ⟨dl, hdl, _⟩ := (hlast.waited_tallies hx' rfl).finished_iff.1 hfinished
      rw [show last.table.mailbox n = [] from hreturned.1 heq] at hdl
      cases hdl
    · exact .inr ⟨hgone, hfinished, hreturned.2 hbox⟩
  refine ⟨⟨_, hqueue⟩, ?_, ?_, ?_, ?_⟩
  · -- what is left is collected in its order
    intro t ht hserial
    rw [← hserial] at hqueue
    rw [← collect_of_queue hqueue]
    simp only [step, ht, if_true]
    cases last.table.collect t <;> rfl
  · -- it is in the table as long as it is not finished
    rcases hpending with ⟨hx', hopen⟩ | ⟨hgone, hover⟩
    · exact iff_of_true ⟨id, _, hx', rfl⟩ hopen
    · exact iff_of_false hgone (not_not_intro hover)
  · -- an unfinished one can be waited for
    intro hopen
    rcases hpending with ⟨hx', _⟩ | ⟨_, hover⟩
    · refine ⟨?_, by simp [step, Correlator.await, hx']⟩
      rw [← Bool.not_eq_false, Correlator.contains_eq_false_iff, hx']
      exact Option.some_ne_none _
    · exact absurd hover hopen
  · -- once it is finished, and if nothing is started later, its id is free
    intro hover later hnone
    have hfree : (last.after later).table.exchanges.get? id = none := by
      rw [Option.eq_none_iff_forall_ne_some]
      intro y hy
      -- it would be the exchange itself, which has left the table
      have hall : (start.1.after (ops ++ later)).table.exchanges.get? id = some y := by
        rw [after_append]
        exact hy
      obtain ⟨x, hx', hserial⟩ := pending_of_not_starts hd' hnone hall
      obtain rfl := Option.some.inj (hx.symm.trans hx')
      rcases hpending with ⟨_, hopen⟩ | ⟨hgone, _⟩
      · exact hopen hover
      · have hlt : n < last.table.made :=
          Nat.lt_of_lt_of_le (hd'.serial_lt hx) (start.1.made_le_after ops)
        exact (told_of_not_holds hlt hgone later).1 ⟨id, y, hy, hserial.symm⟩
    exact ⟨Correlator.contains_eq_false_iff.2 hfree, by simp [step, Correlator.await, hfree]⟩

/-- Two Progress interactions. The acknowledgement, an update and the failing response of the
    second arrive before its initiator begins to wait, among replies to the first and one that is
    refused. Three waits return them; then its id is not pending, while the first goes on. -/
theorem returned_in_order_progress :
    let message (id : TransactionId) (stage : Stage) : Message :=
      { header := { uriFrom := "p", uriTo := "c", pattern := .progress, stage := some stage,
                    timestamp := 0, transaction := some id } }
    let error : StandardError := { number := StandardError.internal }
    let response : Message := .ofError (message 2 4).header error
    let ops : List Op :=
      [.receive (message 2 2), .receive (message 1 2), .receive (message 2 3), .receive response,
       .receive (message 2 3), .await 2, .collect ⟨2, 1⟩, .await 2, .collect ⟨2, 1⟩, .await 2,
       .collect ⟨2, 1⟩]
    let d := (new ⟨0, 0, 0⟩ 1000).after [.initiate 0 .progress (some 1) none]
    let start := d.step (.initiate 0 .progress (some 1) none)
    let last := start.1.after ops
    start.1.returned 1 ops = [.ok (message 2 2), .ok (message 2 3), .error (.standard error)] ∧
      last.table.contains 2 = false ∧ last.table.contains 1 = true ∧
      (last.step (.await 2)).2 = .awaited (.error (.disorder .notPending (some 2) none)) := by
  intro message error response ops d start last
  have hops : ∀ op ∈ ops, op.interrupts 2 1 = false := by simp [ops, Op.interrupts]
  have hstarts : ∀ op ∈ ops ++ [], op.starts = false := by simp [ops, Op.starts]
  obtain ⟨_, _, _, _, hover⟩ :=
    @returned_in_order ⟨0, 0, 0⟩ 1000 [.initiate 0 .progress (some 1) none] ops 0
      .progress (some 1) (.progress .awaitingAck) 2 rfl rfl hops
  have hreturned : start.1.returned 1 ops =
      [.ok (message 2 2), .ok (message 2 3), .error (.standard error)] := by decide +kernel
  obtain ⟨hfree, hrefused⟩ := hover ⟨rfl, hreturned⟩ [] hstarts
  rw [after_nil] at hfree hrefused
  exact ⟨hreturned, hfree, by decide +kernel, hrefused⟩

end Desk

end Mal
