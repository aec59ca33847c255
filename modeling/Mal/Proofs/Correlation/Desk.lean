import Mal.Proofs.Correlation.Operations

/-!
# Runs of a correlator

A `Desk` is a correlator together with the tickets that were given out for its mailboxes. What an
instance does with its pending interactions is a list of operations on a desk (`Desk.Op`), in any
order; a wait is an `await` followed by a `collect` or an `expire` at any later time.

Exchanges are followed through a run by their serial numbers: a number is given out once, so an
exchange that has left the table never comes back, whatever is stored under its id afterwards.

## Key results

- `Sound.after`: serial numbers are distinct, and a ticket names one waited exchange
- `turn`: what an operation can do to the table and the tickets
- `opened`: an exchange starts under way
- `told_of_not_holds`: an exchange that has left the table is not heard of again
-/

namespace Mal

/-- A correlator and the tickets given out for its mailboxes. -/
structure Desk where
  table : Correlator
  tickets : List Ticket := []

namespace Desk

/-- What is done with the pending interactions of an instance. -/
inductive Op where
  | initiate (seconds : UInt64) (pattern : Pattern) (stage : Option Stage)
      (listener : Option Listener)
  | resume (pattern : Pattern) (last : Stage) (id : TransactionId) (listener : Listener)
  | receive (message : Message)
  | fail (now : UInt64) (header : Header) (failure : Failure)
  | abandon (id : TransactionId)
  | shutdown (now : UInt64)
  /-- Begins to wait. -/
  | await (id : TransactionId)
  /-- Goes on waiting, and takes what has arrived. -/
  | collect (ticket : Ticket)
  /-- A wait lasts too long; nothing has arrived. -/
  | expire (ticket : Ticket) (milliseconds : UInt64)

/-- What an operation may open: the pattern, the stage seen last, the listener. -/
def Op.opens? : Op → Option (Pattern × Stage × Option Listener)
  | .initiate _ p (some s) l => some (p, s, l)
  | .resume p last _ l => some (p, last, some l)
  | _ => none

/-- What an operation gives back. -/
inductive Answer where
  | initiated (result : Except Failure TransactionId)
  | resumed (result : Except Failure Unit)
  | received (result : Except Failure (Option Report))
  | failed (report : Option Report)
  | abandoned (found : Bool)
  | closed (reports : List Report)
  | awaited (result : Except Failure Ticket)
  /-- `none` if there is nothing to take. -/
  | collected (outcome : Option (Except Failure Message))
  /-- `none` if the wait goes on. -/
  | expired (failure : Option Failure)

/-- What listeners are told. -/
def Answer.reports : Answer → List Report
  | received (.ok report) => report.toList
  | failed report => report.toList
  | closed reports => reports
  | _ => []

/-- What is told of one exchange. -/
def Answer.reportsOn (a : Answer) (serial : Nat) : List Report :=
  a.reports.filter (·.serial == serial)

/-- Carries out an operation. Without a ticket that was given out nothing can be collected and no
    wait expires, and a wait does not expire while there is something to collect. -/
def step (d : Desk) : Op → Desk × Answer
  | .initiate seconds p stage l =>
    let (table, result) := d.table.initiate seconds p stage l
    ({ d with table := table }, .initiated result)
  | .resume p last id l =>
    let (table, result) := d.table.resume p last id l
    ({ d with table := table }, .resumed result)
  | .receive m =>
    let (table, result) := d.table.receive m
    ({ d with table := table }, .received result)
  | .fail now header failure =>
    let (table, report) := d.table.fail now header failure
    ({ d with table := table }, .failed report)
  | .abandon id =>
    let (table, found) := d.table.abandon id
    ({ d with table := table }, .abandoned found)
  | .shutdown now =>
    let (table, reports) := d.table.shutdown now
    ({ d with table := table }, .closed reports)
  | .await id =>
    match d.table.await id with
    | .ok t => ({ d with tickets := t :: d.tickets }, .awaited (.ok t))
    | .error failure => (d, .awaited (.error failure))
  | .collect t =>
    if t ∈ d.tickets then
      match d.table.collect t with
      | some (outcome, table) => ({ d with table := table }, .collected (some outcome))
      | none => (d, .collected none)
    else (d, .collected none)
  | .expire t milliseconds =>
    if t ∈ d.tickets ∧ d.table.mailbox t.serial = [] then
      let (table, failure) := d.table.expire t milliseconds
      ({ d with table := table }, .expired (some failure))
    else (d, .expired none)

/-- The desk of an instance that has done nothing yet. -/
def new (allocator : Allocator) (patience : UInt64) : Desk :=
  { table := { allocator := allocator, patience := patience } }

/-- The desk after several operations. -/
def after (d : Desk) (ops : List Op) : Desk :=
  ops.foldl (fun d op => (d.step op).1) d

@[simp] theorem after_nil (d : Desk) : d.after [] = d := rfl

@[simp] theorem after_cons (d : Desk) (op : Op) (ops : List Op) :
    d.after (op :: ops) = (d.step op).1.after ops := rfl

/-- What is told of one exchange during a run, each report with the operation that led to it. -/
def told (d : Desk) (serial : Nat) : List Op → List (Op × Report)
  | [] => []
  | op :: ops =>
    ((d.step op).2.reportsOn serial).map (op, ·) ++ (d.step op).1.told serial ops

/-- Whether an exchange is in the table. -/
def Holds (d : Desk) (serial : Nat) : Prop :=
  ∃ id x, d.table.exchanges.get? id = some x ∧ x.serial = serial

/-! ## Serial numbers and tickets -/

/-- Serial numbers are given out once, and tickets are for waited exchanges. -/
structure Sound (d : Desk) : Prop where
  serial_lt {id : TransactionId} {x : Exchange} :
    d.table.exchanges.get? id = some x → x.serial < d.table.made
  serial_inj {id id' : TransactionId} {x x' : Exchange} :
    d.table.exchanges.get? id = some x → d.table.exchanges.get? id' = some x' →
      x.serial = x'.serial → id = id'
  ticket_lt {t : Ticket} : t ∈ d.tickets → t.serial < d.table.made
  ticket_waited {t : Ticket} {id : TransactionId} {x : Exchange} :
    t ∈ d.tickets → d.table.exchanges.get? id = some x → x.serial = t.serial →
      id = t.transaction ∧ x.listener = none

/-- A new desk is sound: there is nothing on it. -/
theorem sound_new (allocator : Allocator) (patience : UInt64) : (new allocator patience).Sound where
  serial_lt h := by cases h
  serial_inj h := by cases h
  ticket_lt h := by cases h
  ticket_waited h := by cases h

namespace Sound

variable {d d' : Desk}

/-- Soundness is about what is pending, and there is nothing new among descendants. -/
private theorem of_descends (h : d.Sound) (hd : d.table.Descends d'.table)
    (ht : d'.tickets = d.tickets) :
    d'.Sound where
  serial_lt hx := by
    -- what is found in the table afterwards was in it before, under the same id
    obtain ⟨st, hbefore⟩ := hd.2 _ _ hx
    have hlt := h.serial_lt hbefore
    rw [hd.1]
    exact hlt
  serial_inj hx hx' heq := by
    obtain ⟨st, hbefore⟩ := hd.2 _ _ hx
    obtain ⟨st', hbefore'⟩ := hd.2 _ _ hx'
    exact h.serial_inj hbefore hbefore' heq
  ticket_lt hmem := by
    rw [hd.1]
    exact h.ticket_lt (ht ▸ hmem)
  ticket_waited hmem hx heq := by
    obtain ⟨st, hbefore⟩ := hd.2 _ _ hx
    -- the waited exchange is one from before
    have hwaited := h.ticket_waited (ht ▸ hmem) hbefore heq
    exact hwaited

/-- A new exchange has the next serial number, which no exchange and no ticket has. -/
private theorem add (h : d.Sound) (a : Allocator) (id : TransactionId) (p : Pattern)
    (st : ReplyState) (l : Option Listener) :
    Sound { d with table := { d.table with allocator := a }.add id p st l } where
  serial_lt hx := by
    simp only [Correlator.add_get?] at hx
    split at hx
    · -- the new exchange takes the next serial number, the others have smaller ones
      cases hx
      exact Nat.lt_succ_self _
    · exact Nat.lt_succ_of_lt (h.serial_lt hx)
  serial_inj hx hx' heq := by
    simp only [Correlator.add_get?] at hx hx'
    -- only one of two different exchanges can be the new one
    split at hx <;> split at hx'
    · next hi hi' => rw [← hi, ← hi']
    · cases hx
      exact absurd heq (Nat.ne_of_gt (h.serial_lt hx'))
    · cases hx'
      exact absurd heq (Nat.ne_of_lt (h.serial_lt hx))
    · exact h.serial_inj hx hx' heq
  ticket_lt hmem := Nat.lt_succ_of_lt (h.ticket_lt hmem)
  ticket_waited hmem hx heq := by
    simp only [Correlator.add_get?] at hx
    split at hx
    · -- tickets were given out before the new exchange was made
      cases hx
      exact absurd heq (Nat.ne_of_gt (h.ticket_lt hmem))
    · exact h.ticket_waited hmem hx heq

/-- A ticket is given out for a waited exchange. -/
theorem await (h : d.Sound) {id : TransactionId} {t : Ticket} (ht : d.table.await id = .ok t) :
    Sound { d with tickets := t :: d.tickets } := by
  unfold Correlator.await at ht
  split at ht
  · cases ht
  · next x hx =>
    split at ht
    · cases ht
    · next hl =>
      cases ht
      exact {
        serial_lt := h.serial_lt
        serial_inj := h.serial_inj
        ticket_lt := by
          intro t hmem
          -- the new ticket is for `x`, and older ones are as they were
          rcases List.mem_cons.1 hmem with rfl | hmem
          · exact h.serial_lt hx
          · exact h.ticket_lt hmem
        ticket_waited := by
          intro t id' x' hmem hx' heq
          rcases List.mem_cons.1 hmem with rfl | hmem
          · -- no other exchange has the serial number of `x`, so it is `x` that was found
            obtain rfl := h.serial_inj hx' hx heq
            rw [hx] at hx'
            cases hx'
            exact ⟨rfl, hl⟩
          · exact h.ticket_waited hmem hx' heq }

end Sound

/-! ## Steps -/

/-- Whoever is told something of a reply has an exchange pending. -/
private theorem holds_of_receive {d : Desk} {m : Message} {r : Report}
    (h : (d.table.receive m).2 = .ok (some r)) : d.Holds r.serial := by
  have hreceived := d.table.receive_received m
  generalize d.table.receive m = result at h hreceived
  cases hreceived with
  | dropped | refused | posted => cases h
  | passed _ hx | completed _ hx =>
    cases h
    exact ⟨_, _, hx, rfl⟩

/-- Whoever is told of an error has an exchange pending. -/
private theorem holds_of_fail {d : Desk} {now : UInt64} {header : Header} {failure : Failure}
    {r : Report} (h : (d.table.fail now header failure).2 = some r) : d.Holds r.serial := by
  have hfailed := d.table.fail_failed now header failure
  generalize d.table.fail now header failure = result at h hfailed
  cases hfailed with
  | dropped | posted => cases h
  | reported _ hx =>
    cases h
    exact ⟨_, _, hx, rfl⟩

/-- Whoever is told of a shutdown has an exchange pending. -/
private theorem holds_of_shutdown {d : Desk} {now : UInt64} {r : Report}
    (h : r ∈ (d.table.shutdown now).2) : d.Holds r.serial := by
  obtain ⟨id, x, hx, hr⟩ := Correlator.mem_shutdown h
  obtain ⟨_, _, _, _, rfl⟩ := Correlator.shutdownReport?_eq_some hr
  exact ⟨id, x, hx, rfl⟩

/-- What an operation does to the table and the tickets: it adds an exchange that is under way, or
    gives out a ticket, or leads to a descendant; and only of exchanges in the table something is
    told. -/
inductive Turn (d : Desk) (op : Op) : Desk × Answer → Prop where
  | added (a : Allocator) {id : TransactionId} (hfree : d.table.exchanges.get? id = none)
      {p : Pattern} {s : Stage} {st : ReplyState} {l : Option Listener}
      (hopens : op.opens? = some (p, s, l)) (hu : ReplyState.UnderWay p s st) {answer : Answer}
      (hr : answer.reports = []) :
      Turn d op ({ d with table := { d.table with allocator := a }.add id p st l }, answer)
  | awaited {id : TransactionId} {t : Ticket} (ht : d.table.await id = .ok t) :
      Turn d op ({ d with tickets := t :: d.tickets }, .awaited (.ok t))
  | descended {table : Correlator} (h : d.table.Descends table) {answer : Answer}
      (hr : ∀ r ∈ answer.reports, d.Holds r.serial) : Turn d op ({ d with table := table }, answer)

/-- An operation that tells nothing and makes nothing. -/
private theorem Turn.silent {d : Desk} {op : Op} {table : Correlator} {answer : Answer}
    (hr : answer.reports = []) (h : d.table.Descends table) :
    d.Turn op ({ d with table := table }, answer) := by
  refine .descended h ?_
  intro r hmem
  rw [hr] at hmem
  cases hmem

/-- Every operation does one of these. -/
theorem turn (d : Desk) (op : Op) : d.Turn op (d.step op) := by
  cases op with
  | initiate seconds p stage l =>
    have h := d.table.initiate_initiated seconds p stage l
    simp only [step]
    generalize d.table.initiate seconds p stage l = result at h
    cases h with
    -- nothing is kept of an interaction that is refused or has no replies
    | refused => exact .silent rfl (.refl _)
    | unkept a => exact .silent rfl (.allocator _ a)
    -- an exchange that starts at a stage is under way from it
    | added a hstate hfree =>
      obtain ⟨s, rfl⟩ := ReplyState.exists_stage_of_initial hstate
      exact .added a hfree rfl (ReplyState.underWay_of_initial hstate) rfl
  | resume p last id l =>
    have h := d.table.resume_resumed p last id l
    simp only [step]
    generalize d.table.resume p last id l = result at h
    cases h with
    | refused => exact .silent rfl (.refl _)
    | added hstate hfree =>
      exact .added d.table.allocator hfree rfl (ReplyState.resume_eq_ok_iff.1 hstate) rfl
  | receive m =>
    have h := Correlator.Descends.receive d.table m
    have hholds (r : Report) (hr : (d.table.receive m).2 = .ok (some r)) := holds_of_receive hr
    simp only [step]
    generalize d.table.receive m = result at h hholds
    obtain ⟨table, answer⟩ := result
    refine .descended h ?_
    intro r hr
    cases answer with
    | error failure => cases hr
    -- only a reply that is accepted is reported
    | ok report =>
      have hreport : report = some r := Option.mem_toList.1 hr
      exact hholds r (by rw [hreport])
  | fail now header failure =>
    have h := Correlator.Descends.fail d.table now header failure
    have hholds (r : Report) (hr : (d.table.fail now header failure).2 = some r) :=
      holds_of_fail hr
    simp only [step]
    generalize d.table.fail now header failure = result at h hholds
    obtain ⟨table, report⟩ := result
    exact .descended h fun r hr => hholds r (Option.mem_toList.1 hr)
  | abandon id => exact .silent rfl (.erase ..)
  | shutdown now =>
    have h := Correlator.Descends.shutdown d.table now
    have hholds (r : Report) (hr : r ∈ (d.table.shutdown now).2) := holds_of_shutdown hr
    simp only [step]
    generalize d.table.shutdown now = result at h hholds
    exact .descended h hholds
  | await id =>
    simp only [step]
    split
    · next t ht => exact .awaited ht
    · exact .silent rfl (.refl _)
  | collect t =>
    simp only [step]
    split
    · -- an outcome was taken, or there is none yet
      split
      · next outcome table hc => exact .silent rfl (.collect hc)
      · exact .silent rfl (.refl _)
    · exact .silent rfl (.refl _)
  | expire t milliseconds =>
    simp only [step]
    split
    · exact .silent rfl (.release ..)
    · exact .silent rfl (.refl _)

/-- Soundness is kept by every operation. -/
theorem Sound.step {d : Desk} (h : d.Sound) (op : Op) : (d.step op).1.Sound := by
  -- by what the operation does to the table and the tickets
  have hturn := d.turn op
  generalize d.step op = result at hturn
  cases hturn with
  | added a => exact h.add a ..
  | awaited ht => exact h.await ht
  | descended hd => exact h.of_descends hd rfl

/-- Every desk that an instance comes to is sound. -/
theorem Sound.after {d : Desk} (h : d.Sound) (ops : List Op) : (d.after ops).Sound := by
  induction ops generalizing d with
  | nil => exact h
  | cons op ops ih => exact ih (h.step op)

/-- The number of exchanges made never falls. -/
theorem made_le_step (d : Desk) (op : Op) : d.table.made ≤ (d.step op).1.table.made := by
  have hturn := d.turn op
  generalize d.step op = result at hturn
  cases hturn with
  | added a => exact Nat.le_succ _
  | awaited ht => exact Nat.le_refl _
  | descended hd => exact Nat.le_of_eq hd.1.symm

/-- Neither does it fall during a run. -/
theorem made_le_after (d : Desk) (ops : List Op) : d.table.made ≤ (d.after ops).table.made := by
  induction ops generalizing d with
  | nil => exact Nat.le_refl _
  | cons op ops ih => exact Nat.le_trans (d.made_le_step op) (ih _)

/-- What is pending among descendants is not new. -/
private theorem Sound.serial_ne_made {d : Desk} (hd : d.Sound) {c : Correlator}
    (h : d.table.Descends c)
    {id : TransactionId} {x : Exchange} (hx : c.exchanges.get? id = some x) :
    x.serial ≠ d.table.made := by
  obtain ⟨st, hbefore⟩ := h.2 id x hx
  have hlt := hd.serial_lt hbefore
  exact Nat.ne_of_lt hlt

/-- A new exchange was opened, is under way from the stage it was opened at, and nothing is told
    yet. -/
theorem opened {d : Desk} (hd : d.Sound) {op : Op} {id : TransactionId} {x : Exchange}
    (hx : (d.step op).1.table.exchanges.get? id = some x) (hnew : x.serial = d.table.made) :
    ∃ s, op.opens? = some (x.pattern, s, x.listener) ∧ ReplyState.UnderWay x.pattern s x.state ∧
      (d.step op).2.reports = [] := by
  have hturn := d.turn op
  generalize d.step op = result at hturn hx
  cases hturn with
  | added a _ hopens hu hr =>
    simp only [Correlator.add_get?] at hx
    split at hx
    · cases hx
      exact ⟨_, hopens, hu, hr⟩
    · -- the exchanges that were there before have smaller serial numbers
      exact absurd hnew (hd.serial_ne_made (.refl _) hx)
  | awaited => exact absurd hnew (hd.serial_ne_made (.refl _) hx)
  | descended h => exact absurd hnew (hd.serial_ne_made h hx)

/-- An exchange that is pending after an operation was pending before, or is new under an id that
    was free. -/
theorem pending_or_new (d : Desk) (op : Op) {id : TransactionId} {y : Exchange}
    (hy : (d.step op).1.table.exchanges.get? id = some y) :
    (∃ x, d.table.exchanges.get? id = some x ∧ x.serial = y.serial) ∨
      (d.table.exchanges.get? id = none ∧ y.serial = d.table.made) := by
  have hturn := d.turn op
  generalize d.step op = result at hturn hy
  cases hturn with
  | added a hfree =>
    simp only [Correlator.add_get?] at hy
    split at hy
    · next heq =>
      subst heq
      cases hy
      exact .inr ⟨hfree, rfl⟩
    · exact .inl ⟨y, hy, rfl⟩
  | awaited => exact .inl ⟨y, hy, rfl⟩
  | descended h =>
    -- the exchange was pending, in another state perhaps
    obtain ⟨st, hx⟩ := h.2 _ _ hy
    exact .inl ⟨_, hx, rfl⟩

/-- An exchange that has left the table does not come back, and nothing more is told of it. -/
theorem step_of_not_holds {d : Desk} {n : Nat} (hlt : n < d.table.made) (hgone : ¬ d.Holds n)
    (op : Op) : ¬ (d.step op).1.Holds n ∧ (d.step op).2.reportsOn n = [] := by
  have hturn := d.turn op
  generalize d.step op = result at hturn
  cases hturn with
  | added a _ _ _ hr =>
    refine ⟨?_, by simp [Answer.reportsOn, hr]⟩
    rintro ⟨id, x, hx, rfl⟩
    -- the new exchange has a new serial number, the others were there before
    simp only [Correlator.add_get?] at hx
    split at hx
    · cases hx
      exact Nat.lt_irrefl _ hlt
    · exact hgone ⟨id, x, hx, rfl⟩
  | awaited => exact ⟨hgone, rfl⟩
  | descended hd hr =>
    refine ⟨?_, ?_⟩
    · rintro ⟨id, x, hx, rfl⟩
      obtain ⟨st, hbefore⟩ := hd.2 id x hx
      exact hgone ⟨id, _, hbefore, rfl⟩
    · -- a report for it would be for something that was pending before
      refine List.filter_eq_nil_iff.2 ?_
      intro r hmem heq
      exact hgone (eq_of_beq heq ▸ hr r hmem)

/-- The same for a whole run. -/
theorem told_of_not_holds {d : Desk} {n : Nat} (hlt : n < d.table.made) (hgone : ¬ d.Holds n)
    (ops : List Op) : ¬ (d.after ops).Holds n ∧ d.told n ops = [] := by
  induction ops generalizing d with
  | nil => exact ⟨hgone, rfl⟩
  | cons op ops ih =>
    -- neither this operation nor a later one brings it back
    obtain ⟨hgone, hr⟩ := step_of_not_holds hlt hgone op
    obtain ⟨hlast, htold⟩ := ih (Nat.lt_of_lt_of_le hlt (d.made_le_step op)) hgone
    exact ⟨hlast, by simp [told, hr, htold]⟩

end Desk

end Mal
