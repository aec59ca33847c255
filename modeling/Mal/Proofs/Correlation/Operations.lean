import Mal.Correlation.Correlator
import Mal.Proofs.Correlation.ReplyOrder

/-!
# What one operation does to a correlator

Each operation looks up an exchange and then goes one of a few ways. For replies and errors these
ways are listed, with everything they give back, in `Correlator.Received` and `Correlator.Failed`;
later proofs take the cases of these instead of opening the operations.

No operation but `initiate` and `resume` brings in an exchange: what is in the table afterwards was
there before, in another state at most (`Correlator.Descends`).

## Key results

- `receive_received`, `fail_failed`: replies and errors go one of the ways listed
- `mem_shutdown`, `shutdown_filter_serial`: whom a shutdown reports to, and that it does so once
- `release_get?`: a ticket releases nothing but the exchange it was given for
- `Descends`, and that every operation on pending exchanges leads to a descendant
-/

namespace Mal

namespace Correlator

/-! ## Small facts about the parts -/

@[simp] theorem post_exchanges (c : Correlator) (n : Nat) (d : Delivery) :
    (c.post n d).exchanges = c.exchanges := rfl

@[simp] theorem post_made (c : Correlator) (n : Nat) (d : Delivery) :
    (c.post n d).made = c.made := rfl

/-- What is found after an exchange was added. -/
theorem add_get? (c : Correlator) (id id' : TransactionId) (p : Pattern) (st : ReplyState)
    (l : Option Listener) :
    (c.add id p st l).exchanges.get? id' =
      if id = id' then some ⟨c.made, p, st, l⟩ else c.exchanges.get? id' :=
  Directory.get?_put ..

/-- A ticket releases the exchange it was given for and nothing else. -/
theorem release_get? (c : Correlator) (t : Ticket) (id : TransactionId) :
    (c.release t).exchanges.get? id =
      (c.exchanges.get? id).filter fun x =>
        !(decide (id = t.transaction) && x.serial == t.serial) :=
  Directory.get?_eraseIf ..

/-! ## Starting -/

/-- The ids that are not contained are those that nothing is found under. -/
theorem contains_eq_false_iff {c : Correlator} {id : TransactionId} :
    c.contains id = false ↔ c.exchanges.get? id = none := by
  simp [contains, Directory.contains]

/-- The ways in which an interaction is started, each with the correlator afterwards and the
    answer. -/
inductive Initiated (c : Correlator) (p : Pattern) (stage : Option Stage) (l : Option Listener) :
    Correlator × Except Failure TransactionId → Prop where
  | refused (failure : Failure) : Initiated c p stage l (c, .error failure)
  /-- Nothing is kept of an interaction without replies. -/
  | unkept (a : Allocator) (id : TransactionId)
      (hstate : ReplyState.initial p stage = .ok none) :
      Initiated c p stage l ({ c with allocator := a }, .ok id)
  | added (a : Allocator) {id : TransactionId} {st : ReplyState}
      (hstate : ReplyState.initial p stage = .ok (some st)) (hfree : c.exchanges.get? id = none) :
      Initiated c p stage l ({ c with allocator := a }.add id p st l, .ok id)

/-- An interaction is started in one of the ways listed. -/
theorem initiate_initiated (c : Correlator) (seconds : UInt64) (p : Pattern)
    (stage : Option Stage) (l : Option Listener) :
    Initiated c p stage l (c.initiate seconds p stage l) := by
  unfold initiate
  split
  · -- the pattern has no such first stage
    exact .refused _
  · next state? hstate =>
    split
    · -- no id is free
      exact .refused _
    · next id a hnext =>
      -- an id that was found is free, which is what the table needs to know
      have hfree : c.exchanges.get? id = none :=
        contains_eq_false_iff.1 (Allocator.not_inUse_of_search hnext)
      cases state? with
      | none => exact .unkept a id hstate
      | some st => exact .added a hstate hfree

/-- An interaction that is started takes the next free id, and is kept if it has replies. -/
theorem initiate_eq_ok {c c' : Correlator} {seconds : UInt64} {p : Pattern} {stage : Option Stage}
    {l : Option Listener} {id : TransactionId}
    (h : c.initiate seconds p stage l = (c', .ok id)) :
    ∃ a state?, ReplyState.initial p stage = .ok state? ∧
      c.allocator.next (fun _ => seconds) c.contains = some (id, a) ∧
      c' = match state? with
        | none => { c with allocator := a }
        | some st => { c with allocator := a }.add id p st l := by
  unfold initiate at h
  split at h
  · cases h
  · next state? hstate =>
    split at h
    · cases h
    · next id' a hnext =>
      -- with replies to come the exchange is added, else only the allocator has moved
      cases state? with
      | none | some st =>
        cases h
        exact ⟨a, _, hstate, hnext, rfl⟩

/-- An interaction that is not started leaves no trace. -/
theorem initiate_eq_error {c c' : Correlator} {seconds : UInt64} {p : Pattern}
    {stage : Option Stage} {l : Option Listener} {failure : Failure}
    (h : c.initiate seconds p stage l = (c', .error failure)) : c' = c := by
  have hinitiated := c.initiate_initiated seconds p stage l
  rw [h] at hinitiated
  cases hinitiated
  rfl

/-- The ways in which an interaction is taken over, each with the correlator afterwards and the
    answer. -/
inductive Resumed (c : Correlator) (p : Pattern) (last : Stage) (id : TransactionId)
    (l : Listener) : Correlator × Except Failure Unit → Prop where
  | refused (failure : Failure) : Resumed c p last id l (c, .error failure)
  | added {st : ReplyState} (hstate : ReplyState.resume p last = .ok st)
      (hfree : c.exchanges.get? id = none) :
      Resumed c p last id l (c.add id p st (some l), .ok ())

/-- An interaction is taken over in one of the ways listed. -/
theorem resume_resumed (c : Correlator) (p : Pattern) (last : Stage) (id : TransactionId)
    (l : Listener) : Resumed c p last id l (c.resume p last id l) := by
  unfold resume
  split
  · -- the pattern is not resumed there
    exact .refused _
  · exact .refused _
  · next st hstate =>
    cases hin : c.contains id with
    -- the id is in use
    | true => exact .refused _
    | false => exact .added hstate (contains_eq_false_iff.1 hin)

/-! ## Replies -/

/-- What a waiter gets of a message: its error, if it is flagged as one. -/
def waited (m : Message) : Except Failure Message :=
  match m.error? with
  | some error => .error (.standard error)
  | none => .ok m

/-- The ways in which a reply is taken in, each with the correlator afterwards and the answer. -/
inductive Received (c : Correlator) (m : Message) :
    Correlator × Except Failure (Option Report) → Prop where
  /-- Nothing is pending under the message's id. -/
  | dropped (h : ∀ id, m.header.transaction = some id → c.exchanges.get? id = none) :
      Received c m (c, .ok none)
  | refused {id : TransactionId} {x : Exchange} {failure : Failure}
      (hid : m.header.transaction = some id) (hx : c.exchanges.get? id = some x)
      (hstate : x.state.receive m.header = .error failure) : Received c m (c, .error failure)
  | posted {id : TransactionId} {x : Exchange} {next : ReplyState}
      (hid : m.header.transaction = some id) (hx : c.exchanges.get? id = some x)
      (hstate : x.state.receive m.header = .ok next) (hl : x.listener = none) :
      Received c m
        (({ c with exchanges := c.exchanges.put id { x with state := next } }).post x.serial
          ⟨waited m, next.isFinished⟩, .ok none)
  /-- A reply on the way is reported. -/
  | passed {id : TransactionId} {x : Exchange} {next : ReplyState} {l : Listener}
      (hid : m.header.transaction = some id) (hx : c.exchanges.get? id = some x)
      (hstate : x.state.receive m.header = .ok next) (hl : x.listener = some l)
      (hopen : next.isFinished = false) :
      Received c m
        ({ c with exchanges := c.exchanges.put id { x with state := next } },
          .ok (some ⟨x.serial, l, .ofMessage m⟩))
  /-- The last reply is reported, and the exchange leaves the table. -/
  | completed {id : TransactionId} {x : Exchange} {next : ReplyState} {l : Listener}
      (hid : m.header.transaction = some id) (hx : c.exchanges.get? id = some x)
      (hstate : x.state.receive m.header = .ok next) (hl : x.listener = some l)
      (hover : next.isFinished = true) :
      Received c m
        ({ c with exchanges := c.exchanges.erase id }, .ok (some ⟨x.serial, l, .ofMessage m⟩))

/-- A reply is taken in in one of the ways listed. -/
theorem receive_received (c : Correlator) (m : Message) : Received c m (c.receive m) := by
  unfold receive
  split
  · -- the message has no transaction
    next hid => exact .dropped (by simp [hid])
  · next id hid =>
    split
    · -- nothing is pending under it
      next hx => exact .dropped (by simp [hid, hx])
    · next x hx =>
      split
      · -- a reply that is not expected changes nothing
        next failure hstate => exact .refused hid hx hstate
      · next next hstate =>
        split
        · -- without a listener it goes to the mailbox
          next hl => exact .posted hid hx hstate hl
        · next l hl =>
          cases hover : next.isFinished with
          -- the last reply takes the exchange out of the table, the others leave it there
          | false => exact .passed hid hx hstate hl hover
          | true => exact .completed hid hx hstate hl hover

/-! ## Errors -/

/-- The ways in which an error is taken in, each with the correlator afterwards and the report. -/
inductive Failed (c : Correlator) (now : UInt64) (header : Header) (failure : Failure) :
    Correlator × Option Report → Prop where
  /-- Nothing is pending under the header's id, or all its outcomes have arrived. -/
  | dropped (h : ∀ id x, header.transaction = some id → c.exchanges.get? id = some x →
      x.state.pendingStage = none) : Failed c now header failure (c, none)
  | posted {id : TransactionId} {x : Exchange} {stage : Stage}
      (hid : header.transaction = some id) (hx : c.exchanges.get? id = some x)
      (hstage : x.state.pendingStage = some stage) (hl : x.listener = none) :
      Failed c now header failure
        (({ c with exchanges := c.exchanges.put id { x with state := x.state.ended } }).post
          x.serial ⟨.error failure, true⟩, none)
  | reported {id : TransactionId} {x : Exchange} {stage : Stage} {l : Listener}
      (hid : header.transaction = some id) (hx : c.exchanges.get? id = some x)
      (hstage : x.state.pendingStage = some stage) (hl : x.listener = some l) :
      Failed c now header failure
        ({ c with exchanges := c.exchanges.erase id },
          some ⟨x.serial, l, .error (errorHeader now id x stage (some header))
            failure.standardError⟩)

/-- An error is taken in in one of the ways listed. -/
theorem fail_failed (c : Correlator) (now : UInt64) (header : Header) (failure : Failure) :
    Failed c now header failure (c.fail now header failure) := by
  unfold Correlator.fail
  split
  · next hid => exact .dropped (by simp [hid])
  · next id hid =>
    split
    · next hx =>
      refine .dropped ?_
      intro id' x' hid' hx'
      rw [hid] at hid'
      cases hid'
      rw [hx] at hx'
      cases hx'
    · next x hx =>
      split
      · next hnone =>
        -- an exchange that is over awaits no stage
        refine .dropped ?_
        intro id' x' hid' hx'
        rw [hid] at hid'
        cases hid'
        rw [hx] at hx'
        cases hx'
        simpa [ReplyState.fail] using hnone
      · next stage state hsome =>
        obtain ⟨_, hstage, hpair⟩ := Option.map_eq_some_iff.1 hsome
        cases hpair
        split
        · next hl => exact .posted hid hx hstage hl
        · next l hl =>
          simp only [errorReport, hl, Option.map_some]
          exact .reported hid hx hstage hl

/-- An error reaches the listener of the exchange that is pending under its id, and takes the
    exchange off the table. -/
theorem fail_of_listened {c : Correlator} {now : UInt64} {h : Header} {failure : Failure}
    {id : TransactionId} {x : Exchange} {stage : Stage} {l : Listener}
    (hid : h.transaction = some id) (hx : c.exchanges.get? id = some x)
    (hstage : x.state.pendingStage = some stage) (hl : x.listener = some l) :
    c.fail now h failure =
      ({ c with exchanges := c.exchanges.erase id },
        some ⟨x.serial, l,
          .error (errorHeader now id x stage (some h)) failure.standardError⟩) := by
  simp [fail, ReplyState.fail, errorReport, hid, hx, hstage, hl]

/-! ## Shutdown -/

/-- The report of a shutdown to an exchange's listener, if the exchange has one and is not over. -/
def shutdownReport? (now : UInt64) (id : TransactionId) (x : Exchange) : Option Report :=
  x.state.pendingStage.bind fun stage => errorReport now id x stage none closed

/-- A shutdown reports to the pending exchanges, one after another. -/
theorem shutdown_reports (c : Correlator) (now : UInt64) :
    (c.shutdown now).2 = c.exchanges.entries.filterMap fun e => shutdownReport? now e.1 e.2 := by
  simp only [shutdown, List.filterMap_filterMap]
  congr 1
  funext ⟨id, x⟩
  simp only [ReplyState.fail, shutdownReport?]
  cases x.state.pendingStage <;> rfl

/-- A shutdown leaves nothing pending. -/
private theorem shutdown_exchanges (c : Correlator) (now : UInt64) :
    (c.shutdown now).1.exchanges = .empty := rfl

/-- Filling mailboxes takes no transaction id. -/
private theorem foldl_post_allocator {α : Type} (serial : α → Nat) (d : Delivery) (l : List α)
    (c : Correlator) :
    (l.foldl (fun c e => c.post (serial e) d) c).allocator = c.allocator := by
  induction l generalizing c with
  | nil => rfl
  | cons e rest ih =>
    rw [List.foldl_cons, ih]
    rfl

/-- Neither does a shutdown. -/
theorem shutdown_allocator (c : Correlator) (now : UInt64) :
    (c.shutdown now).1.allocator = c.allocator :=
  foldl_post_allocator (fun e : TransactionId × Exchange × Stage => e.2.1.serial) ..

/-- Filling mailboxes makes no exchange. -/
private theorem foldl_post_made {α : Type} (serial : α → Nat) (d : Delivery) (l : List α)
    (c : Correlator) : (l.foldl (fun c e => c.post (serial e) d) c).made = c.made := by
  induction l generalizing c with
  | nil => rfl
  | cons e rest ih => rw [List.foldl_cons, ih, post_made]

/-- A shutdown makes no exchange. -/
theorem shutdown_made (c : Correlator) (now : UInt64) : (c.shutdown now).1.made = c.made :=
  foldl_post_made (fun e : TransactionId × Exchange × Stage => e.2.1.serial) ..

/-- What a shutdown reports is the closing of the instance, at the stage that is awaited. -/
theorem shutdownReport?_eq_some {now : UInt64} {id : TransactionId} {x : Exchange} {r : Report}
    (h : shutdownReport? now id x = some r) :
    ∃ stage l, x.state.pendingStage = some stage ∧ x.listener = some l ∧
      r = ⟨x.serial, l, .error (errorHeader now id x stage none) closed.standardError⟩ := by
  obtain ⟨stage, hstage, hr⟩ := Option.bind_eq_some_iff.1 h
  obtain ⟨l, hl, rfl⟩ := Option.map_eq_some_iff.1 hr
  exact ⟨stage, l, hstage, hl, rfl⟩

/-- Whoever is told of a shutdown had an exchange pending. -/
theorem mem_shutdown {c : Correlator} {now : UInt64} {r : Report} (h : r ∈ (c.shutdown now).2) :
    ∃ id x, c.exchanges.get? id = some x ∧ shutdownReport? now id x = some r := by
  rw [shutdown_reports] at h
  obtain ⟨⟨id, x⟩, hmem, hr⟩ := List.mem_filterMap.1 h
  exact ⟨id, x, (Directory.mem_entries ..).1 hmem, hr⟩

/-- Of an exchange that is pending under one id alone a shutdown reports what there is to report,
    once. -/
theorem shutdown_filter_serial {c : Correlator} {id : TransactionId} {x : Exchange}
    (hx : c.exchanges.get? id = some x)
    (hothers : ∀ id' x', c.exchanges.get? id' = some x' → x'.serial = x.serial → id' = id)
    (now : UInt64) :
    (c.shutdown now).2.filter (·.serial == x.serial) = (shutdownReport? now id x).toList := by
  have hserial : ∀ e : TransactionId × Exchange,
      (shutdownReport? now e.1 e.2).filter (·.serial == x.serial) =
        if e.2.serial == x.serial then shutdownReport? now e.1 e.2 else none := by
    intro e
    -- a report has the serial number of its exchange
    cases hr : shutdownReport? now e.1 e.2 with
    | none => simp
    | some r =>
      obtain ⟨_, _, _, _, rfl⟩ := shutdownReport?_eq_some hr
      rfl
  -- no other exchange has this serial number
  have hsingle : c.exchanges.entries.filter (fun e => e.2.serial == x.serial) = [(id, x)] :=
    Directory.filter_entries_eq_singleton hx (beq_self_eq_true _)
      fun id' x' hx' hp => hothers id' x' hx' (eq_of_beq hp)
  -- filtering the reports by serial number is reporting to the one exchange that has it
  rw [shutdown_reports, List.filter_filterMap]
  simp only [hserial]
  rw [← List.filterMap_filter, hsingle]
  cases hr : shutdownReport? now id x <;> simp [hr]

/-! ## Waiting -/

/-- Whoever collects takes no transaction id. -/
theorem collect_allocator {c c' : Correlator} {t : Ticket} {outcome : Except Failure Message}
    (h : c.collect t = some (outcome, c')) : c'.allocator = c.allocator := by
  unfold collect at h
  split at h
  · cases h
  · cases h
    split <;> rfl

/-- A wait begins for a pending exchange without a listener. -/
theorem await_eq_ok {c : Correlator} {id : TransactionId} {t : Ticket}
    (h : c.await id = .ok t) :
    ∃ x, c.exchanges.get? id = some x ∧ x.listener = none ∧ t = ⟨id, x.serial⟩ := by
  unfold await at h
  split at h
  · cases h
  · -- only an exchange without a listener gives out tickets
    next x hx =>
    split at h
    · cases h
    · next hl =>
      cases h
      exact ⟨x, hx, hl, rfl⟩

/-! ## Descendants -/

/-- What is pending in `after` was pending before, in another state at most; and nothing was
    made. -/
def Descends (before after : Correlator) : Prop :=
  after.made = before.made ∧
    ∀ id x, after.exchanges.get? id = some x →
      ∃ st, before.exchanges.get? id = some { x with state := st }

namespace Descends

theorem refl (c : Correlator) : Descends c c :=
  ⟨rfl, fun _ x hx => ⟨x.state, hx⟩⟩

/-- The allocator is no part of what is pending. -/
theorem allocator (c : Correlator) (a : Allocator) : Descends c { c with allocator := a } :=
  ⟨rfl, fun _ x hx => ⟨x.state, hx⟩⟩

/-- Nothing comes in where a new state is put in the place of an old one. -/
private theorem put {c : Correlator} {id : TransactionId} {x : Exchange}
    (hx : c.exchanges.get? id = some x) (st : ReplyState) :
    Descends c { c with exchanges := c.exchanges.put id { x with state := st } } := by
  refine ⟨rfl, ?_⟩
  -- under the other ids the same is found as before
  intro id' x' hx'
  rw [Directory.get?_put] at hx'
  split at hx'
  · next heq =>
    subst heq
    cases hx'
    exact ⟨x.state, hx⟩
  · exact ⟨x'.state, hx'⟩

/-- Neither are the mailboxes. -/
private theorem post {c c' : Correlator} (h : Descends c c') (n : Nat) (d : Delivery) :
    Descends c (c'.post n d) := h

/-- Emptying a place brings nothing in. -/
theorem erase (c : Correlator) (id : TransactionId) :
    Descends c { c with exchanges := c.exchanges.erase id } := by
  refine ⟨rfl, ?_⟩
  intro id' x' hx'
  rw [Directory.get?_erase] at hx'
  -- what is found elsewhere was there before
  split at hx'
  · cases hx'
  · exact ⟨x'.state, hx'⟩

/-- Neither does giving up a ticket. -/
theorem release (c : Correlator) (t : Ticket) : Descends c (c.release t) := by
  refine ⟨rfl, ?_⟩
  intro id' x' hx'
  rw [release_get?] at hx'
  exact ⟨x'.state, (Option.filter_eq_some_iff.1 hx').1⟩

/-- A reply leads to a descendant. -/
theorem receive (c : Correlator) (m : Message) : Descends c (c.receive m).1 := by
  -- by the ways in which a reply is taken in
  have h := c.receive_received m
  generalize c.receive m = result at h
  cases h with
  | dropped | refused => exact refl c
  | posted _ hx => exact (put hx _).post ..
  | passed _ hx => exact put hx _
  | completed => exact erase c _

/-- So does an error. -/
theorem fail (c : Correlator) (now : UInt64) (header : Header) (failure : Failure) :
    Descends c (c.fail now header failure).1 := by
  have h := c.fail_failed now header failure
  generalize c.fail now header failure = result at h
  cases h with
  | dropped => exact refl c
  | posted _ hx => exact (put hx _).post ..
  | reported => exact erase c _

/-- So does a shutdown. -/
theorem shutdown (c : Correlator) (now : UInt64) : Descends c (c.shutdown now).1 := by
  refine ⟨shutdown_made c now, ?_⟩
  intro id x hx
  rw [shutdown_exchanges, Directory.get?_empty] at hx
  cases hx

/-- So does what a waiter takes. -/
theorem collect {c c' : Correlator} {t : Ticket} {outcome : Except Failure Message}
    (h : c.collect t = some (outcome, c')) : Descends c c' := by
  unfold Correlator.collect at h
  split at h
  · -- an empty mailbox gives nothing
    cases h
  · next d rest hbox =>
    cases h
    -- the outcome that ends an exchange releases it as well
    split
    · exact release { c with mailboxes := c.mailboxes.put t.serial rest } t
    · exact refl c

end Descends

end Correlator

end Mal
