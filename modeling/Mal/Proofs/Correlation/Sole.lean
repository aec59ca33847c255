import Mal.Proofs.Correlation.Listened
import Mal.Proofs.Correlation.Table

/-!
# Interactions with one reply

A Submit, a Request and every registration has a single reply, so there is nothing between its start
and its end: the exchange is as it was started, and nothing is in its mailbox, until it is over.
Once it is over nothing more arrives, so whoever waited for it finds in the mailbox what ended it,
however late.

## Key results

- `Desk.awaits_after`: an exchange with one reply during a run
- `Desk.over_after`: an exchange that is over during a run
- `Desk.collected_after`: what a waiter gets, however late
- `Correlator.receive_ended`, `Correlator.fail_ended`: who was concerned, if an exchange is over
-/

namespace Mal

/-- The first reply that is accepted is the last. -/
def ReplyState.IsSole (st : ReplyState) : Prop :=
  ∀ h next, st.receive h = .ok next → next.isFinished = true

theorem ReplyState.isSole_single (stage : Stage) (received : Bool) :
    (ReplyState.single stage received).IsSole := by
  intro h next hnext
  rw [receive_eq_ok_iff] at hnext
  -- after the one stage the state is over, flagged or not
  simp only [accept] at hnext
  split at hnext
  · cases hnext
  · cases hnext
    rfl

theorem ReplyState.isSole_publish (stage : Stage) (received : Bool) :
    (ReplyState.publish stage received).IsSole := by
  intro h next hnext
  rw [receive_eq_ok_iff] at hnext
  simp only [accept] at hnext
  split at hnext
  · cases hnext
  · cases hnext
    rfl

/-- What arrives for such an exchange is the last delivery. -/
private theorem Exchange.terminal_of_isSole {x : Exchange} (hsole : x.state.IsSole)
    {id : TransactionId}
    {op : Desk.Op} {dl : Delivery} (h : x.arrival? id op = some dl) : dl.terminal = true := by
  -- errors and shutdowns end every exchange, and here replies do too
  cases op with
  | receive m =>
    simp only [arrival?] at h
    split at h
    · split at h
      · next next hstate =>
        cases h
        exact hsole _ _ hstate
      · cases h
    · cases h
  | fail now header failure =>
    simp only [arrival?] at h
    split at h <;> cases h
    rfl
  | shutdown now =>
    simp only [arrival?] at h
    split at h <;> cases h
    rfl
  | _ => cases h

/-- Nothing arrives for an exchange that is over. -/
private theorem Exchange.arrival?_of_isFinished {x : Exchange} (hover : x.state.isFinished = true)
    (id : TransactionId) (op : Desk.Op) : x.arrival? id op = none := by
  cases op with
  | receive m =>
    -- an exchange that is over accepts no reply
    cases hstate : x.state.receive m.header with
    | error failure => simp only [arrival?, hstate, ite_self]
    | ok next =>
      rw [ReplyState.isFinished_of_receive hstate] at hover
      cases hover
  | fail | shutdown => simp [arrival?, hover]
  | _ => rfl

/-! ## Exchanges that are over -/

/-- The exchange with this serial number is pending, and its last outcome has not arrived. -/
def Correlator.IsOpen (c : Correlator) (serial : Nat) : Prop :=
  ∃ id x, c.exchanges.get? id = some x ∧ x.serial = serial ∧ x.state.isFinished = false

theorem Correlator.not_isOpen_of_empty {c : Correlator} {serial : Nat} (h : c.exchanges = .empty) :
    ¬ c.IsOpen serial := by
  rintro ⟨id, x, hx, -⟩
  rw [h, Directory.get?_empty] at hx
  cases hx

namespace Desk

variable {d : Desk} {n : Nat}

/-- What is over stays over. -/
theorem not_isOpen_step (hd : d.Sound) (hlt : n < d.table.made) (hover : ¬ d.table.IsOpen n)
    (op : Op) : ¬ (d.step op).1.table.IsOpen n := by
  rintro ⟨id, x', hx', rfl, hopen⟩
  rcases pending_step hd op hx' with ⟨hserial, _⟩ | ⟨x, hx, hremains⟩
  · -- the exchange is not new, its serial number is smaller
    omega
  · cases hremains with
    -- it is open now, so it was open before
    | same => exact hover ⟨id, x', hx, rfl, hopen⟩
    | moved hbefore => exact hover ⟨id, x, hx, rfl, hbefore⟩

theorem arriving_of_not_isOpen (hover : ¬ d.table.IsOpen n) (op : Op) : d.arriving n op = [] := by
  refine arriving_eq_nil ?_
  intro id x hx hn _
  cases hstate : x.state.isFinished with
  | false => exact absurd ⟨id, x, hx, hn, hstate⟩ hover
  | true => exact x.arrival?_of_isFinished hstate id op

/-- During a run nothing comes into the mailbox of an exchange that is over. -/
theorem over_after (hd : d.Sound) (hlt : n < d.table.made) (hover : ¬ d.table.IsOpen n)
    (ops : List Op) :
    ¬ (d.after ops).table.IsOpen n ∧ (d.after ops).table.mailbox n <:+ d.table.mailbox n := by
  induction ops generalizing d with
  | nil => exact ⟨hover, List.suffix_rfl⟩
  | cons op ops ih =>
    -- nothing comes in, so what is left is a part of what was there
    have hstep := mailbox_step hd op n
    rw [arriving_of_not_isOpen hover, List.append_nil] at hstep
    obtain ⟨hlast, hrest⟩ := ih (hd.step op) (Nat.lt_of_lt_of_le hlt (d.made_le_step op))
      (not_isOpen_step hd hlt hover op)
    exact ⟨hlast, hrest.trans ⟨d.taking n op, hstep⟩⟩

/-! ## Exchanges that wait for their one reply -/

/-- The exchange `x` under `id` waits for its one reply: it is pending, and if it has no listener,
    nothing is in its mailbox. -/
structure Awaits (d : Desk) (id : TransactionId) (x : Exchange) : Prop where
  pending : d.table.exchanges.get? id = some x
  isOpen : x.state.isFinished = false
  isSole : x.state.IsSole
  empty : x.listener = none → d.table.mailbox x.serial = []

variable {id : TransactionId} {x : Exchange}

/-- It goes on waiting after an operation, or it is over. -/
private theorem awaits_step (hd : d.Sound) (h : d.Awaits id x) (op : Op) :
    (d.step op).1.Awaits id x ∨ ¬ (d.step op).1.table.IsOpen x.serial := by
  cases hl : x.listener with
  | some l =>
    -- a listened exchange leaves the table when it is over
    have hover (hgone : ¬ (d.step op).1.Holds x.serial) :
        ¬ (d.step op).1.table.IsOpen x.serial :=
      fun ⟨id', x', hx', hserial, _⟩ => hgone ⟨id', x', hx', hserial⟩
    cases fate hd h.pending hl h.isOpen op with
    -- the operation was not about it, and it waits as before
    | kept _ hx => exact .inl ⟨hx, h.isOpen, h.isSole, by simp [hl]⟩
    | passed _ hstate hopen => cases (h.isSole _ _ hstate).symm.trans hopen
    | completed _ _ _ hgone | failed _ _ hgone | abandoned _ hgone => exact .inr (hover hgone)
  -- without a listener an exchange that is over may still be in the table
  | none =>
    by_cases hopen : (d.step op).1.table.IsOpen x.serial
    · obtain ⟨id', x', hx', hserial, hopen⟩ := hopen
      rcases pending_step hd op hx' with ⟨hnew, _⟩ | ⟨x₀, hx₀, hremains⟩
      · exact absurd (hserial.symm.trans hnew) (Nat.ne_of_lt (hd.serial_lt h.pending))
      -- the serial number is that of one exchange
      have hserial₀ : x₀.serial = x.serial := by cases hremains <;> exact hserial
      obtain rfl := hd.serial_inj hx₀ h.pending hserial₀
      obtain rfl : x = x₀ := Option.some.inj (h.pending.symm.trans hx₀)
      have hmailbox := mailbox_step hd op x.serial
      rw [hd.arriving_eq h.pending hl, h.empty hl] at hmailbox
      cases hremains with
      | same ha =>
        rw [ha hl] at hmailbox
        exact .inl ⟨hx', h.isOpen, h.isSole, fun _ => (List.append_eq_nil_iff.1 hmailbox).2⟩
      | moved _ _ _ _ ha =>
        -- the one reply is the last
        obtain ⟨dl, harrival, hterminal⟩ := ha hl
        have hlast := Exchange.terminal_of_isSole h.isSole harrival
        cases hlast.symm.trans (hterminal.trans hopen)
    · exact .inr hopen

/-- So it does during a run. -/
theorem awaits_after (hd : d.Sound) (h : d.Awaits id x) (ops : List Op) :
    (d.after ops).Awaits id x ∨ ¬ (d.after ops).table.IsOpen x.serial := by
  induction ops generalizing d with
  | nil => exact .inl h
  | cons op ops ih =>
    rcases awaits_step hd h op with hawaits | hover
    · exact ih (hd.step op) hawaits
    · -- once it is over, the rest of the run leaves it so
      have hlt : x.serial < (d.step op).1.table.made :=
        Nat.lt_of_lt_of_le (hd.serial_lt h.pending) (d.made_le_step op)
      exact .inr (over_after (hd.step op) hlt hover ops).1

/-- When its one reply has arrived and nobody listens, the reply is what is collected, however
    late. -/
theorem collected_after (hd : d.Sound) (h : d.Awaits id x) (hl : x.listener = none) {op : Op}
    {dl : Delivery} (htaking : d.taking x.serial op = []) (harrival : x.arrival? id op = some dl)
    {later : List Op} {outcome : Except Failure Message} {k : Correlator}
    (hcollect : ((d.step op).1.after later).table.collect ⟨id, x.serial⟩ = some (outcome, k)) :
    outcome = dl.outcome := by
  -- the reply is the only thing in the mailbox, and nothing is put there any more
  have hmailbox : (d.step op).1.table.mailbox x.serial = [dl] := by
    have hstep := mailbox_step hd op x.serial
    rwa [htaking, h.empty hl, hd.arriving_eq h.pending hl, harrival] at hstep
  have hover : ¬ (d.step op).1.table.IsOpen x.serial := by
    refine (awaits_step hd h op).resolve_left fun hstill => ?_
    rw [hstill.empty hl] at hmailbox
    cases hmailbox
  have hlt : x.serial < (d.step op).1.table.made :=
    Nat.lt_of_lt_of_le (hd.serial_lt h.pending) (d.made_le_step op)
  have hsuffix := (over_after (hd.step op) hlt hover later).2
  rw [hmailbox] at hsuffix
  rcases ((d.step op).1.after later).table.collect_cases ⟨id, x.serial⟩ with
    ⟨-, hnone⟩ | ⟨first, rest, c, hbox, hsome, -⟩
  · rw [hcollect] at hnone
    cases hnone
  · -- what is collected is left over from that mailbox
    have hmem : first ∈ ((d.step op).1.after later).table.mailbox x.serial := by
      rw [hbox]
      exact .head _
    obtain rfl := List.mem_singleton.1 (hsuffix.subset hmem)
    rw [hcollect] at hsome
    cases hsome
    rfl

end Desk

/-! ## Who was concerned -/

namespace Correlator

variable {c : Correlator} {id : TransactionId} {x : Exchange}

/-- If an exchange is over after a message came in, the message was its last reply. -/
theorem receive_ended {m : Message} (hx : c.exchanges.get? id = some x)
    (hopen : x.state.isFinished = false) (hover : ¬ (c.receive m).1.IsOpen x.serial) :
    m.header.transaction = some id ∧
      ∃ next, x.state.receive m.header = .ok next ∧ next.isFinished = true := by
  have hreceived := c.receive_received m
  generalize c.receive m = result at hreceived hover
  -- a message for another exchange leaves this one open
  cases hreceived with
  | dropped | refused => exact absurd ⟨id, x, hx, rfl, hopen⟩ hover
  | @posted id' x' next hid hx' hstate | @passed id' x' next _ hid hx' hstate =>
    by_cases hne : id' = id
    · subst hne
      obtain rfl : x = x' := Option.some.inj (hx.symm.trans hx')
      cases hfinished : next.isFinished with
      | false =>
        have hput := Directory.get?_put_self c.exchanges id' { x with state := next }
        exact absurd ⟨id', _, hput, rfl, hfinished⟩ hover
      | true => exact ⟨hid, next, hstate, hfinished⟩
    · exact absurd ⟨id, x, by simp [Directory.get?_put, hne, hx], rfl, hopen⟩ hover
  | @completed id' x' next _ hid hx' hstate _ hfinished =>
    -- this one can leave the table only if the message was for it
    by_cases hne : id = id'
    · subst hne
      obtain rfl : x = x' := Option.some.inj (hx.symm.trans hx')
      exact ⟨hid, next, hstate, hfinished⟩
    · exact absurd ⟨id, x, by simp [Directory.get?_erase, hne, hx], rfl, hopen⟩ hover

/-- If an exchange is over after an error came in, the error was about its first message. -/
theorem fail_ended {now : UInt64} {h : Header} {failure : Failure}
    (hx : c.exchanges.get? id = some x) (hopen : x.state.isFinished = false)
    (hover : ¬ (c.fail now h failure).1.IsOpen x.serial) : h.transaction = some id := by
  have hfailed := c.fail_failed now h failure
  generalize c.fail now h failure = result at hfailed hover
  cases hfailed with
  | dropped => exact absurd ⟨id, x, hx, rfl, hopen⟩ hover
  | @posted id' x' stage hid =>
    by_cases hne : id' = id
    · rw [hid, hne]
    · exact absurd ⟨id, x, by simp [Directory.get?_put, hne, hx], rfl, hopen⟩ hover
  | @reported id' x' stage l hid =>
    by_cases hne : id = id'
    · rw [hid, hne]
    · exact absurd ⟨id, x, by simp [Directory.get?_erase, hne, hx], rfl, hopen⟩ hover

end Correlator

end Mal
