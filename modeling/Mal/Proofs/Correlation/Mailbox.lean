import Mal.Proofs.Correlation.Desk

/-!
# Mailboxes are queues

What an operation accepts for a waited exchange goes to the end of the exchange's mailbox, what a
waiter collects comes off the front, and nothing else touches a mailbox. `Exchange.arrival?` says
what an operation has for an exchange, without looking at any mailbox; `Desk.returned` reads what
waiters get off the answers of a run. The two are brought together by one law of conservation: what
was returned, followed by what still waits, is what waited before, followed by what has arrived.

## Key results

- `mailbox_step`: what one operation does to a mailbox
- `returned_append_mailbox`: what is returned in a run, and what is left
-/

namespace Mal

/-! ## Mailboxes of a correlator -/

namespace Correlator

theorem mailbox_post (c : Correlator) (n k : Nat) (d : Delivery) :
    (c.post n d).mailbox k = if n = k then c.mailbox k ++ [d] else c.mailbox k := by
  unfold mailbox post
  rw [Directory.get?_put]
  split
  · next heq =>
    subst heq
    rfl
  · rfl

/-- Filling several mailboxes fills each as often as it is named. -/
private theorem mailbox_foldl_post {α : Type} (serial : α → Nat) (d : Delivery) (l : List α)
    (c : Correlator) (k : Nat) :
    (l.foldl (fun c e => c.post (serial e) d) c).mailbox k =
      c.mailbox k ++ (l.filter fun e => serial e == k).map fun _ => d := by
  induction l generalizing c with
  | nil => simp
  | cons e rest ih =>
    rw [List.foldl_cons, ih, mailbox_post]
    -- each element that names the mailbox adds one delivery behind those before
    by_cases h : serial e = k
    · simp [h]
    · simp [h]

/-- Nothing is collected from an empty mailbox; from another one the oldest delivery is, and the
    exchange is released if that was the last. -/
theorem collect_cases (c : Correlator) (t : Ticket) :
    (c.mailbox t.serial = [] ∧ c.collect t = none) ∨
      ∃ d rest c', c.mailbox t.serial = d :: rest ∧ c.collect t = some (d.outcome, c') ∧
        (∀ k, c'.mailbox k = if t.serial = k then rest else c.mailbox k) ∧
        c'.exchanges = if d.terminal then (c.release t).exchanges else c.exchanges := by
  unfold collect
  split
  · next hbox => exact .inl ⟨hbox, rfl⟩
  · next d rest hbox =>
    refine .inr ⟨d, rest, _, hbox, rfl, ?_, ?_⟩
    · -- collecting takes the delivery away first, and then perhaps the exchange
      intro k
      have hput : ({ c with mailboxes := c.mailboxes.put t.serial rest } : Correlator).mailbox k =
          if t.serial = k then rest else c.mailbox k := by
        unfold mailbox
        rw [Directory.get?_put]
        split <;> rfl
      split
      · exact hput
      · exact hput
    · split <;> rfl

end Correlator

/-! ## What operations bring -/

/-- What an operation has for the waiter of the exchange `x` under `id`: a reply that the exchange
    accepts, or the error that ends it. -/
def Exchange.arrival? (x : Exchange) (id : TransactionId) : Desk.Op → Option Delivery
  | .receive m =>
    if m.header.transaction = some id then
      match x.state.receive m.header with
      | .ok next => some ⟨Correlator.waited m, next.isFinished⟩
      | .error _ => none
    else none
  | .fail _ header failure =>
    if header.transaction = some id ∧ x.state.isFinished = false then some ⟨.error failure, true⟩
    else none
  | .shutdown _ =>
    if x.state.isFinished = false then some ⟨.error Correlator.closed, true⟩ else none
  | _ => none

namespace Desk

/-- What an operation brings to a mailbox. -/
def arriving (d : Desk) (n : Nat) (op : Op) : List Delivery :=
  (d.table.exchanges.entries.filter fun e => e.2.serial == n && e.2.listener.isNone).filterMap
    fun e => e.2.arrival? e.1 op

/-- What an operation takes out of a mailbox. -/
def taking (d : Desk) (n : Nat) : Op → List Delivery
  | .collect t =>
    if t ∈ d.tickets ∧ t.serial = n then (d.table.mailbox n).head?.toList else []
  | _ => []

/-- What has arrived for a mailbox during a run. -/
def arrived (d : Desk) (n : Nat) : List Op → List Delivery
  | [] => []
  | op :: ops => d.arriving n op ++ (d.step op).1.arrived n ops

/-- What an operation with this answer returns to a waiter of a mailbox. -/
def Answer.returned? (n : Nat) : Op → Answer → Option (Except Failure Message)
  | .collect t, .collected outcome? => if t.serial = n then outcome? else none
  | _, _ => none

/-- What waiters of a mailbox have been returned during a run, by the answers of the run. -/
def returned (d : Desk) (n : Nat) : List Op → List (Except Failure Message)
  | [] => []
  | op :: ops => ((d.step op).2.returned? n op).toList ++ (d.step op).1.returned n ops

section

variable {d : Desk}

/-- Nothing arrives where no waited exchange has an arrival. -/
theorem arriving_eq_nil {n : Nat} {op : Op}
    (h : ∀ id x, d.table.exchanges.get? id = some x → x.serial = n → x.listener = none →
      x.arrival? id op = none) : d.arriving n op = [] := by
  refine List.filterMap_eq_nil_iff.2 ?_
  rintro ⟨id, x⟩ hmem
  obtain ⟨hentry, hp⟩ := List.mem_filter.1 hmem
  simp only [Bool.and_eq_true, beq_iff_eq, Option.isNone_iff_eq_none] at hp
  exact h id x ((Directory.mem_entries ..).1 hentry) hp.1 hp.2

/-- To the mailbox of a pending exchange comes what the operation has for this exchange. -/
theorem Sound.arriving_eq (hd : d.Sound) {id : TransactionId} {x : Exchange}
    (hx : d.table.exchanges.get? id = some x) (hl : x.listener = none) (op : Op) :
    d.arriving x.serial op = (x.arrival? id op).toList := by
  -- serial numbers tell the exchanges apart
  have hsingle : d.table.exchanges.entries.filter
      (fun e => e.2.serial == x.serial && e.2.listener.isNone) = [(id, x)] := by
    refine Directory.filter_entries_eq_singleton hx (by simp [hl]) ?_
    intro id' x' hx' hp
    simp only [Bool.and_eq_true, beq_iff_eq] at hp
    exact hd.serial_inj hx' hx hp.1
  unfold arriving
  rw [hsingle]
  cases h : x.arrival? id op <;> simp [h]

/-! ## One operation -/

/-- A reply goes to the mailbox of the waited exchange that accepts it. -/
private theorem Sound.mailbox_receive (hd : d.Sound) (m : Message) (n : Nat) :
    (d.table.receive m).1.mailbox n = d.table.mailbox n ++ d.arriving n (.receive m) := by
  -- an exchange under another id has no arrival, so it is enough to look at one exchange
  have hnil (h : ∀ id x, m.header.transaction = some id → d.table.exchanges.get? id = some x →
      x.serial = n → x.listener = none → ∃ failure, x.state.receive m.header = .error failure) :
      d.arriving n (.receive m) = [] := by
    refine arriving_eq_nil ?_
    intro id x hx hn hl
    simp only [Exchange.arrival?]
    split
    · next hid =>
      obtain ⟨failure, hstate⟩ := h id x hid hx hn hl
      rw [hstate]
    · rfl
  have h := d.table.receive_received m
  generalize d.table.receive m = result at h
  cases h with
  -- nothing is pending under the id of the message
  | dropped hnone =>
    rw [hnil, List.append_nil]
    intro id x hid hx
    rw [hnone id hid] at hx
    cases hx
  | @refused id x failure hid hx hstate =>
    rw [hnil, List.append_nil]
    intro id' x' hid' hx' _ _
    obtain rfl := Option.some.inj (hid.symm.trans hid')
    obtain rfl := Option.some.inj (hx.symm.trans hx')
    exact ⟨failure, hstate⟩
  | @posted id x next hid hx hstate hl =>
    rw [Correlator.mailbox_post]
    split
    · -- the mailbox that is asked about is that of the exchange
      next heq =>
      subst heq
      rw [hd.arriving_eq hx hl]
      simp only [Exchange.arrival?, hid, hstate, if_true, Option.toList_some]
      rfl
    · -- the one exchange under the id has another mailbox
      next hne =>
      rw [hnil, List.append_nil]
      · rfl
      · intro id' x' hid' hx' hn _
        obtain rfl := Option.some.inj (hid.symm.trans hid')
        obtain rfl := Option.some.inj (hx.symm.trans hx')
        exact absurd hn hne
  | @passed id x next l hid hx hstate hl | @completed id x next l hid hx hstate hl =>
    -- the one exchange under the id has a listener
    rw [hnil, List.append_nil]
    · rfl
    · intro id' x' hid' hx' _ hl'
      obtain rfl := Option.some.inj (hid.symm.trans hid')
      obtain rfl := Option.some.inj (hx.symm.trans hx')
      rw [hl] at hl'
      cases hl'

/-- So does an error. -/
private theorem Sound.mailbox_fail (hd : d.Sound) (now : UInt64) (header : Header)
    (failure : Failure) (n : Nat) :
    (d.table.fail now header failure).1.mailbox n =
      d.table.mailbox n ++ d.arriving n (.fail now header failure) := by
  have hnil (h : ∀ id x, header.transaction = some id → d.table.exchanges.get? id = some x →
      x.serial = n → x.listener = none → x.state.pendingStage = none) :
      d.arriving n (.fail now header failure) = [] := by
    refine arriving_eq_nil ?_
    intro id x hx hn hl
    refine if_neg ?_
    -- an exchange that awaits nothing takes no error
    rintro ⟨hid, hopen⟩
    rw [ReplyState.isFinished, h id x hid hx hn hl] at hopen
    cases hopen
  have h := d.table.fail_failed now header failure
  generalize d.table.fail now header failure = result at h
  cases h with
  | dropped hnone =>
    rw [hnil, List.append_nil]
    intro id x hid hx _ _
    exact hnone id x hid hx
  | @posted id x stage hid hx hstage hl =>
    have hopen := ReplyState.isFinished_of_pendingStage hstage
    rw [Correlator.mailbox_post]
    split
    · next heq =>
      subst heq
      rw [hd.arriving_eq hx hl]
      simp only [Exchange.arrival?, hid, hopen, and_self, if_true, Option.toList_some]
      rfl
    · next hne =>
      rw [hnil, List.append_nil]
      · rfl
      · intro id' x' hid' hx' hn _
        obtain rfl := Option.some.inj (hid.symm.trans hid')
        obtain rfl := Option.some.inj (hx.symm.trans hx')
        exact absurd hn hne
  | @reported id x stage l hid hx hstage hl =>
    rw [hnil, List.append_nil]
    · rfl
    · intro id' x' hid' hx' _ hl'
      obtain rfl := Option.some.inj (hid.symm.trans hid')
      obtain rfl := Option.some.inj (hx.symm.trans hx')
      rw [hl] at hl'
      cases hl'

/-- A shutdown goes to the mailboxes of all waited exchanges that are not over. -/
theorem mailbox_shutdown (d : Desk) (now : UInt64) (n : Nat) :
    (d.table.shutdown now).1.mailbox n = d.table.mailbox n ++ d.arriving n (.shutdown now) := by
  have hposts := Correlator.mailbox_foldl_post
    (fun e : TransactionId × Exchange × Stage => e.2.1.serial) ⟨.error Correlator.closed, true⟩
  refine (hposts _ d.table n).trans (congrArg (d.table.mailbox n ++ ·) ?_)
  -- both lists are read off the entries one by one
  unfold arriving
  induction d.table.exchanges.entries with
  | nil => rfl
  | cons e rest ih =>
    obtain ⟨id, x⟩ := e
    cases hstage : x.state.pendingStage <;> cases hl : x.listener <;>
      by_cases hn : x.serial = n <;>
      simp_all [ReplyState.fail, ReplyState.isFinished, Exchange.arrival?]

/-- An operation takes at most one delivery. -/
theorem taking_tail {d : Desk} {n : Nat} {op : Op} {dl : Delivery} {rest : List Delivery}
    (h : d.taking n op = dl :: rest) : rest = [] := by
  cases op with
  | collect t =>
    simp only [taking] at h
    split at h
    · cases hhead : (d.table.mailbox n).head? with
      | none =>
        rw [hhead] at h
        cases h
      | some first =>
        rw [hhead] at h
        cases h
        rfl
    · cases h
  | _ => cases h

/-- What an operation takes out of a mailbox, followed by what it leaves there, is what was there,
    followed by what the operation brings. -/
theorem mailbox_step (hd : d.Sound) (op : Op) (n : Nat) :
    d.taking n op ++ (d.step op).1.table.mailbox n = d.table.mailbox n ++ d.arriving n op := by
  -- the operations below bring nothing to any mailbox
  have hnone (h : ∀ x id, Exchange.arrival? x id op = none) : d.arriving n op = [] :=
    arriving_eq_nil fun id x _ _ _ => h x id
  cases op with
  | receive m => exact hd.mailbox_receive m n
  | fail now header failure => exact hd.mailbox_fail now header failure n
  | shutdown now => exact d.mailbox_shutdown now n
  | initiate seconds p stage l =>
    rw [hnone fun _ _ => rfl, List.append_nil]
    have h := d.table.initiate_initiated seconds p stage l
    simp only [step, taking, List.nil_append]
    generalize d.table.initiate seconds p stage l = result at h
    cases h <;> rfl
  | resume p last id l =>
    rw [hnone fun _ _ => rfl, List.append_nil]
    have h := d.table.resume_resumed p last id l
    simp only [step, taking, List.nil_append]
    generalize d.table.resume p last id l = result at h
    cases h <;> rfl
  | abandon id =>
    rw [hnone fun _ _ => rfl, List.append_nil]
    rfl
  | await id =>
    rw [hnone fun _ _ => rfl, List.append_nil]
    simp only [step, taking, List.nil_append]
    split <;> rfl
  | expire t milliseconds =>
    rw [hnone fun _ _ => rfl, List.append_nil]
    simp only [step, taking, List.nil_append]
    split <;> rfl
  | collect t =>
    rw [hnone fun _ _ => rfl, List.append_nil]
    by_cases ht : t ∈ d.tickets
    · rcases d.table.collect_cases t with ⟨hbox, hc⟩ | ⟨dl, rest, c', hbox, hc, hmailbox, _⟩
      · by_cases hn : t.serial = n
        · -- a collection takes from its own mailbox and leaves the others
          subst hn
          simp [step, taking, ht, hc, hbox]
        · simp [step, taking, ht, hc, hn]
      · by_cases hn : t.serial = n
        · subst hn
          simp [step, taking, ht, hc, hbox, hmailbox]
        · simp [step, taking, ht, hc, hn, hmailbox]
    · simp [step, taking, ht]

/-- What waiters are told is what is taken out of the mailbox. -/
theorem returned_cons (d : Desk) (n : Nat) (op : Op) (ops : List Op) :
    d.returned n (op :: ops) =
      (d.taking n op).map Delivery.outcome ++ (d.step op).1.returned n ops := by
  refine congrArg (· ++ (d.step op).1.returned n ops) ?_
  cases op with
  | collect t =>
    by_cases ht : t ∈ d.tickets
    · rcases d.table.collect_cases t with ⟨hbox, hc⟩ | ⟨dl, rest, c', hbox, hc, _, _⟩
      · by_cases hn : t.serial = n
        · subst hn
          simp [step, taking, Answer.returned?, ht, hc, hbox]
        · simp [step, taking, Answer.returned?, ht, hc, hn]
      · by_cases hn : t.serial = n
        · subst hn
          simp [step, taking, Answer.returned?, ht, hc, hbox]
        · simp [step, taking, Answer.returned?, ht, hc, hn]
    · simp [step, taking, Answer.returned?, ht]
  -- the other operations return nothing to waiters
  | _ => rfl

/-! ## Runs -/

/-- What is returned during a run, followed by what is left, is what waited before, followed by
    what has arrived: nothing is lost, repeated or overtaken. -/
theorem returned_append_mailbox (hd : d.Sound) (n : Nat) (ops : List Op) :
    d.returned n ops ++ ((d.after ops).table.mailbox n).map Delivery.outcome =
      (d.table.mailbox n ++ d.arrived n ops).map Delivery.outcome := by
  induction ops generalizing d with
  | nil => simp [returned, arrived]
  | cons op ops ih =>
    -- the equation for one operation, then the induction for those after it
    have hstep := congrArg (List.map Delivery.outcome) (mailbox_step hd op n)
    have hrest := ih (hd.step op)
    simp only [List.map_append] at hstep hrest
    rw [returned_cons, after_cons, arrived, List.append_assoc, hrest, ← List.append_assoc, hstep]
    simp

end

end Desk

end Mal
