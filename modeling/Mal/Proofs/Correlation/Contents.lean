import Mal.Proofs.Correlation.Table

/-!
# What mailboxes contain

The replies in a mailbox are for the transaction that the mailbox belongs to, whether it belongs to
it by a pending exchange or by a ticket that was given out. So what holds of every reply that comes
in under a transaction id holds of every reply that a waiter for this id collects.

## Key results

- `owns_step`: a mailbox that belongs to a transaction did before, or is empty
- `Replies.step`: the replies that wait go on fitting their transactions
- `Replies.collect`: so do those that are collected
-/

namespace Mal

/-- Whoever waits for an exchange gets a message only from a reply with this message, and the reply
    is one under the exchange's id and no error. -/
private theorem Exchange.receive_of_arrival? {x : Exchange} {id : TransactionId} {op : Desk.Op}
    {dl : Delivery} {m : Message} (h : x.arrival? id op = some dl) (hm : dl.outcome = .ok m) :
    op = .receive m ∧ m.header.transaction = some id ∧ m.header.isError = false := by
  cases op with
  | receive m' =>
    simp only [arrival?] at h
    split at h
    · next hid =>
      split at h
      · -- a reply without an error arrives as it is
        cases h
        simp only [Correlator.waited] at hm
        split at hm
        · cases hm
        · next hnone =>
          cases hm
          refine ⟨rfl, hid, ?_⟩
          rw [← m.isSome_error?, hnone]
          rfl
      · cases h
    · cases h
  -- what an error or a shutdown puts into a mailbox is no message
  | fail | shutdown =>
    simp only [arrival?] at h
    split at h
    · cases h
      cases hm
    · cases h
  | _ => cases h

namespace Desk

/-- A mailbox belongs to a transaction: by a pending exchange or by a ticket. -/
def Owns (d : Desk) (id : TransactionId) (n : Nat) : Prop :=
  (∃ x, d.table.exchanges.get? id = some x ∧ x.serial = n) ∨ ⟨id, n⟩ ∈ d.tickets

/-- All replies that wait to be collected fit the transactions that they wait for. -/
def Replies (d : Desk) (fits : TransactionId → Message → Prop) : Prop :=
  ∀ id n, d.Owns id n → ∀ dl ∈ d.table.mailbox n, ∀ m, dl.outcome = .ok m → fits id m

section

variable {d : Desk} {fits : TransactionId → Message → Prop}

/-- A new desk has no mailboxes. -/
theorem replies_new (a : Allocator) (patience : UInt64) : (new a patience).Replies fits := by
  intro id n _ dl hmem
  cases hmem

theorem Replies.mono {fits' : TransactionId → Message → Prop} (h : d.Replies fits)
    (hfits : ∀ id m, fits id m → fits' id m) : d.Replies fits' :=
  fun id n howns dl hmem m hm => hfits id m (h id n howns dl hmem m hm)

/-- A mailbox that belongs to a transaction after an operation belonged to it before, or is
    empty. -/
theorem owns_step (hd : d.Sound) (hc : d.Coherent) (op : Op) {id : TransactionId} {n : Nat}
    (h : (d.step op).1.Owns id n) : d.Owns id n ∨ (d.step op).1.table.mailbox n = [] := by
  -- the mailbox belongs to the transaction by a pending exchange, or by a ticket
  rcases h with ⟨y, hy, rfl⟩ | ht
  · rcases d.pending_or_new op hy with ⟨x, hx, hserial⟩ | ⟨_, hnew⟩
    · exact .inl (.inl ⟨x, hx, hserial⟩)
    · -- a new exchange starts with an empty mailbox
      exact .inr (hc.step_box_empty hd op (Nat.le_of_eq hnew.symm))
  · have hturn := d.turn op
    generalize d.step op = result at hturn ht
    cases hturn with
    | added | descended => exact .inl (.inr ht)
    | awaited hawait =>
      -- the one new ticket is for a pending exchange
      rcases List.mem_cons.1 ht with rfl | ht
      · obtain ⟨x, hx, _, heq⟩ := Correlator.await_eq_ok hawait
        cases heq
        exact .inl (.inl ⟨x, hx, rfl⟩)
      · exact .inl (.inr ht)

/-- What arrives in a mailbox arrives for a waited exchange. -/
private theorem mem_arriving {n : Nat} {op : Op} {dl : Delivery} (h : dl ∈ d.arriving n op) :
    ∃ id x, d.table.exchanges.get? id = some x ∧ x.serial = n ∧ x.arrival? id op = some dl := by
  obtain ⟨⟨id, x⟩, hmem, harrival⟩ := List.mem_filterMap.1 h
  obtain ⟨hentry, hp⟩ := List.mem_filter.1 hmem
  simp only [Bool.and_eq_true, beq_iff_eq] at hp
  exact ⟨id, x, (Directory.mem_entries ..).1 hentry, hp.1, harrival⟩

/-- A mailbox that a pending exchange has belongs to no transaction but that of the exchange. -/
private theorem Sound.eq_of_owns (hd : d.Sound) {id id' : TransactionId} {x : Exchange} {n : Nat}
    (howns : d.Owns id n) (hx : d.table.exchanges.get? id' = some x) (hn : x.serial = n) :
    id = id' := by
  rcases howns with ⟨y, hy, hserial⟩ | ht
  · exact hd.serial_inj hy hx (hserial.trans hn.symm)
  · exact (hd.ticket_waited ht hx hn).1.symm

/-- Replies go on fitting if every reply that comes in fits the transaction it names. -/
theorem Replies.step (h : d.Replies fits) (hd : d.Sound) (hc : d.Coherent) (op : Op)
    (hop : ∀ m id, op = .receive m → m.header.transaction = some id →
      m.header.isError = false → fits id m) : (d.step op).1.Replies fits := by
  intro id n howns dl hmem m hm
  -- what is in the mailbox was there before or has just arrived
  rcases owns_step hd hc op howns with hbefore | hempty
  · have hstep := mailbox_step hd op n
    have hsource : dl ∈ d.table.mailbox n ++ d.arriving n op :=
      hstep ▸ List.mem_append_right _ hmem
    rcases List.mem_append.1 hsource with hold | harrived
    · exact h id n hbefore dl hold m hm
    · -- what arrived came for the pending exchange that the mailbox belongs to
      obtain ⟨id', x, hx, hn, harrival⟩ := mem_arriving harrived
      obtain ⟨hreceive, hid, herror⟩ := Exchange.receive_of_arrival? harrival hm
      obtain rfl := hd.eq_of_owns hbefore hx hn
      exact hop m id hreceive hid herror
  · rw [hempty] at hmem
    cases hmem

/-- A message that is collected fits the transaction it was waited for. -/
theorem Replies.collect (h : d.Replies fits) {t : Ticket} (ht : t ∈ d.tickets) {m : Message}
    {c : Correlator} (hcollect : d.table.collect t = some (.ok m, c)) : fits t.transaction m := by
  rcases d.table.collect_cases t with ⟨_, hnone⟩ | ⟨dl, rest, _, hbox, hsome, _⟩
  · rw [hnone] at hcollect
    cases hcollect
  · rw [hsome] at hcollect
    obtain ⟨hm, -⟩ := Prod.mk.inj (Option.some.inj hcollect)
    exact h t.transaction t.serial (.inr ht) dl (hbox ▸ .head _) m hm

end

end Desk

end Mal
