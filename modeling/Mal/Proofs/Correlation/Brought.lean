import Mal.Proofs.Correlation.Forms

/-!
# What is brought to one interaction

Replies may come in under the id of an interaction one after another, in an order that its state
accepts, while anything happens to other interactions. Where nothing but these replies concerns the
interaction (`Desk.Brings`), they are what it accepts: each of them waits for the initiator, or is
told to the listener, as it came in.

## Key results

- `Desk.Brings.accepted`: the replies are what the interaction accepts
- `Desk.Brings.told`: the replies are what its listener is told
-/

namespace Mal

namespace Desk

/-- The reply that an operation brings under a transaction id. -/
def Op.brings? (id : TransactionId) : Op → Option Message
  | .receive m => if m.header.transaction = some id then some m else none
  | _ => none

/-- Whether an operation reports under a transaction id that something could not be delivered. -/
def Op.fails (id : TransactionId) : Op → Bool
  | .fail _ header _ => header.transaction == some id
  | _ => false

/-- The operations bring the replies `ms` under `id`, in this order, and nothing else that ends the
    exchange with the serial number `n`. -/
structure Brings (id : TransactionId) (n : Nat) (ops : List Op) (ms : List Message) : Prop where
  replies : ops.filterMap (Op.brings? id) = ms
  unfailed : ∀ op ∈ ops, op.fails id = false
  uninterrupted : ∀ op ∈ ops, op.interrupts id n = false

section

variable {id : TransactionId} {n : Nat} {op : Op} {ops : List Op} {ms : List Message}
  {m : Message}

theorem Op.brings?_eq_some (h : op.brings? id = some m) :
    op = .receive m ∧ m.header.transaction = some id := by
  cases op with
  | receive m' =>
    simp only [brings?, Option.ite_none_right_eq_some, Option.some.injEq] at h
    obtain ⟨hid, rfl⟩ := h
    exact ⟨rfl, hid⟩
  | _ => cases h

/-- What brings nothing and reports no error is not accepted, in any state. -/
theorem Op.take?_of_brings?_eq_none (hnone : op.brings? id = none) (hfails : op.fails id = false)
    (st : ReplyState) : st.take? id op = none := by
  cases op with
  | receive m =>
    -- a message in another transaction
    simp only [brings?, ite_eq_right_iff, reduceCtorEq, imp_false] at hnone
    simp only [ReplyState.take?, hnone, if_false]
  | fail now header failure =>
    have hother : header.transaction ≠ some id := by simpa [fails] using hfails
    simp [ReplyState.take?, hother]
  | _ => rfl

/-- A reply that the state accepts is accepted when it is brought. -/
theorem take?_receive {st next : ReplyState} (hid : m.header.transaction = some id)
    (hstate : st.receive m.header = .ok next) :
    st.take? id (.receive m) = some (next, Correlator.waited m) := by
  simp only [ReplyState.take?, hid, hstate, if_true]

namespace Brings

/-- The first operation brings nothing, or the first reply. -/
theorem cons_cases (h : Brings id n (op :: ops) ms) :
    (op.brings? id = none ∧ Brings id n ops ms) ∨
      ∃ m rest, op = .receive m ∧ m.header.transaction = some id ∧ ms = m :: rest ∧
        Brings id n ops rest := by
  have hunfailed : ∀ op ∈ ops, op.fails id = false := fun op hmem => h.unfailed op (.tail _ hmem)
  have huninterrupted : ∀ op ∈ ops, op.interrupts id n = false :=
    fun op hmem => h.uninterrupted op (.tail _ hmem)
  cases hbrings : op.brings? id with
  -- the replies are brought by the later operations
  | none =>
    have hreplies := h.replies
    rw [List.filterMap_cons_none hbrings] at hreplies
    exact .inl ⟨rfl, hreplies, hunfailed, huninterrupted⟩
  | some m =>
    -- the first operation brings the first of them
    obtain ⟨hop, hid⟩ := Op.brings?_eq_some hbrings
    have hreplies := h.replies
    rw [List.filterMap_cons_some hbrings] at hreplies
    exact .inr ⟨m, _, hop, hid, hreplies.symm, rfl, hunfailed, huninterrupted⟩

/-- Operations in two runs bring the replies one after the other. -/
theorem append_cases {ops' : List Op} (h : Brings id n (ops ++ ops') ms) :
    ∃ ms₁ ms₂, ms = ms₁ ++ ms₂ ∧ Brings id n ops ms₁ ∧ Brings id n ops' ms₂ := by
  refine ⟨_, _, h.replies.symm.trans List.filterMap_append, ⟨rfl, ?_, ?_⟩, ⟨rfl, ?_, ?_⟩⟩
  · exact fun op hmem => h.unfailed op (List.mem_append_left _ hmem)
  · exact fun op hmem => h.uninterrupted op (List.mem_append_left _ hmem)
  · exact fun op hmem => h.unfailed op (List.mem_append_right _ hmem)
  · exact fun op hmem => h.uninterrupted op (List.mem_append_right _ hmem)

/-- The replies are what an interaction accepts that takes them in this order. -/
theorem accepted {st last : ReplyState} (h : Brings id n ops ms)
    (hlast : st.receiveAll (ms.map Message.header) = .ok last) :
    st.accepted id ops = ms.map Correlator.waited := by
  induction ops generalizing st ms with
  | nil =>
    obtain rfl : [] = ms := h.replies
    rfl
  | cons op ops ih =>
    -- the state follows the replies and stays where it is otherwise
    rcases h.cons_cases with ⟨hnone, hrest⟩ | ⟨m, rest, rfl, hid, rfl, hrest⟩
    · have htake := Op.take?_of_brings?_eq_none hnone (h.unfailed op (.head _)) st
      simp only [ReplyState.accepted, htake]
      exact ih hrest hlast
    · obtain ⟨next, hstate, hlast⟩ := ReplyState.receiveAll_cons_eq_ok_iff.1 hlast
      simp only [ReplyState.accepted, take?_receive hid hstate, List.map_cons]
      exact congrArg _ (ih hrest hlast)

/-- The replies are what waiters are returned, followed by what is left for them; until all were
    returned the interaction can be waited for. -/
theorem returned {d : Desk} {x : Exchange} {last : ReplyState} (h : Brings id x.serial ops ms)
    (hd : d.Sound) (hc : d.Coherent) (hx : d.table.exchanges.get? id = some x)
    (hl : x.listener = none) (hempty : d.table.mailbox x.serial = [])
    (hlast : x.state.receiveAll (ms.map Message.header) = .ok last) :
    d.returned x.serial ops ++ ((d.after ops).table.mailbox x.serial).map Delivery.outcome =
        ms.map Correlator.waited ∧
      (d.returned x.serial ops ≠ ms.map Correlator.waited →
        (d.after ops).table.await id = .ok ⟨id, x.serial⟩) := by
  have hqueue := returned_append_accepted hd hc hx hl hempty h.uninterrupted
  rw [h.accepted hlast] at hqueue
  refine ⟨hqueue, fun hleft => ?_⟩
  -- as long as something is left, there is an exchange to wait for
  rcases (waited_after hd hc hx hl h.uninterrupted).2 with hx' | ⟨_, _, hbox⟩
  · simp [Correlator.await, hx', hl]
  · -- nothing is left of an interaction that is over and collected
    rw [hbox, List.map_nil, List.append_nil] at hqueue
    exact absurd hqueue hleft

/-- The replies are what the listener is told, and the interaction is pending until it is over. -/
theorem told {d : Desk} {x : Exchange} {l : Listener} {last : ReplyState}
    (h : Brings id x.serial ops ms) (hd : d.Sound) (hx : d.table.exchanges.get? id = some x)
    (hl : x.listener = some l) (hlast : x.state.receiveAll (ms.map Message.header) = .ok last) :
    d.told x.serial ops = ms.map (fun m => (.receive m, ⟨x.serial, l, .ofMessage m⟩)) ∧
      (last.isFinished = false →
        (d.after ops).table.exchanges.get? id = some { x with state := last }) := by
  induction ops generalizing d x ms with
  | nil =>
    obtain rfl : [] = ms := h.replies
    cases hlast
    exact ⟨rfl, fun _ => hx⟩
  | cons op ops ih =>
    -- the exchange is older than what the operation may make
    have hlt : x.serial < (d.step op).1.table.made :=
      Nat.lt_of_lt_of_le (hd.serial_lt hx) (d.made_le_step op)
    rw [Desk.told, after_cons]
    rcases h.cons_cases with ⟨hnone, hrest⟩ | ⟨m, rest, rfl, hid, rfl, hrest⟩
    · have htake := Op.take?_of_brings?_eq_none hnone (h.unfailed op (.head _)) x.state
      -- an operation that brings nothing leaves the exchange as it is, and tells nothing
      obtain ⟨hx', hr⟩ := stays hd hx (h.uninterrupted op (.head _)) htake
        (by simp [hd.taking_listened hx hl op])
      rw [hr]
      exact ih hrest (hd.step op) hx' hl hlast
    · obtain ⟨next, hstate, hlast⟩ := ReplyState.receiveAll_cons_eq_ok_iff.1 hlast
      -- the reply is told as it is
      obtain ⟨o, hr, _, ho, hx'⟩ := tells hd hx hl (take?_receive hid hstate)
      obtain rfl := ho m rfl
      rw [hr]
      cases hfinished : next.isFinished with
      | true =>
        -- no reply follows, and nothing else is told
        rw [hfinished, if_pos rfl] at hx'
        obtain ⟨hnil, rfl⟩ := ReplyState.receiveAll_of_isFinished hfinished hlast
        obtain rfl := List.map_eq_nil_iff.1 hnil
        rw [(told_of_not_holds hlt hx' ops).2]
        refine ⟨rfl, fun hopen => ?_⟩
        cases hfinished.symm.trans hopen
      | false =>
        -- the exchange is pending in its new state, so the rest goes as from there
        rw [hfinished, if_neg Bool.false_ne_true] at hx'
        obtain ⟨htold, hafter⟩ := ih (x := { x with state := next }) hrest (hd.step _) hx' hl hlast
        exact ⟨congrArg _ htold, hafter⟩

end Brings

end

end Desk

end Mal
