import Mal.Proofs.Correlation.Desk
import Mal.Proofs.Network.Network
import Mal.Proofs.Starting

/-!
# Calls that wait for their answer

A synchronous call starts an interaction, waits for its first answer and returns it. If more answers
follow it returns a handle as well, with which the caller waits for the others, and which is dropped
in the end. `Caller` follows one call from step to step. Between two steps everybody else who uses
the instance may do anything: messages arrive, other calls go on, the instance is closed.

What a call has put into the table is taken off by its last step, whatever that is: a first message
that could not be sent, an answer or an error that the call returns, a wait that lasted too long, or
the end of the handle. Until then the call makes no other entry.

## Key results

- `Caller.start_eq`: a call whose send ends before anything else happens is `Instance.start`
- `Caller.own_stepped`: what the steps of a call do
- `Caller.canReturn`: a call can always come to its return
- `Caller.nothing_left`: what a call leaves in the table
-/

namespace Mal

/-- Of the interactions that a consumer can start those are followed that have an answer. -/
private theorem Demand.exists_initial (d : Demand) :
    ∃ state?, ReplyState.initial d.pattern d.stage = .ok state? ∧ state?.isSome = d.isAnswered := by
  cases d <;> exact ⟨_, rfl, rfl⟩

/-- How far a call has come. -/
inductive Caller.Phase where
  /-- The first message is being sent. -/
  | sending (id : TransactionId)
  /-- Nothing is waited for. `first` is the answer that the call has returned along with the handle,
      once it has. -/
  | holding (h : Handle) (first : Option Message)
  /-- An answer is waited for. -/
  | waiting (h : Handle) (first : Option Message) (t : Ticket)
  /-- The wait for the first answer is over. -/
  | answered (h : Handle) (outcome : Except Failure Message)
  /-- The call has returned, without a handle. -/
  | returned (result : Except Failure (Option Message))
  /-- The handle was dropped, or the call was given up before it returned. -/
  | dropped

/-- A synchronous call of a consumer, and the instance it is made on. -/
structure Caller where
  consumer : Consumer
  demand : Demand
  node : Node
  phase : Caller.Phase

namespace Caller

/-- What may happen next: a step of the call, or something else on the instance. -/
inductive Move where
  /-- The send of the first message ends. -/
  | transmit (result : Except Failure Unit)
  /-- Begins to wait for an answer. -/
  | await
  /-- Takes the answer that has arrived. -/
  | collect
  /-- The wait lasts too long; nothing has arrived. -/
  | expire
  /-- Returns the first answer. -/
  | conclude
  /-- The handle is dropped, or the call is given up. -/
  | drop
  /-- Something else is done with the pending interactions. -/
  | others (op : Desk.Op)
  /-- Everything about the instance changes but its settings and pending interactions. -/
  | arrange (clock : Clock) (security : Security) (relay : Relay) (routing : Routing)
      (bindings : Bindings)

/-- The move is a step of the call. -/
def Move.IsOwn : Move → Prop
  | others _ | arrange .. => False
  | _ => True

namespace Phase

/-- The interaction that the call or its handle still stands for. -/
def open? : Phase → Option TransactionId
  | sending id => some id
  | holding h _ | waiting h _ _ | answered h _ => some h.transaction
  | returned _ | dropped => none

/-- The call is over, and so is the use of its handle. -/
def IsOver (p : Phase) : Prop :=
  p.open? = none

/-- The call has returned. -/
def HasReturned : Phase → Prop
  | returned _ | holding _ (some _) => True
  | _ => False

/-- What comes after a wait: the call has its answer, or the handle can be used again. -/
def afterWait (h : Handle) (outcome : Except Failure Message) : Option Message → Phase
  | none => answered h outcome
  | some first => holding h (some first)

@[simp] theorem open?_afterWait (h : Handle) (outcome : Except Failure Message)
    (first : Option Message) : (afterWait h outcome first).open? = some h.transaction := by
  cases first <;> rfl

end Phase

/-- The pending interactions of the instance. -/
def table (c : Caller) : Correlator :=
  c.node.inst.correlator

/-- Changes the instance and comes to another phase. -/
def become (c : Caller) (i : Instance) (p : Phase) : Caller :=
  { c with node := { c.node with inst := i }, phase := p }

/-- Begins a call: changes the routes, and enters the interaction in the table. -/
def begin (x : Node) (s : Site) (c : Consumer) (d : Demand) : Caller :=
  let i := { x.inst with routing := d.prepare c.addressing x.inst.routing }
  match i.initiate s d.pattern d.stage none with
  | (i, .ok id) => ⟨c, d, { x with inst := i }, .sending id⟩
  | (i, .error failure) =>
    ⟨c, d, { x with inst := i.withdraw c.addressing d }, .returned (.error failure)⟩

/-- Carries out a move. A step of the call that it has not come to changes nothing. -/
def step (c : Caller) : Move → Caller
  | .transmit (.ok _) =>
    match c.phase with
    | .sending id =>
      if c.demand.isAnswered then
        { c with phase := .holding { transaction := id, patience := c.consumer.patience } none }
      else { c with phase := .returned (.ok none) }
    | _ => c
  | .transmit (.error failure) =>
    match c.phase with
    | .sending id =>
      c.become ((c.node.inst.abandon id).1.withdraw c.consumer.addressing c.demand)
        (.returned (.error failure))
    | _ => c
  | .await =>
    match c.phase with
    | .holding h first =>
      match c.table.await h.transaction with
      | .ok t => { c with phase := .waiting h first t }
      | .error failure => { c with phase := .afterWait h (.error failure) first }
    | _ => c
  | .collect =>
    match c.phase with
    | .waiting h first t =>
      match c.table.collect t with
      | some (outcome, table) =>
        c.become { c.node.inst with correlator := table } (.afterWait h outcome first)
      | none => c
    | _ => c
  | .expire =>
    match c.phase with
    | .waiting h first t =>
      if c.table.mailbox t.serial = [] then
        let (table, failure) := c.table.expire t (h.patience.getD c.table.patience)
        c.become { c.node.inst with correlator := table } (.afterWait h (.error failure) first)
      else c
    | _ => c
  | .conclude =>
    match c.phase with
    | .answered h outcome =>
      match outcome, c.node.inst.conclude c.consumer c.demand h.transaction outcome with
      | .ok m, (i, some h) => c.become i (.holding h (some m))
      | outcome, (i, _) => c.become i (.returned (outcome.map some))
    | _ => c
  | .drop =>
    -- a wait that is going on ends as well, and takes nothing
    match c.phase.open? with
    | some id => c.become (c.node.inst.abandon id).1 .dropped
    | none => c
  | .others op => { c with node := c.node.work op }
  | .arrange clock security relay routing bindings =>
    let i := { c.node.inst with
      clock := clock, security := security, relay := relay, routing := routing
      bindings := bindings }
    c.become i c.phase

/-- The call after some moves. -/
def after (c : Caller) (moves : List Move) : Caller :=
  moves.foldl step c

/-! ## How a call begins -/

/-- The ways in which a call begins. `Begun before d c` says what the table `before` has become
    when a call with the demand `d` has begun. -/
inductive Begun (before : Correlator) (d : Demand) (c : Caller) : Prop where
  /-- No id is free. -/
  | refused {failure : Failure} (hphase : c.phase = .returned (.error failure))
      (htable : c.table = before)
  /-- Nothing is kept of an interaction without an answer. -/
  | unkept {id : TransactionId} (hphase : c.phase = .sending id) (hanswered : d.isAnswered = false)
      (htable : c.table = { before with allocator := c.table.allocator })
  /-- Another interaction is kept under an id that was free. -/
  | added {id : TransactionId} {st : ReplyState} (hphase : c.phase = .sending id)
      (hanswered : d.isAnswered = true) (hfree : before.exchanges.get? id = none)
      (htable : c.table =
        { before with allocator := c.table.allocator }.add id d.pattern st none)

/-- A call begins in one of these ways. -/
private theorem begin_begun (x : Node) (s : Site) (c : Consumer) (d : Demand) :
    Begun x.inst.correlator d (begin x s c d) ∧ (begin x s c d).demand = d := by
  -- an interaction of this kind has a first stage, and is answered or not by its kind
  obtain ⟨state?, hinitial, hanswered⟩ := d.exists_initial
  have h := x.inst.correlator.initiate_initiated (x.inst.clock.seconds s.now) d.pattern d.stage none
  simp only [begin, Instance.initiate]
  generalize x.inst.correlator.initiate (x.inst.clock.seconds s.now) d.pattern d.stage none = result
    at h
  cases h with
  | refused failure => exact ⟨.refused rfl rfl, rfl⟩
  | unkept a id hstate =>
    cases hinitial.symm.trans hstate
    exact ⟨.unkept rfl hanswered.symm rfl, rfl⟩
  | added a hstate hfree =>
    cases hinitial.symm.trans hstate
    exact ⟨.added rfl hanswered.symm hfree rfl, rfl⟩

/-- A call whose send ends before anything else happens is `Instance.start` without a listener. -/
theorem start_eq (x : Node) (s : Site) (c : Consumer) (d : Demand) :
    ∃ result, (x.inst.start s c d none).1 = ((begin x s c d).step (.transmit result)).node.inst ∧
      ∀ id, (begin x s c d).phase = .sending id →
        result = (s.send c.addressing.endpoint (d.message c.addressing s.now id)).1 ∧
        (x.inst.start s c d none).2.2 = result.map fun _ => id := by
  simp only [begin, Instance.start, Instance.launch, Option.map_none]
  generalize Instance.initiate _ s d.pattern d.stage none = initiated
  obtain ⟨i, result⟩ := initiated
  cases result with
  | error failure =>
    -- the send of a call that has not begun does not matter
    refine ⟨.ok (), rfl, ?_⟩
    intro id hphase
    cases hphase
  | ok id =>
    -- nothing comes between the entry in the table and the end of the send
    simp only []
    generalize hsend : s.send c.addressing.endpoint (d.message c.addressing s.now id) = sent
    obtain ⟨result, s'⟩ := sent
    refine ⟨result, ?_, ?_⟩
    · cases result with
      | error failure => rfl
      | ok => cases hanswered : d.isAnswered <;> simp [step, hanswered]
    · -- the message that is sent is the one that the phase stands for
      rintro _ ⟨⟩
      rw [hsend]
      cases result <;> exact ⟨rfl, rfl⟩

/-! ## What its steps do -/

/-- What a step of a call does: nothing, or the call goes on with its interaction and brings nothing
    into the table, or it has been sent and there is no answer to it, or it takes its interaction
    off the table and is over. -/
inductive Stepped (c : Caller) : Caller → Prop where
  | stayed : Stepped c c
  | went {p : Phase} {table : Correlator} (hopen : p.open? = c.phase.open?)
      (h : c.table.Descends table) : Stepped c (c.become { c.node.inst with correlator := table } p)
  | sent {p : Phase} (hanswered : c.demand.isAnswered = false) : Stepped c { c with phase := p }
  | ended {id : TransactionId} {p : Phase} {routing : Routing} (hphase : c.phase.open? = some id)
      (hover : p.IsOver) :
      Stepped c
        (c.become
          { c.node.inst with
            correlator := { c.table with exchanges := c.table.exchanges.erase id }
            routing := routing } p)

/-- A call that comes to another phase and changes nothing else. -/
private theorem Stepped.phase {c : Caller} {p : Phase} (hopen : p.open? = c.phase.open?) :
    c.Stepped { c with phase := p } :=
  .went hopen (.refl _)

/-- A step of a call does one of these. -/
theorem own_stepped (c : Caller) {move : Move} (h : move.IsOwn) : c.Stepped (c.step move) := by
  -- each step belongs to one phase, and in the others nothing happens
  obtain ⟨consumer, demand, node, phase⟩ := c
  cases move with
  | others | arrange => exact h.elim
  | transmit result =>
    cases phase with
    | sending id =>
      cases result with
      -- a send that fails takes the interaction off the table
      | error failure => exact .ended rfl rfl
      | ok =>
        simp only [step]
        split
        · -- a call for an answer waits for it now, any other is over
          exact .phase rfl
        · next hanswered => exact .sent (Bool.not_eq_true _ ▸ hanswered)
    | _ => cases result <;> exact .stayed
  | await =>
    cases phase with
    | holding handle first =>
      simp only [step]
      split
      · exact .phase rfl
      · -- a wait that is refused ends the call
        exact .phase (Phase.open?_afterWait ..)
    | _ => exact .stayed
  | collect =>
    cases phase with
    | waiting handle first t =>
      simp only [step]
      split
      · -- what is collected was brought by others
        next hcollect => exact .went (Phase.open?_afterWait ..) (.collect hcollect)
      · exact .stayed
    | _ => exact .stayed
  | expire =>
    cases phase with
    | waiting handle first t =>
      simp only [step]
      split
      · -- the wait lasted too long for an interaction about which nothing has come
        exact .went (Phase.open?_afterWait ..) (.release ..)
      · exact .stayed
    | _ => exact .stayed
  | conclude =>
    cases phase with
    | answered handle outcome =>
      cases outcome with
      -- the first answer is an error, so the interaction is abandoned
      | error failure => exact .ended rfl rfl
      | ok m =>
        simp only [step, Instance.conclude]
        -- the handle that the call returns is for the same interaction
        cases demand.isStaged with
        | true => exact .went rfl (.refl _)
        | false => exact .ended rfl rfl
    | _ => exact .stayed
  | drop =>
    simp only [step]
    split
    · -- whatever the handle stands for is abandoned
      next id hphase => exact .ended hphase rfl
    · exact .stayed

/-- A step of a call brings nothing into the table. -/
private theorem descends_own (c : Caller) {move : Move} (h : move.IsOwn) :
    c.table.Descends (c.step move).table := by
  have hstepped := c.own_stepped h
  generalize c.step move = c' at hstepped
  cases hstepped with
  | stayed | sent => exact .refl _
  | went _ hd => exact hd
  | ended => exact .erase ..

/-- The last step of a call for an answer takes off the table what is there under its id. -/
private theorem get?_of_isOver {c : Caller} (hanswered : c.demand.isAnswered = true)
    {id : TransactionId}
    (hphase : c.phase.open? = some id) {move : Move} (hover : (c.step move).phase.IsOver) :
    (c.step move).table.exchanges.get? id = none := by
  by_cases h : move.IsOwn
  · -- the call is over when its interaction has left the table
    have hstepped := c.own_stepped h
    generalize c.step move = c' at hstepped hover
    cases hstepped with
    | stayed => cases hphase.symm.trans hover
    | went hopen => cases hphase.symm.trans (hopen.symm.trans hover)
    | sent hnot => cases hanswered.symm.trans hnot
    | ended hphase' =>
      cases hphase.symm.trans hphase'
      exact Directory.get?_erase_self ..
  · -- what others do leaves the call where it is
    cases move with
    | others | arrange => cases hphase.symm.trans hover
    | _ => exact absurd trivial h

/-! ## A call comes to its return -/

/-- Steps of the call alone, none of which gives it up, lead to its return. -/
def CanReturn (c : Caller) : Prop :=
  ∃ own : List Move, (∀ move ∈ own, move.IsOwn ∧ move ≠ .drop) ∧ (c.after own).phase.HasReturned

/-- What can return after a step can return before it. -/
private theorem CanReturn.of_step {c : Caller} (move : Move) (hown : move.IsOwn)
    (hkept : move ≠ .drop) (h : (c.step move).CanReturn) : c.CanReturn := by
  obtain ⟨own, hsteps, hreturned⟩ := h
  refine ⟨move :: own, ?_, hreturned⟩
  intro move' hmem
  rcases List.mem_cons.1 hmem with rfl | hmem
  · exact ⟨hown, hkept⟩
  · exact hsteps move' hmem

variable {c : Caller} {h : Handle} {first : Option Message}

private theorem canReturn_of_hasReturned (hreturned : c.phase.HasReturned) : c.CanReturn :=
  ⟨[], by simp, hreturned⟩

/-- Whoever has the first answer can return it. -/
private theorem canReturn_of_answered {outcome : Except Failure Message}
    (hphase : c.phase = .answered h outcome) : c.CanReturn := by
  -- a step by which the answer is handed over
  refine .of_step .conclude trivial nofun (canReturn_of_hasReturned ?_)
  cases outcome with
  | error failure =>
    simp only [step, hphase]
    trivial
  | ok m =>
    cases hstaged : c.demand.isStaged <;>
      simp [step, hphase, Instance.conclude, hstaged, become, Phase.HasReturned]

/-- When the wait is over the call can return, or has done so. -/
private theorem canReturn_of_afterWait {outcome : Except Failure Message}
    (hphase : c.phase = .afterWait h outcome first) : c.CanReturn := by
  cases first with
  | none => exact canReturn_of_answered hphase
  | some m => exact canReturn_of_hasReturned (hphase ▸ trivial)

/-- A wait ends with what has arrived, or when it has lasted too long. -/
private theorem canReturn_of_waiting {t : Ticket} (hphase : c.phase = .waiting h first t) :
    c.CanReturn := by
  -- either something has arrived, or the wait can be given up
  cases hcollect : c.table.collect t with
  | some collected =>
    have hcollected : (c.step .collect).phase = .afterWait h collected.1 first := by
      simp only [step, hphase, hcollect]
      rfl
    exact .of_step .collect trivial nofun (canReturn_of_afterWait hcollected)
  | none =>
    -- the mailbox is empty, or it could be collected from
    have hempty : c.table.mailbox t.serial = [] := by
      unfold Correlator.collect at hcollect
      split at hcollect
      · assumption
      · cases hcollect
    have hexpired : ∃ failure, (c.step .expire).phase = .afterWait h (.error failure) first := by
      simp only [step, hphase, hempty]
      exact ⟨_, rfl⟩
    obtain ⟨failure, hexpired⟩ := hexpired
    exact .of_step .expire trivial nofun (canReturn_of_afterWait hexpired)

/-- Whoever stands for an interaction can wait. -/
private theorem canReturn_of_holding (hphase : c.phase = .holding h first) : c.CanReturn := by
  refine .of_step .await trivial nofun ?_
  cases hawait : c.table.await h.transaction with
  | ok t =>
    have hwaiting : (c.step .await).phase = .waiting h first t := by
      simp only [step, hphase, hawait]
    exact canReturn_of_waiting hwaiting
  | error failure =>
    have hanswered : (c.step .await).phase = .afterWait h (.error failure) first := by
      simp only [step, hphase, hawait]
    exact canReturn_of_afterWait hanswered

/-- A call that is not given up can always come to its return, whatever has happened. -/
theorem canReturn (hkept : c.phase ≠ .dropped) : c.CanReturn := by
  -- from every phase the next step leads to one that is nearer to the return
  cases hphase : c.phase with
  | sending id =>
    refine .of_step (.transmit (.ok ())) trivial nofun ?_
    cases hanswered : c.demand.isAnswered with
    | true =>
      have hsent : (c.step (.transmit (.ok ()))).phase =
          .holding { transaction := id, patience := c.consumer.patience } none := by
        simp only [step, hphase, hanswered, if_true]
      exact canReturn_of_holding hsent
    | false =>
      refine canReturn_of_hasReturned ?_
      simp only [step, hphase, hanswered]
      trivial
  | holding => exact canReturn_of_holding hphase
  | waiting => exact canReturn_of_waiting hphase
  | answered => exact canReturn_of_answered hphase
  | returned => exact canReturn_of_hasReturned (hphase ▸ trivial)
  | dropped => exact absurd hphase hkept

/-! ## The interaction of a call -/

/-- The exchange with this serial number is the one that the call has entered in the table, under
    this id. It stands nowhere else, and when the call is over it is off the table. -/
structure Owns (c : Caller) (id : TransactionId) (n : Nat) : Prop where
  answered : c.demand.isAnswered = true
  made : n < c.table.made
  place {id' : TransactionId} {x : Exchange} :
    c.table.exchanges.get? id' = some x → x.serial = n → id' = id
  open_id {id' : TransactionId} : c.phase.open? = some id' → id' = id
  gone : c.phase.IsOver → ¬ c.node.desk.Holds n

namespace Owns

variable {id : TransactionId} {n : Nat}

/-- A call that has begun owns what it has entered. -/
private theorem begin {x : Node} (hx : x.desk.Sound) {s : Site} {c : Consumer} {d : Demand}
    (hanswered : d.isAnswered = true) (hphase : (begin x s c d).phase = .sending id) :
    (begin x s c d).Owns id x.inst.correlator.made := by
  obtain ⟨hbegun, hdemand⟩ := begin_begun x s c d
  generalize Caller.begin x s c d = begun at hbegun hdemand hphase
  cases hbegun with
  -- of the ways to begin only one keeps an exchange
  | refused hrefused => cases hphase.symm.trans hrefused
  | unkept _ hnot => cases hanswered.symm.trans hnot
  | added hsending _ _ htable =>
    cases hphase.symm.trans hsending
    refine ⟨by rw [hdemand, hanswered], by rw [htable]; exact Nat.lt_succ_self _, ?_, ?_, ?_⟩
    · intro id' y hy hserial
      -- the table has the new exchange under its id
      rw [htable, Correlator.add_get?] at hy
      split at hy
      · next heq => exact heq.symm
      · -- the others were there before
        have hlt := hx.serial_lt hy
        exact absurd hserial (Nat.ne_of_lt hlt)
    · intro id' hopen
      rw [hphase] at hopen
      cases hopen
      rfl
    · -- a call that sends is not over
      intro hover
      rw [hphase] at hover
      cases hover

/-- Where nothing is brought in, the exchange stands in its place or nowhere. -/
private theorem place_of_descends {c : Caller} (h : c.Owns id n) {table : Correlator}
    (hd : c.table.Descends table) {id' : TransactionId} {x : Exchange}
    (hx : table.exchanges.get? id' = some x) (hserial : x.serial = n) : id' = id := by
  obtain ⟨st, hbefore⟩ := hd.2 _ _ hx
  exact h.place hbefore hserial

/-- What brings nothing into the table keeps the exchange where it is, or takes it off. -/
private theorem of_descends {c c' : Caller} (h : c.Owns id n) (hd : c.table.Descends c'.table)
    (hdemand : c'.demand = c.demand) (hopen : c'.phase.open? = c.phase.open?) : c'.Owns id n where
  answered := hdemand ▸ h.answered
  made := hd.1.symm ▸ h.made
  place := h.place_of_descends hd
  open_id hopen' := h.open_id (hopen.symm.trans hopen')
  gone hover := by
    rintro ⟨id', x, hx, hserial⟩
    obtain ⟨st, hbefore⟩ := hd.2 _ _ hx
    exact h.gone (hopen.symm.trans hover) ⟨id', _, hbefore, hserial⟩

/-- What others do brings in exchanges with other serial numbers at most. -/
private theorem others {c : Caller} (h : c.Owns id n) (op : Desk.Op) :
    (c.step (.others op)).Owns id n where
  answered := h.answered
  made := Nat.lt_of_lt_of_le h.made (c.node.desk.made_le_step op)
  -- what others bring in gets a serial number that was not given out before
  place hx hserial := by
    rcases c.node.desk.pending_or_new op hx with ⟨y, hy, hserial'⟩ | ⟨_, hnew⟩
    · exact h.place hy (hserial'.trans hserial)
    · exact absurd h.made (hserial ▸ hnew ▸ Nat.lt_irrefl _)
  open_id := h.open_id
  gone hover := (Desk.step_of_not_holds h.made (h.gone hover) op).1

/-- A step of the call takes the exchange off the table when it is the last. -/
private theorem own {c : Caller} (h : c.Owns id n) {move : Move} (hown : move.IsOwn) :
    (c.step move).Owns id n := by
  have hstepped := c.own_stepped hown
  generalize c.step move = c' at hstepped
  cases hstepped with
  | stayed => exact h
  | went hopen hd => exact h.of_descends hd rfl hopen
  -- a call for an answer does not end with the send
  | sent hnot => cases h.answered.symm.trans hnot
  | ended hphase hover =>
    obtain rfl := h.open_id hphase
    refine ⟨h.answered, h.made, h.place_of_descends (.erase ..), ?_, ?_⟩
    · intro id' hopen
      cases hover.symm.trans hopen
    · -- the only place where the exchange could stand has been emptied
      rintro - ⟨id', x, hx, hserial⟩
      obtain rfl := h.place_of_descends (.erase ..) hx hserial
      cases (Directory.get?_erase_self ..).symm.trans hx

/-- A call owns its exchange after every move. -/
private theorem step {c : Caller} (h : c.Owns id n) (move : Move) : (c.step move).Owns id n := by
  by_cases hown : move.IsOwn
  · exact h.own hown
  · cases move with
    | others op => exact h.others op
    | arrange => exact h.of_descends (.refl _) rfl rfl
    | _ => exact absurd trivial hown

/-- So it does at every moment. -/
private theorem after {c : Caller} (h : c.Owns id n) (moves : List Move) :
    (c.after moves).Owns id n := by
  induction moves generalizing c with
  | nil => exact h
  | cons move moves ih => exact ih (h.step move)

end Owns

/-- A synchronous call leaves nothing in the table, whatever is pending when it begins and whatever
    happens while it goes on. It enters one exchange at most, in the beginning, and none if there
    is no answer; none of its later steps enters any. Unless it is given up it can always come to
    its return. When it has returned, and its handle has been dropped, nothing stands under its id,
    and its exchange is off the table for good. -/
theorem nothing_left (a : Allocator) (patience : UInt64) (before : List Desk.Op) (i : Instance)
    (s : Site) (consumer : Consumer) (d : Demand) (moves : List Move) :
    let desk := (Desk.new a patience).after before
    let x : Node := { inst := { i with correlator := desk.table }, tickets := desk.tickets }
    let begun := begin x s consumer d
    let c := begun.after moves
    Begun desk.table d begun ∧
      (∀ move : Move, move.IsOwn → c.table.Descends (c.step move).table) ∧
      (c.phase ≠ .dropped → c.CanReturn) ∧
      ∀ id, d.isAnswered = true → begun.phase = .sending id →
        (∀ move, ¬ c.phase.IsOver → (c.step move).phase.IsOver →
          (c.step move).table.exchanges.get? id = none) ∧
        (c.phase.IsOver → ¬ c.node.desk.Holds desk.table.made) := by
  intro desk x begun c
  refine ⟨(begin_begun x s consumer d).1, fun move hown => c.descends_own hown, canReturn, ?_⟩
  intro id hanswered hphase
  -- the table comes from a new desk, so its exchanges have the serial numbers below `made`
  have hsound : x.desk.Sound := (Desk.sound_new a patience).after before
  have howns : c.Owns id desk.table.made := (Owns.begin hsound hanswered hphase).after moves
  refine ⟨?_, howns.gone⟩
  intro move hgoing hover
  obtain ⟨id', hopen⟩ := Option.ne_none_iff_exists'.1 hgoing
  obtain rfl := howns.open_id hopen
  exact get?_of_isOver howns.answered hopen hover

/-- An Invoke whose acknowledgement has been returned along with a handle. The response arrives,
    and the handle is dropped before anyone takes it. -/
theorem nothing_left_unclaimed :
    let consumer : Consumer :=
      { addressing := { endpoint := ⟨0, "c"⟩, uriFrom := "c", uriTo := "p" } }
    let d : Demand := .invoke 1 .empty
    let reply (stage : Stage) : Message :=
      { header := { uriFrom := "p", uriTo := "c", pattern := .invoke, stage := some stage,
                    timestamp := 0, transaction := some 1 } }
    let moves : List Move :=
      [.transmit (.ok ()), .await, .others (.receive (reply 2)), .collect, .conclude,
        .others (.receive (reply 3))]
    let desk := (Desk.new ⟨0, 0, 0⟩ 1000).after []
    let i := Instance.create {} .system 0
    let x : Node := { inst := { i with correlator := desk.table }, tickets := desk.tickets }
    let begun := begin x { now := 0 } consumer d
    let c := begun.after moves
    begun.phase = .sending 1 ∧
      c.phase = .holding { transaction := 1, patience := none } (some (reply 2)) ∧
      c.table.contains 1 = true ∧
      (c.step .drop).table.exchanges.get? 1 = none ∧ ¬ (c.step .drop).node.desk.Holds 0 := by
  intro consumer d reply moves desk i x begun c
  have hphase : c.phase = .holding { transaction := 1, patience := none } (some (reply 2)) := rfl
  have hgoing : ¬ c.phase.IsOver := by
    rw [hphase]
    nofun
  -- the call before it is given up, and after
  obtain ⟨_, _, _, hleft⟩ := nothing_left ⟨0, 0, 0⟩ 1000 [] i { now := 0 } consumer d moves
  obtain ⟨_, _, _, hover⟩ :=
    nothing_left ⟨0, 0, 0⟩ 1000 [] i { now := 0 } consumer d (moves ++ [.drop])
  exact ⟨rfl, hphase, by decide, (hleft 1 rfl rfl).1 .drop hgoing rfl, (hover 1 rfl rfl).2 rfl⟩

end Caller

end Mal
