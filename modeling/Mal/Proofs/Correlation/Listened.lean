import Mal.Proofs.Correlation.Desk

/-!
# Listened exchanges

What a listener is told of one exchange during a run. An operation leaves a listened exchange where
it is, passes on a reply that is not the last, or takes the exchange off the table, with a last
report or without one; `Fate` lists these. By induction a run tells the beginning of a course, with
at most one report that ends it, and that one last (`told_of_listened`).

## Key results

- `fate`: what an operation can do to a listened exchange
- `told_of_listened`, `listened_at_most_once`: what a run tells its listener
-/

namespace Mal

namespace Desk

/-! ## What an operation does to a listened exchange -/

/-- What an operation does to the exchange `x` under `id` with the listener `l`, and what is told of
    it; `result` are the desk afterwards and the answer. -/
inductive Fate (op : Op) (id : TransactionId) (x : Exchange) (l : Listener)
    (result : Desk × Answer) : Prop where
  | kept (hop : op ≠ .abandon id) (hx : result.1.table.exchanges.get? id = some x)
      (hr : result.2.reportsOn x.serial = [])
  | passed {m : Message} {next : ReplyState} (hop : op = .receive m)
      (hstate : x.state.receive m.header = .ok next) (hopen : next.isFinished = false)
      (hx : result.1.table.exchanges.get? id = some { x with state := next })
      (hr : result.2.reportsOn x.serial = [⟨x.serial, l, .ofMessage m⟩])
  | completed {m : Message} {next : ReplyState} (hop : op = .receive m)
      (hstate : x.state.receive m.header = .ok next) (hover : next.isFinished = true)
      (hgone : ¬ result.1.Holds x.serial)
      (hr : result.2.reportsOn x.serial = [⟨x.serial, l, .ofMessage m⟩])
  /-- The exchange ends on an error that is no reply. -/
  | failed (o : Outcome) (hop : ∀ m, op ≠ .receive m) (hgone : ¬ result.1.Holds x.serial)
      (hr : result.2.reportsOn x.serial = [⟨x.serial, l, o⟩])
  | abandoned (hop : op = .abandon id) (hgone : ¬ result.1.Holds x.serial)
      (hr : result.2.reportsOn x.serial = [])

section

variable {d : Desk} {id : TransactionId} {x : Exchange} {l : Listener}

/-- An exchange whose place was emptied is nowhere else. -/
theorem Sound.not_holds_erase (hd : d.Sound) (hx : d.table.exchanges.get? id = some x) :
    ¬ Holds { d with table := { d.table with exchanges := d.table.exchanges.erase id } }
      x.serial := by
  rintro ⟨id', x', hx', heq⟩
  simp only [Directory.get?_erase] at hx'
  split at hx'
  · cases hx'
  · next hne => exact hne (hd.serial_inj hx' hx heq)

/-- A report about one exchange is none about an exchange under another id. -/
theorem Sound.serial_ne (hd : d.Sound) (hx : d.table.exchanges.get? id = some x)
    {id' : TransactionId} {x' : Exchange} (hx' : d.table.exchanges.get? id' = some x')
    (hne : id' ≠ id) : (x'.serial == x.serial) = false := by
  rw [beq_eq_false_iff_ne]
  exact fun heq => hne (hd.serial_inj hx' hx heq)

/-- No ticket releases a listened exchange. -/
private theorem Sound.release_listened (hd : d.Sound) (hx : d.table.exchanges.get? id = some x)
    (hl : x.listener = some l) {t : Ticket} (ht : t ∈ d.tickets) :
    (d.table.release t).exchanges.get? id = some x := by
  rw [Correlator.release_get?, hx]
  -- a ticket with this serial number would be for a waited exchange
  have hne : x.serial ≠ t.serial := by
    intro heq
    rw [(hd.ticket_waited ht hx heq).2] at hl
    cases hl
  simp [Option.filter, hne]

/-- Neither does what is collected with a ticket. -/
private theorem Sound.collect_listened (hd : d.Sound) (hx : d.table.exchanges.get? id = some x)
    (hl : x.listener = some l) {t : Ticket} (ht : t ∈ d.tickets)
    {outcome : Except Failure Message} {table : Correlator}
    (hc : d.table.collect t = some (outcome, table)) : table.exchanges.get? id = some x := by
  unfold Correlator.collect at hc
  split at hc
  · cases hc
  · next delivery rest hbox =>
    cases hc
    -- the last delivery of a mailbox releases the exchange that its ticket is for
    split
    · exact hd.release_listened hx hl ht
    · exact hx

/-- A waited exchange is under another id than a listened one. -/
private theorem ne_of_listener (hx : d.table.exchanges.get? id = some x) (hl : x.listener = some l)
    {id' : TransactionId} {x' : Exchange} (hx' : d.table.exchanges.get? id' = some x')
    (hl' : x'.listener = none) : id' ≠ id := by
  rintro rfl
  obtain rfl : x = x' := Option.some.inj (hx.symm.trans hx')
  rw [hl] at hl'
  cases hl'

/-- A free id is not that of a pending exchange. -/
private theorem ne_of_free (hx : d.table.exchanges.get? id = some x) {id' : TransactionId}
    (hfree : d.table.exchanges.get? id' = none) : id' ≠ id := by
  rintro rfl
  rw [hx] at hfree
  cases hfree

/-- One report, on the exchange it is about. -/
theorem reportsOn_self {a : Answer} {n : Nat} {l : Listener} {o : Outcome}
    (h : a.reports = [⟨n, l, o⟩]) : a.reportsOn n = [⟨n, l, o⟩] := by
  simp [Answer.reportsOn, h]

/-- One report, on any other exchange. -/
theorem reportsOn_other {a : Answer} {r : Report} (h : a.reports = [r]) {n : Nat}
    (hne : (r.serial == n) = false) : a.reportsOn n = [] := by
  simp [Answer.reportsOn, h, hne]

/-- A reply concerns the exchange under its id and leaves the others where they are. -/
private theorem fate_of_receive (hd : d.Sound) (hx : d.table.exchanges.get? id = some x)
    (hl : x.listener = some l) (m : Message) :
    Fate (.receive m) id x l (d.step (.receive m)) := by
  have hop : Op.receive m ≠ .abandon id := by intro h; cases h
  have h := d.table.receive_received m
  simp only [step]
  generalize d.table.receive m = result at h
  cases h with
  | dropped | refused => exact .kept hop hx rfl
  | posted _ hx' _ hl' =>
    -- what goes to a mailbox is for another exchange
    have hne := ne_of_listener hx hl hx' hl'
    exact .kept hop (by simp [Directory.get?_put, hne, hx]) rfl
  | @passed id' x' next l' _ hx' hstate hl' hopen =>
    -- the reply is for this exchange or for one under another id
    by_cases hid : id' = id
    · subst hid
      obtain rfl : x = x' := Option.some.inj (hx.symm.trans hx')
      obtain rfl : l = l' := Option.some.inj (hl.symm.trans hl')
      exact .passed rfl hstate hopen (Directory.get?_put_self ..) (reportsOn_self rfl)
    · have hother := hd.serial_ne hx hx' hid
      exact .kept hop (by simp [Directory.get?_put, hid, hx]) (reportsOn_other rfl hother)
  | @completed id' x' next l' _ hx' hstate hl' hover =>
    by_cases hid : id' = id
    · subst hid
      obtain rfl : x = x' := Option.some.inj (hx.symm.trans hx')
      obtain rfl : l = l' := Option.some.inj (hl.symm.trans hl')
      exact .completed rfl hstate hover (hd.not_holds_erase hx) (reportsOn_self rfl)
    · have hother := hd.serial_ne hx hx' hid
      exact .kept hop (by simp [Directory.get?_erase, Ne.symm hid, hx]) (reportsOn_other rfl hother)

/-- So does an error. -/
private theorem fate_of_fail (hd : d.Sound) (hx : d.table.exchanges.get? id = some x)
    (hl : x.listener = some l) (now : UInt64) (header : Header) (failure : Failure) :
    Fate (.fail now header failure) id x l (d.step (.fail now header failure)) := by
  have hop : Op.fail now header failure ≠ .abandon id := by intro h; cases h
  have h := d.table.fail_failed now header failure
  simp only [step]
  generalize d.table.fail now header failure = result at h
  cases h with
  | dropped => exact .kept hop hx rfl
  | posted _ hx' _ hl' =>
    have hne := ne_of_listener hx hl hx' hl'
    exact .kept hop (by simp [Directory.get?_put, hne, hx]) rfl
  -- so is the error
  | @reported id' x' stage l' _ hx' hstage hl' =>
    by_cases hid : id' = id
    · subst hid
      obtain rfl : x = x' := Option.some.inj (hx.symm.trans hx')
      obtain rfl : l = l' := Option.some.inj (hl.symm.trans hl')
      exact .failed _ (by intro m h; cases h) (hd.not_holds_erase hx) (reportsOn_self rfl)
    · have hother := hd.serial_ne hx hx' hid
      exact .kept hop (by simp [Directory.get?_erase, Ne.symm hid, hx]) (reportsOn_other rfl hother)

/-- A shutdown is told to the listener of an exchange, at the stage that was waited for. -/
theorem reportsOn_shutdown (hd : d.Sound) (hx : d.table.exchanges.get? id = some x)
    (hl : x.listener = some l) {stage : Stage} (hstage : x.state.pendingStage = some stage)
    (now : UInt64) :
    (d.step (.shutdown now)).2.reportsOn x.serial =
      [⟨x.serial, l, .error (Correlator.errorHeader now id x stage none)
        Correlator.closed.standardError⟩] := by
  -- of all that a shutdown tells, one report is about this exchange
  have hreports := Correlator.shutdown_filter_serial hx
    (fun id' x' hx' heq => hd.serial_inj hx' hx heq) now
  have hreport : Correlator.shutdownReport? now id x =
      some ⟨x.serial, l, .error (Correlator.errorHeader now id x stage none)
        Correlator.closed.standardError⟩ := by
    simp only [Correlator.shutdownReport?, hstage, Option.bind_some, Correlator.errorReport, hl,
      Option.map_some]
  rw [hreport] at hreports
  exact hreports

/-- A shutdown ends every exchange. -/
private theorem fate_of_shutdown (hd : d.Sound) (hx : d.table.exchanges.get? id = some x)
    (hl : x.listener = some l) (hopen : x.state.isFinished = false) (now : UInt64) :
    Fate (.shutdown now) id x l (d.step (.shutdown now)) := by
  obtain ⟨stage, hstage⟩ := ReplyState.exists_pendingStage hopen
  refine .failed _ (by intro m h; cases h) ?_ (reportsOn_shutdown hd hx hl hstage now)
  -- the table is empty now
  rintro ⟨id', x', hx', _⟩
  cases hx'

/-- Every operation does one of the things listed to a listened exchange that is not over. -/
theorem fate (hd : d.Sound) (hx : d.table.exchanges.get? id = some x) (hl : x.listener = some l)
    (hopen : x.state.isFinished = false) (op : Op) : Fate op id x l (d.step op) := by
  cases op with
  | receive m => exact fate_of_receive hd hx hl m
  | fail now header failure => exact fate_of_fail hd hx hl now header failure
  | shutdown now => exact fate_of_shutdown hd hx hl hopen now
  | initiate seconds p stage l' =>
    have h := d.table.initiate_initiated seconds p stage l'
    simp only [step]
    generalize d.table.initiate seconds p stage l' = result at h
    refine .kept (by intro h; cases h) ?_ rfl
    cases h with
    | refused | unkept => exact hx
    -- a new exchange takes a free id
    | added a _ hfree =>
      have hne := ne_of_free hx hfree
      simp [Correlator.add_get?, hne, hx]
  | resume p last id' l' =>
    have h := d.table.resume_resumed p last id' l'
    simp only [step]
    generalize d.table.resume p last id' l' = result at h
    refine .kept (by intro h; cases h) ?_ rfl
    cases h with
    | refused => exact hx
    | added _ hfree =>
      have hne := ne_of_free hx hfree
      simp [Correlator.add_get?, hne, hx]
  | abandon id' =>
    -- what is abandoned is this exchange or another one
    by_cases hid : id' = id
    · subst hid
      exact .abandoned rfl (hd.not_holds_erase hx) rfl
    · refine .kept (fun heq => hid (by injection heq)) ?_ rfl
      simp [step, Correlator.abandon, Directory.get?_erase, Ne.symm hid, hx]
  | await id' =>
    refine .kept (by intro h; cases h) ?_ ?_ <;> simp only [step] <;> split
    · -- a ticket is given out, or refused; the table is the same
      exact hx
    · exact hx
    · rfl
    · rfl
  | collect t =>
    refine .kept (by intro h; cases h) ?_ ?_ <;> simp only [step] <;> split
    · next ht =>
      -- a collection may release an exchange, but not a listened one
      split
      · next outcome table hc => exact hd.collect_listened hx hl ht hc
      · exact hx
    · exact hx
    · split <;> rfl
    · rfl
  | expire t milliseconds =>
    refine .kept (by intro h; cases h) ?_ ?_ <;> simp only [step] <;> split
    · next ht => exact hd.release_listened hx hl ht.1
    · exact hx
    · rfl
    · rfl

end

/-! ## What a run tells -/

/-- The marks of the replies among what was told. -/
def replyMarks (told : List (Op × Report)) : List Mark :=
  told.filterMap fun
    | (.receive _, r) => some r.outcome.header.mark
    | _ => none

/-- Whether a report is the last that an interaction of this pattern may have: the reply that ends
    it, or an error that is no reply. -/
def concludes (p : Pattern) : Op × Report → Bool
  | (.receive _, r) => p.ends r.outcome.header.mark
  | _ => true

/-- What the listener `l` may be told of an interaction of pattern `p` after the stage `s`. -/
structure Heard (p : Pattern) (s : Stage) (l : Listener) (told : List (Op × Report)) : Prop where
  listener : ∀ e ∈ told, e.2.listener = l
  /-- The replies are the beginning of a course. -/
  course : ∃ w, Course p s w ∧ replyMarks told <+: w
  /-- No report but the last concludes the interaction. -/
  last : ∀ e ∈ told.dropLast, concludes p e = false

namespace Heard

variable {p : Pattern} {s : Stage} {l : Listener}

/-- Nothing may be told yet. -/
private theorem nil (h : ∃ w, Course p s w) : Heard p s l [] where
  listener := by simp
  course := by
    obtain ⟨w, hw⟩ := h
    exact ⟨w, hw, List.nil_prefix⟩
  last := by simp

/-- An error that is no reply may come at any time. -/
private theorem error (h : ∃ w, Course p s w) {op : Op} (hop : ∀ m, op ≠ .receive m) (n : Nat)
    (o : Outcome) : Heard p s l [(op, ⟨n, l, o⟩)] where
  listener := by simp
  course := by
    -- an error by itself has no mark among the replies
    obtain ⟨w, hw⟩ := h
    have hnone : replyMarks [(op, ⟨n, l, o⟩)] = [] := by
      cases op with
      | receive m => exact absurd rfl (hop m)
      | _ => rfl
    exact ⟨w, hw, by rw [hnone]; exact List.nil_prefix⟩
  last := by simp

/-- The last reply. -/
private theorem reply {m : Message} (h : Course p s [m.header.mark]) (n : Nat) :
    Heard p s l [(.receive m, ⟨n, l, .ofMessage m⟩)] where
  listener := by simp
  course := ⟨_, h, by simp [replyMarks]⟩
  last := by simp

/-- A reply on the way, before what is told after its stage. -/
private theorem cons {m : Message} (hend : p.ends m.header.mark = false)
    (hcourse : ∀ w, Course p m.header.mark.1 w → Course p s (m.header.mark :: w))
    {told : List (Op × Report)} (h : Heard p m.header.mark.1 l told) (n : Nat) :
    Heard p s l ((.receive m, ⟨n, l, .ofMessage m⟩) :: told) where
  listener := by
    intro e he
    rcases List.mem_cons.1 he with rfl | he
    · rfl
    · exact h.listener e he
  course := by
    obtain ⟨w, hw, hprefix⟩ := h.course
    refine ⟨_, hcourse w hw, ?_⟩
    simpa [replyMarks] using hprefix
  last := by
    intro e he
    -- what was told last is the last still
    cases told with
    | nil => cases he
    | cons e' rest =>
      rcases List.mem_cons.1 he with rfl | he
      · simpa [concludes] using hend
      · exact h.last e he

end Heard

/-- An exchange that is not in the table is not in its place. -/
private theorem not_pending_of_not_holds {d : Desk} {n : Nat} (h : ¬ d.Holds n)
    (id : TransactionId) :
    ¬ ∃ x, d.table.exchanges.get? id = some x ∧ x.serial = n := by
  rintro ⟨x, hx, heq⟩
  exact h ⟨id, x, hx, heq⟩

/-- What a run tells of a listened exchange that is under way; and the exchange keeps its place as
    long as nothing concluded it and it was not abandoned. -/
theorem told_of_listened {d : Desk} (hd : d.Sound) {id : TransactionId} {x : Exchange}
    {l : Listener} {p : Pattern} {s : Stage} (hx : d.table.exchanges.get? id = some x)
    (hl : x.listener = some l) (hu : ReplyState.UnderWay p s x.state) (ops : List Op) :
    Heard p s l (d.told x.serial ops) ∧
      ((∃ x', (d.after ops).table.exchanges.get? id = some x' ∧ x'.serial = x.serial) ↔
        (∀ e ∈ d.told x.serial ops, concludes p e = false) ∧ .abandon id ∉ ops) := by
  -- what is carried through the run is the stage `s` seen last; the exchange changes its state
  induction ops generalizing d x s with
  | nil =>
    refine ⟨.nil hu.exists_course, ?_⟩
    simp [told, hx]
  | cons op ops ih =>
    have hlt : x.serial < (d.step op).1.table.made :=
      Nat.lt_of_lt_of_le (hd.serial_lt hx) (d.made_le_step op)
    simp only [told, after_cons]
    cases fate hd hx hl hu.isFinished op with
    -- nothing was told of it, and it is as it was
    | kept hop hx' hr =>
      rw [hr]
      obtain ⟨hheard, hiff⟩ := ih (hd.step op) hx' hl hu
      refine ⟨hheard, ?_⟩
      rw [List.map_nil, List.nil_append, hiff, List.mem_cons, not_or]
      exact and_congr_right fun _ => (and_iff_right (Ne.symm hop)).symm
    | @passed m next hop hstate hopen hx' hr =>
      subst hop
      rw [hr]
      have haccept := ReplyState.receive_eq_ok_iff.1 hstate
      rcases hu.of_accept haccept with ⟨_, hover, _⟩ | ⟨hend, hnext, hcourse⟩
      · -- it would be over
        rw [hopen] at hover
        cases hover
      · obtain ⟨hheard, hiff⟩ := ih (hd.step _) hx' hl hnext
        refine ⟨.cons hend hcourse hheard x.serial, ?_⟩
        dsimp only at hiff
        rw [hiff]
        simp [concludes, hend]
    | @completed m next hop hstate hover hgone hr =>
      subst hop
      -- with the last reply it has left the table, and nothing follows
      obtain ⟨hlast, htold⟩ := told_of_not_holds hlt hgone ops
      rw [hr, htold]
      have haccept := ReplyState.receive_eq_ok_iff.1 hstate
      rcases hu.of_accept haccept with ⟨hend, _, hcourse⟩ | ⟨_, hnext, _⟩
      · refine ⟨.reply hcourse x.serial, ?_⟩
        have hconcludes : concludes p (.receive m, ⟨x.serial, l, .ofMessage m⟩) = true := by
          simpa [concludes] using hend
        refine iff_of_false (not_pending_of_not_holds hlast id) ?_
        rintro ⟨hnone, _⟩
        cases hconcludes.symm.trans (hnone _ (.head _))
      · -- it would still be under way
        rw [hnext.isFinished] at hover
        cases hover
    | failed o hop hgone hr =>
      -- so it is after an error
      obtain ⟨hlast, htold⟩ := told_of_not_holds hlt hgone ops
      rw [hr, htold]
      refine ⟨.error hu.exists_course hop x.serial o, ?_⟩
      have hconcludes : concludes p (op, ⟨x.serial, l, o⟩) = true := by
        cases op with
        | receive m => exact absurd rfl (hop m)
        | _ => rfl
      refine iff_of_false (not_pending_of_not_holds hlast id) ?_
      rintro ⟨hnone, _⟩
      cases hconcludes.symm.trans (hnone _ (.head _))
    | abandoned hop hgone hr =>
      -- nothing is told, and the iff holds on account of `ops`
      obtain ⟨hlast, htold⟩ := told_of_not_holds hlt hgone ops
      rw [hr, htold]
      refine ⟨.nil hu.exists_course, ?_⟩
      refine iff_of_false (not_pending_of_not_holds hlast id) ?_
      rintro ⟨_, hnot⟩
      exact hnot (by rw [hop]; exact .head _)

/-! ## From the first operation on -/

/-- A reply that is refused changes nothing and is not reported. -/
private theorem step_receive_of_error {d : Desk} {m : Message} {failure : Failure}
    (h : (d.step (.receive m)).2 = .received (.error failure)) :
    d.step (.receive m) = (d, .received (.error failure)) := by
  have hreceived := d.table.receive_received m
  simp only [step] at h ⊢
  generalize d.table.receive m = result at h hreceived
  -- only a refused reply is answered with an error
  cases hreceived with
  | refused => cases h; rfl
  | dropped | posted | passed | completed => cases h

/-- Interactions with a listener are concluded at most once. Whatever an instance did before and
    does afterwards, the exchange `x` that an operation made for a listener was opened at some
    stage, and: what the listener is told of it begins a course after that stage; only the last
    report concludes it; it is pending until it is concluded or abandoned; and a reply that is
    refused changes nothing. -/
theorem listened_at_most_once (a : Allocator) (patience : UInt64) (before : List Op) (op : Op)
    (ops : List Op) {l : Listener} {id : TransactionId} {x : Exchange} :
    let d := (new a patience).after before
    let last := d.after (op :: ops)
    let told := d.told x.serial (op :: ops)
    (d.step op).1.table.exchanges.get? id = some x → x.serial = d.table.made →
      x.listener = some l →
      ∃ s, op.opens? = some (x.pattern, s, some l) ∧ Heard x.pattern s l told ∧
        ((∃ x', last.table.exchanges.get? id = some x' ∧ x'.serial = x.serial) ↔
          (∀ e ∈ told, concludes x.pattern e = false) ∧ .abandon id ∉ ops) ∧
        ∀ m failure, (last.step (.receive m)).2 = .received (.error failure) →
          (last.step (.receive m)).1 = last ∧ (last.step (.receive m)).2.reports = [] := by
  intro d last told hx hnew hl
  have hd : d.Sound := (sound_new a patience).after before
  obtain ⟨s, hopens, hu, hreports⟩ := opened hd hx hnew
  rw [hl] at hopens
  -- the operation that opens the exchange tells nothing of it
  have htold : told = (d.step op).1.told x.serial ops := by
    simp [told, Desk.told, Answer.reportsOn, hreports]
  obtain ⟨hheard, hiff⟩ := told_of_listened (hd.step op) hx hl hu ops
  rw [htold]
  refine ⟨s, hopens, hheard, hiff, ?_⟩
  intro m failure h
  rw [step_receive_of_error h]
  exact ⟨rfl, rfl⟩

/-- An Invoke that was taken over at its first stage, with every reply twice: the second
    acknowledgement and the second response are not told, and nothing is pending afterwards. -/
theorem listened_at_most_once_invoke :
    let l := Listener.interaction "l"
    let ack : Message :=
      { header := { uriFrom := "p", uriTo := "c", pattern := .invoke, stage := some 2,
                    timestamp := 0, transaction := some 7 } }
    let response : Message := { header := { ack.header with stage := some 3 } }
    let d := new ⟨0, 0, 0⟩ 1000
    let ops := [Op.receive ack, .receive ack, .receive response, .receive response]
    let told := d.told 0 (.resume .invoke 1 7 l :: ops)
    told.map (fun e => e.2.outcome) = [.message ack, .message response] ∧
      Heard .invoke Stage.initial l told ∧
      ¬ ∃ x, (d.after (.resume .invoke 1 7 l :: ops)).table.exchanges.get? 7 = some x ∧
        x.serial = 0 := by
  intro l ack response d ops told
  let x : Exchange := ⟨0, .invoke, .invoke .awaitingAck, some l⟩
  have hx : (d.step (.resume .invoke 1 7 l)).1.table.exchanges.get? 7 = some x := rfl
  obtain ⟨s, hopens, hheard, hiff, _⟩ :=
    listened_at_most_once ⟨0, 0, 0⟩ 1000 [] (.resume .invoke 1 7 l) ops hx rfl rfl
  cases hopens
  refine ⟨rfl, hheard, ?_⟩
  intro hpending
  have hnone := (hiff.1 hpending).1
  cases hnone (.receive response, ⟨0, l, .message response⟩) (.tail _ (.head _))

end Desk

end Mal
