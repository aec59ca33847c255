import Mal.Proofs.Provider.Clones

/-!
# Replies that fail while others are sent

A reply call that fails puts back what was on record when it began. This undoes its own step and
nothing else exactly if the record is still as the call left it (`Clones.faithful_iff`): what other
calls have recorded since is lost, also when their replies have been sent, and what they have taken
back since comes back. Calls that are made one after another never meet this.

An acknowledgement that has been sent is safe all the same. A call that would put back a record
without one has begun before it, so it is the acknowledgement itself or has failed by then
(`Clones.Acked`).

## Key results

- `Clones.Tidy.faithful_step_iff`: one move keeps the record exact unless a call fails that was
  disturbed
- `Clones.faithful_iff`: whole runs, and what is remembered in them of the replies that were sent
- `Clones.not_keepsEnd_of_overlap`: the response of an Invoke is sent and forgotten
-/

namespace Mal.Clones

variable {c : Clones} {n : Nat} {a : Attempt}

/-- What is on record is what was there at the start and what the calls that did not fail have put
    there. So a call that has failed has undone its own step and nothing else. -/
def Faithful (c : Clones) : Prop :=
  ∀ f : ReplyFlag, f.read c.respondent.progress = true ↔
    f.read c.start = true ∨ ∃ n, c.Sets n f

/-- Once a reply that ends the interaction has been sent, the interaction is complete, and no other
    call is let through. -/
def KeepsEnd (c : Clones) : Prop :=
  ∀ a ∈ c.attempts, a.Sent → c.respondent.pattern.ends a.reply.header.mark = true →
    c.respondent.progress.complete = true ∧
      ∀ now call begun, c.respondent.begin now call ≠ some (.ok begun)

/-- An acknowledgement that has been sent is on record. -/
def KeepsAcknowledgement (c : Clones) : Prop :=
  ∀ a ∈ c.attempts, a.Sent → c.respondent.pattern.acknowledges a.reply.header.mark = true →
    c.respondent.progress.acknowledged = true

/-! ## One move -/

/-- The call has put on record what its reply says under the pattern, and none of it was there
    before. -/
def Attempt.Fits (a : Attempt) (p : Pattern) : Prop :=
  ∀ f : ReplyFlag, (f.setBy p a.reply.header.mark = true → f.read a.before = false) ∧
    f.read a.recorded = (f.read a.before || f.setBy p a.reply.header.mark)

/-- What is known of the clones as long as no call was disturbed. -/
structure Tidy (c : Clones) : Prop where
  faithful : c.Faithful
  fits : ∀ a ∈ c.attempts, a.Fits c.respondent.pattern
  /-- What one call has put on record no other call has, and it was not there at the start. -/
  sole : ∀ f n, c.Sets n f → f.read c.start = false ∧ ∀ n', c.Sets n' f → n' = n

/-- A call that begins keeps the record exact. -/
private theorem Tidy.launch (h : c.Tidy) {now : UInt64} {call : ReplyCall} {begun : Respondent}
    {m : Message} (hbegin : c.respondent.begin now call = some (.ok (begun, m))) :
    (c.launch begun m).Tidy := by
  obtain ⟨hsteps, hpattern⟩ := Respondent.steps_of_begin hbegin
  have hsets := sets_launch_iff hpattern m
  -- what the new call sets was due to no call before it
  have hnone (f : ReplyFlag) (hset : f.setBy c.respondent.pattern m.header.mark = true) :
      f.read c.start = false ∧ ∀ n, ¬ c.Sets n f := by
    have hfalse := (hsteps.read f).1 hset
    have hdue := mt (h.faithful f).2 (by rw [hfalse]; exact Bool.false_ne_true)
    exact ⟨by simpa using fun hs => hdue (.inl hs), fun n hn => hdue (.inr ⟨n, hn⟩)⟩
  refine ⟨fun f => ?_, fun a ha => ?_, fun f n hn => ?_⟩
  · -- the record: what was on it, and what the new call sets
    simp only [launch_start, launch_respondent, hsets, (hsteps.read f).2, Bool.or_eq_true,
      h.faithful f]
    constructor
    · rintro ((hs | ⟨n, hn⟩) | hset)
      · exact .inl hs
      · exact .inr ⟨n, .inl hn⟩
      · exact .inr ⟨_, .inr ⟨rfl, hset⟩⟩
    · rintro (hs | ⟨n, hn | ⟨-, hset⟩⟩)
      · exact .inl (.inl hs)
      · exact .inl (.inr ⟨n, hn⟩)
      · exact .inr hset
  · -- the calls: those before, and the new one, which fits by its step
    rw [launch_respondent, hpattern]
    rcases List.mem_append.1 ha with ha | ha
    · exact h.fits a ha
    · rw [List.mem_singleton.1 ha]
      exact hsteps.read
  · simp only [launch_start, hsets] at hn ⊢
    -- the new call sets nothing that another call set before it
    rcases hn with hn | ⟨rfl, hset⟩
    · refine ⟨(h.sole f n hn).1, ?_⟩
      rintro n' (hn' | ⟨-, hset⟩)
      · exact (h.sole f n hn).2 n' hn'
      · exact absurd hn ((hnone f hset).2 n)
    · refine ⟨(hnone f hset).1, ?_⟩
      rintro n' (hn' | ⟨rfl, -⟩)
      · exact absurd hn' ((hnone f hset).2 n')
      · rfl

/-- A send that ends keeps what is known of the calls, if it keeps the record exact. -/
private theorem Tidy.land (h : c.Tidy) (ha : c.inFlight? n = some a) {result : Except Failure Unit}
    (hfaithful : (c.land n a result).Faithful) : (c.land n a result).Tidy := by
  have hsets := sets_land_iff ha result
  refine ⟨hfaithful, ?_, ?_⟩
  · intro b hb
    rw [land_pattern]
    -- the call whose send ends fits as before, since its result is none of what is asked
    rcases List.mem_or_eq_of_mem_set hb with hb | rfl
    · exact h.fits b hb
    · exact h.fits a (List.mem_of_getElem? (inFlight?_eq_some_iff.1 ha).1)
  · intro f n' hn'
    simp only [hsets, land_start] at hn' ⊢
    exact ⟨(h.sole f n' hn'.1).1, fun k hk => (h.sole f n' hn'.1).2 k hk.1⟩

/-- What has been put on record by other calls than one in flight: all of it, except what that call
    alone has put there. -/
private theorem Tidy.exists_other_iff (h : c.Tidy) (ha : c.inFlight? n = some a) (f : ReplyFlag) :
    (∃ n', c.Sets n' f ∧ n' ≠ n) ↔
      f.setBy c.respondent.pattern a.reply.header.mark = false ∧ ∃ n', c.Sets n' f := by
  have hmine := sets_iff_of_inFlight (f := f) ha
  cases hset : f.setBy c.respondent.pattern a.reply.header.mark with
  -- what the call set no other has set
  | true =>
    have hsole := (h.sole f n (hmine.2 hset)).2
    simpa using hsole
  | false =>
    have hnot : ¬ c.Sets n f := by
      rw [hmine, hset]
      exact Bool.false_ne_true
    simp only [true_and]
    constructor
    · rintro ⟨n', hn', -⟩
      exact ⟨n', hn'⟩
    · rintro ⟨n', hn'⟩
      refine ⟨n', hn', ?_⟩
      rintro rfl
      exact hnot hn'

/-- A failure that puts back what was on record before the call undoes the step of the call alone,
    exactly if the record is still as the call left it. -/
private theorem Tidy.faithful_failed_iff (h : c.Tidy) (ha : c.inFlight? n = some a)
    (failure : Failure) :
    (c.land n a (.error failure)).Faithful ↔ c.respondent.progress = a.recorded := by
  have hfits := h.fits a (List.mem_of_getElem? (inFlight?_eq_some_iff.1 ha).1)
  rw [ReplyProgress.eq_iff_read]
  -- flag by flag
  refine forall_congr' fun f => ?_
  have hread := h.faithful f
  obtain ⟨hfresh, hrecorded⟩ := hfits f
  simp only [land_error_progress, land_start, sets_land_iff ha, reduceCtorEq, imp_false]
  rw [h.exists_other_iff ha, hrecorded]
  cases hset : f.setBy c.respondent.pattern a.reply.header.mark with
  | true =>
    -- the call has set the flag, so it is on record before the failure and off it afterwards
    have hmine := (sets_iff_of_inFlight ha).2 hset
    simp [hfresh hset, (h.sole f n hmine).1, hread.2 (.inr ⟨n, hmine⟩)]
  | false =>
    -- the call has not touched the flag, so it has to be as it was when the call began
    have hagree : f.read c.respondent.progress = f.read a.before ↔
        (f.read a.before = true ↔ f.read c.respondent.progress = true) := by
      rw [eq_comm, Bool.eq_iff_iff]
    rw [Bool.or_false, hagree, hread]
    simp only [true_and]

/-- One move keeps the record exact unless it is the failure of a call that was disturbed. -/
theorem Tidy.faithful_step_iff (h : c.Tidy) (move : Move) :
    (c.step move).Faithful ↔ ¬ c.Disturbed move := by
  cases move with
  | begins now call =>
    -- a call that begins is never a failure
    refine iff_of_true ?_ id
    rcases c.step_begins_cases now call with ⟨begun, m, hbegin, hstep⟩ | hstep <;> rw [hstep]
    · exact (h.launch hbegin).faithful
    · exact h.faithful
  | ends n result =>
    cases ha : c.inFlight? n with
    | none => simp [Disturbed, step, ha, h.faithful]
    | some a =>
      simp only [step, ha]
      cases result with
      | error failure => simp [h.faithful_failed_iff ha, Disturbed, ha]
      | ok u =>
        -- a send that succeeds leaves the record as it is, and the call counts as before
        refine iff_of_true ?_ (by simp [Disturbed])
        intro f
        simpa [sets_land_iff ha] using h.faithful f

/-- What is known of the clones stays known as long as the record is exact. -/
private theorem Tidy.step (h : c.Tidy) {move : Move} (hfaithful : (c.step move).Faithful) :
    (c.step move).Tidy := by
  cases move with
  | begins now call =>
    rcases c.step_begins_cases now call with ⟨begun, m, hbegin, hstep⟩ | hstep <;> rw [hstep]
    · exact h.launch hbegin
    · exact h
  | ends n result =>
    cases ha : c.inFlight? n with
    | none => simpa only [Clones.step, ha] using h
    | some a =>
      simp only [Clones.step, ha] at hfaithful ⊢
      exact h.land ha hfaithful

/-! ## Runs -/

/-- Nothing has gone wrong before the first call. -/
private theorem tidy_of (r : Respondent) : (of r).Tidy := by
  -- there are no calls of which anything could hold
  have hnone (f : ReplyFlag) (n : Nat) : ¬ (of r).Sets n f := by
    rintro ⟨a, ha, -⟩
    simp [of] at ha
  refine ⟨fun f => ?_, fun a ha => by simp [of] at ha, fun f n hn => absurd hn (hnone f n)⟩
  simp only [hnone, exists_false, or_false]
  exact Iff.rfl

/-- The record is exact at every moment of a run exactly if no call in it is disturbed when it
    fails. -/
private theorem Tidy.faithful_after_iff (h : c.Tidy) (run : List Move) :
    (∀ n, (c.after (run.take n)).Faithful) ↔ c.Undisturbed run := by
  induction run generalizing c with
  | nil => simp [after, h.faithful, Undisturbed]
  | cons move run ih =>
    -- at the first moment, and at those of the rest of the run from where the first move leads
    rw [undisturbed_cons_iff, ← h.faithful_step_iff move]
    constructor
    · intro hall
      have hfaithful : (c.step move).Faithful := hall 1
      exact ⟨hfaithful, (ih (h.step hfaithful)).1 fun n => hall (n + 1)⟩
    · rintro ⟨hfaithful, hrest⟩ (_ | n)
      · exact h.faithful
      · exact (ih (h.step hfaithful)).2 hrest n

/-- As long as the record is exact, it is remembered that the interaction has been ended. -/
private theorem Faithful.keepsEnd (h : c.Faithful) : c.KeepsEnd := by
  intro a ha hsent hends
  have hcomplete : c.respondent.progress.complete = true :=
    (h .complete).2 (.inr (exists_sets_of_sent ha hsent hends))
  refine ⟨hcomplete, ?_⟩
  rintro now call ⟨begun, m⟩ hbegin
  -- no call is let through by a record that is complete
  have hopen := (Respondent.steps_of_begin hbegin).1.complete_eq_false
  rw [hcomplete] at hopen
  cases hopen

/-! ## Acknowledgements -/

/-- The `n`-th call is in flight, and began before anything was acknowledged. -/
def Early (c : Clones) (n : Nat) : Prop :=
  ∃ a, c.inFlight? n = some a ∧ a.before.acknowledged = false

/-- What keeps acknowledgements on record, also where calls disturb each other: a call that would
    put back a record without one is alone, and while it is in flight no other like it can begin. -/
structure Acked (c : Clones) : Prop where
  recorded : ∀ n, c.Sets n .acknowledged → c.respondent.progress.acknowledged = true
  busy : ∀ n, c.Early n → c.respondent.progress ≠ {}
  sole : ∀ n, c.Early n → ∀ n', c.Sets n' .acknowledged ∨ c.Early n' → n' = n

/-- Which calls are early once one more call has begun. -/
private theorem early_launch_iff (begun : Respondent) (m : Message) (n : Nat) :
    (c.launch begun m).Early n ↔
      c.Early n ∨ n = c.attempts.length ∧ c.respondent.progress.acknowledged = false := by
  simp only [Early, inFlight?_eq_some_iff, getElem?_attempts_launch]
  by_cases hn : n = c.attempts.length
  · simp [hn, and_assoc]
  · simp [hn]

/-- Which calls are early once a send has ended: those that were, except the one that has ended. -/
private theorem early_land_iff (ha : c.inFlight? n = some a) (result : Except Failure Unit)
    (n' : Nat) :
    (c.land n a result).Early n' ↔ c.Early n' ∧ n' ≠ n := by
  simp only [Early, inFlight?_eq_some_iff, getElem?_attempts_land ha]
  by_cases hn : n' = n
  · simp [hn, and_assoc]
  · simp [hn]

/-- A call that begins before anything is acknowledged finds no other like it, and leaves something
    on record. -/
private theorem Acked.launch (h : c.Acked) {now : UInt64} {call : ReplyCall} {begun : Respondent}
    {m : Message} (hbegin : c.respondent.begin now call = some (.ok (begun, m))) :
    (c.launch begun m).Acked := by
  obtain ⟨hsteps, hpattern⟩ := Respondent.steps_of_begin hbegin
  obtain ⟨hfresh, hread⟩ := hsteps.read .acknowledged
  have hopen := hsteps.complete_eq_false
  have hnone (hack : c.respondent.progress.acknowledged = false) (n : Nat) :
      ¬ c.Early n ∧ ¬ c.Sets n .acknowledged := by
    refine ⟨fun hn => h.busy n hn ?_, fun hn => ?_⟩
    · -- a record on which nothing stands is the empty one
      exact ReplyProgress.eq_iff_read.2 fun f => by cases f <;> assumption
    · rw [h.recorded n hn] at hack
      cases hack
  refine ⟨fun n hn => ?_, fun n hn => hsteps.ne_empty, fun n hn n' hn' => ?_⟩
  · show ReplyFlag.acknowledged.read begun.progress = true
    rw [hread, Bool.or_eq_true]
    -- what was on record stays there
    rcases (sets_launch_iff hpattern m n .acknowledged).1 hn with hn | ⟨-, hset⟩
    · exact .inl (h.recorded n hn)
    · exact .inr hset
  · rw [early_launch_iff] at hn
    rw [sets_launch_iff hpattern, early_launch_iff] at hn'
    -- of an old call and the new one
    rcases hn with hn | ⟨rfl, hack⟩
    · rcases hn' with (hn' | ⟨-, hset⟩) | (hn' | ⟨-, hack⟩)
      · exact h.sole n hn n' (.inl hn')
      · exact absurd hn (hnone (hfresh hset) n).1
      · exact h.sole n hn n' (.inr hn')
      · exact absurd hn (hnone hack n).1
    · rcases hn' with (hn' | ⟨rfl, -⟩) | (hn' | ⟨rfl, -⟩)
      · exact absurd hn' (hnone hack n').2
      · rfl
      · exact absurd hn' (hnone hack n').1
      · rfl

/-- A send that ends takes no acknowledgement off the record but its own. -/
private theorem Acked.land (h : c.Acked) (ha : c.inFlight? n = some a)
    (result : Except Failure Unit) :
    (c.land n a result).Acked := by
  refine ⟨fun k hk => ?_, fun k hk => ?_, fun k hk k' hk' => ?_⟩
  · rw [sets_land_iff ha] at hk
    -- a send that succeeds leaves the record as it was
    cases result with
    | ok u => exact h.recorded k hk.1
    | error failure =>
      rw [land_error_progress]
      cases hack : a.before.acknowledged with
      -- the record goes back to one without an acknowledgement, so no other call can have set it
      | true => rfl
      | false => cases hk.2 (h.sole n ⟨a, ha, hack⟩ k (.inl hk.1))
  · rw [early_land_iff ha] at hk
    cases result with
    | ok u => exact h.busy k hk.1
    | error failure =>
      rw [land_error_progress]
      intro hempty
      -- a call that found nothing on record was the early one itself
      exact hk.2 (h.sole n ⟨a, ha, by rw [hempty]⟩ k (.inr hk.1))
  · rw [early_land_iff ha] at hk
    rw [sets_land_iff ha, early_land_iff ha] at hk'
    exact h.sole k hk.1 k' (hk'.imp And.left And.left)

/-- What keeps acknowledgements on record holds at every moment of a run. -/
private theorem Acked.after (h : c.Acked) (run : List Move) : (c.after run).Acked := by
  induction run generalizing c with
  | nil => exact h
  | cons move run ih =>
    have hstep : (c.step move).Acked := by
      cases move with
      -- a move that is refused, or is about no call in flight, changes nothing
      | begins now call =>
        rcases c.step_begins_cases now call with ⟨begun, m, hbegin, hstep⟩ | hstep <;> rw [hstep]
        · exact h.launch hbegin
        · exact h
      | ends n result =>
        simp only [step]
        cases ha : c.inFlight? n with
        | none => exact h
        | some a => exact h.land ha result
    exact ih hstep

/-- No call has been made yet. -/
private theorem acked_of (r : Respondent) : (of r).Acked := by
  have hearly (n : Nat) : ¬ (of r).Early n := by
    rintro ⟨a, ha, -⟩
    simp [of, inFlight?] at ha
  refine ⟨fun n hn => ?_, fun n hn => absurd hn (hearly n), fun n hn => absurd hn (hearly n)⟩
  obtain ⟨a, ha, -⟩ := hn
  simp [of] at ha

/-- An acknowledgement that has been sent stays on record. -/
private theorem Acked.keepsAcknowledgement (h : c.Acked) : c.KeepsAcknowledgement := by
  intro a ha hsent hacks
  obtain ⟨n, hn⟩ := exists_sets_of_sent (f := .acknowledged) ha hsent hacks
  exact h.recorded n hn

/-! ## Whole runs -/

/-- Over every run of calls on the clones of a respondent, beginning and ending in any order, a call
    that fails undoes its own step and nothing else exactly if the record is still as it left it.
    As long as this is so, a reply that has ended the interaction is remembered; an acknowledgement
    is remembered in any case. -/
theorem faithful_iff (r : Respondent) (run : List Move) :
    ((∀ n, ((of r).after (run.take n)).Faithful) ↔ (of r).Undisturbed run) ∧
      ((of r).Undisturbed run → ∀ n, ((of r).after (run.take n)).KeepsEnd) ∧
      ∀ n, ((of r).after (run.take n)).KeepsAcknowledgement := by
  have hiff := (tidy_of r).faithful_after_iff run
  exact ⟨hiff, fun h n => (hiff.2 h n).keepsEnd,
    fun n => ((acked_of r).after _).keepsAcknowledgement⟩

/-- An update of a Progress overlaps with the acknowledgement and is lost; nothing is forgotten, and
    the response ends the interaction for good. -/
theorem faithful_iff_update :
    let request : Header :=
      { uriFrom := "c", uriTo := "p", pattern := .progress, stage := some 1, timestamp := 0 }
    let r : Respondent :=
      { request := { header := request }
        address := { endpoint := ⟨0, "p"⟩, uri := "p", handler := Handler.refusing "h" } }
    let run : List Move :=
      [.begins 0 (.acknowledge .empty), .begins 0 (.update .empty),
       .ends 1 (.error (.internal "lost")), .ends 0 (.ok ()), .begins 0 (.respond .empty),
       .ends 2 (.ok ())]
    let c := (of r).after run
    (of r).Undisturbed run ∧ c.Faithful ∧ c.KeepsEnd ∧ c.KeepsAcknowledgement ∧
      c.attempts.map (fun a => (a.reply.header.mark, a.outcome)) =
        [((2, false), some (.ok ())), ((3, false), some (.error (.internal "lost"))),
         ((4, false), some (.ok ()))] ∧
      c.respondent.progress = ⟨true, true⟩ := by
  intro request r run c
  have hundisturbed : (of r).Undisturbed run := by
    simp only [run, undisturbed_cons_iff]
    refine ⟨id, id, ?_, ?_, id, ?_, fun n move h => by simp at h⟩
    -- only the update fails, and what is on record then is what it found
    case refine_1 =>
      rintro ⟨a, failure, ha, -, hne⟩
      cases ha
      exact hne rfl
    all_goals rintro ⟨a, failure, -, hfailed, -⟩; cases hfailed
  obtain ⟨hfaithful, hend, hack⟩ := faithful_iff r run
  have hfaithful := hfaithful.2 hundisturbed run.length
  have hend := hend hundisturbed run.length
  have hack := hack run.length
  rw [List.take_length] at hfaithful hend hack
  exact ⟨hundisturbed, hfaithful, hend, hack, rfl, rfl⟩

/-- The response of an Invoke is sent while its acknowledgement is still on the way. The
    acknowledgement is lost, and with it the record of the response: the interaction counts as not
    answered at all, and an acknowledgement can be sent again after the response. -/
theorem not_keepsEnd_of_overlap :
    let request : Header :=
      { uriFrom := "c", uriTo := "p", pattern := .invoke, stage := some 1, timestamp := 0 }
    let r : Respondent :=
      { request := { header := request }
        address := { endpoint := ⟨0, "p"⟩, uri := "p", handler := Handler.refusing "h" } }
    let c := (of r).after
      [.begins 0 (.acknowledge .empty), .begins 0 (.respond .empty), .ends 1 (.ok ()),
       .ends 0 (.error (.internal "lost"))]
    let again := c.after [.begins 0 (.acknowledge .empty), .ends 2 (.ok ())]
    r.progress = {} ∧
      again.attempts.map (fun a => (a.reply.header.mark, a.outcome)) =
        [((2, false), some (.error (.internal "lost"))), ((3, false), some (.ok ())),
         ((2, false), some (.ok ()))] ∧
      c.respondent.progress = {} ∧ ¬ c.KeepsEnd := by
  intro request r c again
  have hprogress : c.respondent.progress = {} := rfl
  have hattempts : c.attempts.map (fun a => (a.reply.header.mark, a.outcome)) =
      [((2, false), some (.error (.internal "lost"))), ((3, false), some (.ok ()))] := rfl
  refine ⟨rfl, rfl, hprogress, ?_⟩
  intro hkeeps
  have hmem : (((3, false) : Mark), some (.ok ())) ∈
      c.attempts.map (fun a => (a.reply.header.mark, a.outcome)) := by
    rw [hattempts]
    exact .tail _ (.head _)
  obtain ⟨a, ha, hshown⟩ := List.mem_map.1 hmem
  obtain ⟨hmark, hsent⟩ := Prod.mk.inj hshown
  -- the response has been sent, so the record would have to be complete
  have hcomplete := (hkeeps a ha hsent (by rw [hmark]; rfl)).1
  rw [hprogress] at hcomplete
  cases hcomplete

end Mal.Clones
