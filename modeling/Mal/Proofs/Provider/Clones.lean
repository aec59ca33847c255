import Mal.Proofs.Provider.Answers

/-!
# Reply calls that overlap

The clones of a respondent share what is on record. A reply call records its reply and sends it, and
while it waits for the send to end the other clones may be used. `Clones` follows any number of such
calls, where any one may begin and any send may end, well or not, in whatever order. A call whose
send ends before anything else happens is `Site.reply`, and so a run of such calls is
`Respondent.answer` (`Clones.after_inTurn`).

What is on record is two flags, and each reply says by its mark which of them it sets.

## Key results

- `ReplyCall.Steps.read`: what a step sets, and that it was not set before
- `Clones.sets_launch_iff`, `Clones.sets_land_iff`: which calls count for what is on record, when
  one begins and when one ends
- `Clones.after_inTurn`: calls made in turn are those of `Respondent.answer`, and none is disturbed
-/

namespace Mal

/-! ## What is on record -/

/-- Whether a reply acknowledges an interaction of the pattern. -/
def Pattern.acknowledges (p : Pattern) (k : Mark) : Bool :=
  k == (2, false) && p != .request

/-- What a respondent has on record is one of two things. -/
inductive ReplyFlag where
  | acknowledged
  | complete

namespace ReplyFlag

/-- Whether it is on record. -/
def read : ReplyFlag → ReplyProgress → Bool
  | acknowledged, p => p.acknowledged
  | complete, p => p.complete

/-- Whether a reply puts it on record. -/
def setBy : ReplyFlag → Pattern → Mark → Bool
  | acknowledged, p, k => p.acknowledges k
  | complete, p, k => p.ends k

end ReplyFlag

/-- There is nothing else on record. -/
theorem ReplyProgress.eq_iff_read {p q : ReplyProgress} :
    p = q ↔ ∀ f : ReplyFlag, f.read p = f.read q := by
  constructor
  · rintro rfl f
    rfl
  · intro h
    obtain ⟨acknowledged, complete⟩ := p
    obtain rfl : acknowledged = q.acknowledged := h .acknowledged
    obtain rfl : complete = q.complete := h .complete
    rfl

/-- What a call does shows in the mark of its reply, and every call that needs no acknowledgement
    does something. -/
private theorem ReplyCall.mark_of_step {call : ReplyCall} {pattern : Pattern} {p : ReplyProgress}
    {step : ReplyStep} (h : call.step? pattern p = some (some step)) :
    pattern.ends (step.stage, call.error?.isSome) = step.completes ∧
      pattern.acknowledges (step.stage, call.error?.isSome) = step.marksAck ∧
      (step.needsAck = true ∨ step.marksAck = true ∨ step.completes = true) := by
  -- by pattern and call; only an error looks at the progress for its stage
  cases pattern <;> cases call <;>
    simp only [ReplyCall.step?, Option.some.injEq, reduceCtorEq] at h
  -- an error is returned at a stage that depends on the progress, but ends the interaction anyway
  case invoke.fail | progress.fail =>
    obtain ⟨stage, -, rfl⟩ := Option.map_eq_some_iff.1 h
    simp [Pattern.ends, Pattern.acknowledges, ReplyCall.error?]
  all_goals subst h; exact ⟨rfl, rfl, by simp⟩

namespace ReplyCall.Steps

variable {call : ReplyCall} {pattern : Pattern} {p p' : ReplyProgress} {k : Mark}

/-- A step puts on record what its reply says, and none of it was there before. -/
theorem read (h : call.Steps pattern p p' k) (f : ReplyFlag) :
    (f.setBy pattern k = true → f.read p = false) ∧
      f.read p' = (f.read p || f.setBy pattern k) := by
  obtain ⟨step, hstep, hadvance, rfl⟩ := h
  obtain ⟨hopen, -, hmarks, rfl⟩ := ReplyProgress.advance_eq_ok_iff.1 hadvance
  obtain ⟨hends, hacks, -⟩ := ReplyCall.mark_of_step hstep
  -- the step records the acknowledgement or the end as its reply says
  cases f with
  | acknowledged =>
    simp only [ReplyFlag.setBy, hacks]
    exact ⟨hmarks, rfl⟩
  | complete =>
    simp only [ReplyFlag.setBy, hends, ReplyFlag.read, hopen]
    exact ⟨fun _ => trivial, rfl⟩

/-- A step starts from a record that is not complete. -/
theorem complete_eq_false (h : call.Steps pattern p p' k) : p.complete = false := by
  obtain ⟨step, -, hadvance, -⟩ := h
  exact (ReplyProgress.advance_eq_ok_iff.1 hadvance).1

/-- After a step something is on record. -/
theorem ne_empty (h : call.Steps pattern p p' k) : p' ≠ {} := by
  obtain ⟨step, hstep, hadvance, -⟩ := h
  obtain ⟨-, hneeds, -, rfl⟩ := ReplyProgress.advance_eq_ok_iff.1 hadvance
  -- a step that needs no acknowledgement records something itself, the others have one
  intro hempty
  simp only [ReplyProgress.mk.injEq, Bool.or_eq_false_iff] at hempty
  obtain ⟨⟨hack, hmarks⟩, hcompletes⟩ := hempty
  obtain ⟨-, -, hmoves⟩ := ReplyCall.mark_of_step hstep
  simp only [hmarks, hcompletes, Bool.false_eq_true, or_false] at hmoves
  rw [hneeds hmoves] at hack
  cases hack

end ReplyCall.Steps

/-- A call that is let through takes a step, and is about the same interaction. -/
theorem Respondent.steps_of_begin {r begun : Respondent} {now : UInt64} {call : ReplyCall}
    {m : Message} (h : r.begin now call = some (.ok (begun, m))) :
    call.Steps r.pattern r.progress begun.progress m.header.mark ∧ begun.pattern = r.pattern := by
  obtain ⟨p, hsteps, rfl⟩ := Respondent.begin_eq_ok h
  exact ⟨hsteps, rfl⟩

/-! ## Calls that overlap -/

/-- A reply call that was let through. -/
structure Clones.Attempt where
  reply : Message
  /-- What was on record when the call began. -/
  before : ReplyProgress
  /-- What was on record when the send of the reply began. -/
  recorded : ReplyProgress
  /-- How the send has ended, once it has. -/
  outcome : Option (Except Failure Unit) := none

/-- A respondent that is shared by its clones, and the calls that were made on them. -/
structure Clones where
  /-- What was on record before the first call. -/
  start : ReplyProgress
  respondent : Respondent
  /-- The calls that were let through, oldest first. -/
  attempts : List Clones.Attempt

/-- What may happen to the clones next. -/
inductive Clones.Move where
  /-- A call is made, which is refused, or is let through and begins to send its reply. -/
  | begins (now : UInt64) (call : ReplyCall)
  /-- The send of the `n`-th call that was let through ends. -/
  | ends (n : Nat) (result : Except Failure Unit)

namespace Clones

/-- The reply has been sent. -/
def Attempt.Sent (a : Attempt) : Prop :=
  a.outcome = some (.ok ())

/-- The reply could not be sent. -/
def Attempt.Failed (a : Attempt) : Prop :=
  ∃ failure, a.outcome = some (.error failure)

/-- The clones of a respondent before any call. -/
def of (r : Respondent) : Clones :=
  { start := r.progress, respondent := r, attempts := [] }

/-- The `n`-th call, while its reply is being sent. -/
def inFlight? (c : Clones) (n : Nat) : Option Attempt :=
  c.attempts[n]?.filter fun a => a.outcome.isNone

/-- A call is let through, and begins to send its reply. -/
def launch (c : Clones) (begun : Respondent) (m : Message) : Clones :=
  { c with
    respondent := begun
    attempts := c.attempts ++
      [{ reply := m, before := c.respondent.progress, recorded := begun.progress }] }

/-- The send of the `n`-th call ends. -/
def land (c : Clones) (n : Nat) (a : Attempt) (result : Except Failure Unit) : Clones :=
  { c with
    respondent := c.respondent.settle a.before result
    attempts := c.attempts.set n { a with outcome := some result } }

/-- What a move makes of the clones. -/
def step (c : Clones) : Move → Clones
  | .begins now call =>
    match c.respondent.begin now call with
    | some (.ok (begun, m)) => c.launch begun m
    | _ => c
  | .ends n result =>
    match c.inFlight? n with
    | some a => c.land n a result
    | none => c

/-- The clones after some moves. -/
def after (c : Clones) (run : List Move) : Clones :=
  run.foldl step c

@[simp] theorem launch_start (c : Clones) (begun : Respondent) (m : Message) :
    (c.launch begun m).start = c.start := rfl

@[simp] theorem launch_respondent (c : Clones) (begun : Respondent) (m : Message) :
    (c.launch begun m).respondent = begun := rfl

@[simp] theorem land_start (c : Clones) (n : Nat) (a : Attempt) (result : Except Failure Unit) :
    (c.land n a result).start = c.start := rfl

@[simp] theorem land_pattern (c : Clones) (n : Nat) (a : Attempt) (result : Except Failure Unit) :
    (c.land n a result).respondent.pattern = c.respondent.pattern := by
  cases result <;> rfl

@[simp] theorem land_ok_progress (c : Clones) (n : Nat) (a : Attempt) (u : Unit) :
    (c.land n a (.ok u)).respondent.progress = c.respondent.progress := rfl

@[simp] theorem land_error_progress (c : Clones) (n : Nat) (a : Attempt) (failure : Failure) :
    (c.land n a (.error failure)).respondent.progress = a.before := rfl

variable {c : Clones} {n : Nat} {a : Attempt}

/-- A call in flight is one that was let through and whose send has not ended. -/
theorem inFlight?_eq_some_iff :
    c.inFlight? n = some a ↔ c.attempts[n]? = some a ∧ a.outcome = none := by
  simp [inFlight?, Option.filter_eq_some_iff]

/-- A call that is made is let through and begins to send its reply, or nothing happens. -/
theorem step_begins_cases (c : Clones) (now : UInt64) (call : ReplyCall) :
    (∃ begun m, c.respondent.begin now call = some (.ok (begun, m)) ∧
      c.step (.begins now call) = c.launch begun m) ∨
    c.step (.begins now call) = c := by
  simp only [step]
  split
  · next begun m hbegin => exact .inl ⟨begun, m, hbegin, rfl⟩
  · exact .inr rfl

/-! ## Which calls count -/

/-- The `n`-th call has put the flag on record, and its send has not failed. -/
def Sets (c : Clones) (n : Nat) (f : ReplyFlag) : Prop :=
  ∃ a, c.attempts[n]? = some a ∧ ¬ a.Failed ∧
    f.setBy c.respondent.pattern a.reply.header.mark = true

/-- What a call in flight has put on record is what its reply says. -/
theorem sets_iff_of_inFlight {f : ReplyFlag} (h : c.inFlight? n = some a) :
    c.Sets n f ↔ f.setBy c.respondent.pattern a.reply.header.mark = true := by
  obtain ⟨hget, hflies⟩ := inFlight?_eq_some_iff.1 h
  simp [Sets, hget, Attempt.Failed, hflies]

/-- What has been sent counts. -/
theorem exists_sets_of_sent {f : ReplyFlag} (ha : a ∈ c.attempts) (hsent : a.Sent)
    (hset : f.setBy c.respondent.pattern a.reply.header.mark = true) : ∃ n, c.Sets n f := by
  obtain ⟨n, hn⟩ := List.mem_iff_getElem?.1 ha
  refine ⟨n, a, hn, ?_, hset⟩
  rintro ⟨failure, hfailed⟩
  cases hsent.symm.trans hfailed

/-- The calls that are in the list once one more call has begun. -/
theorem getElem?_attempts_launch (c : Clones) (begun : Respondent) (m : Message) (n : Nat) :
    (c.launch begun m).attempts[n]? =
      if n = c.attempts.length then
        some { reply := m, before := c.respondent.progress, recorded := begun.progress }
      else c.attempts[n]? := by
  -- calls are added at the end of the list
  unfold launch
  rcases Nat.lt_trichotomy n c.attempts.length with hlt | rfl | hgt
  · rw [List.getElem?_append_left hlt, if_neg (Nat.ne_of_lt hlt)]
  · simp
  · rw [if_neg (Nat.ne_of_gt hgt), List.getElem?_eq_none (Nat.le_of_lt hgt),
      List.getElem?_eq_none (by simp only [List.length_append, List.length_singleton]; omega)]

/-- The calls that are in the list once a send has ended. -/
theorem getElem?_attempts_land (ha : c.inFlight? n = some a) (result : Except Failure Unit)
    (n' : Nat) :
    (c.land n a result).attempts[n']? =
      if n' = n then some { a with outcome := some result } else c.attempts[n']? := by
  obtain ⟨hlt, -⟩ := List.getElem?_eq_some_iff.1 (inFlight?_eq_some_iff.1 ha).1
  unfold land
  -- only the place of the call whose send ended is changed
  by_cases hn : n' = n
  · subst hn
    rw [if_pos rfl, List.getElem?_set_self hlt]
  · rw [if_neg hn, List.getElem?_set_ne (Ne.symm hn)]

/-- A call that begins counts for what its reply says. -/
theorem sets_launch_iff {begun : Respondent} (hpattern : begun.pattern = c.respondent.pattern)
    (m : Message) (n : Nat) (f : ReplyFlag) :
    (c.launch begun m).Sets n f ↔
      c.Sets n f ∨ n = c.attempts.length ∧ f.setBy c.respondent.pattern m.header.mark = true := by
  unfold Sets
  rw [getElem?_attempts_launch, launch_respondent, hpattern]
  by_cases hn : n = c.attempts.length
  · simp [hn, Attempt.Failed]
  · simp [hn]

/-- A call whose send has failed no longer counts. -/
theorem sets_land_iff (ha : c.inFlight? n = some a) (result : Except Failure Unit) (n' : Nat)
    (f : ReplyFlag) :
    (c.land n a result).Sets n' f ↔ c.Sets n' f ∧ (n' = n → result = .ok ()) := by
  -- what was recorded by a call that fails is taken back
  by_cases hn : n' = n
  · subst hn
    rw [sets_iff_of_inFlight ha]
    unfold Sets
    rw [getElem?_attempts_land ha, land_pattern, if_pos rfl]
    cases result <;> simp [Attempt.Failed]
  · unfold Sets
    rw [getElem?_attempts_land ha, land_pattern, if_neg hn]
    simp [hn]

/-! ## Calls that are disturbed -/

/-- The move is the failure of a call, and what is on record is no longer what the call recorded. -/
def Disturbed (c : Clones) : Move → Prop
  | .begins _ _ => False
  | .ends n result =>
    ∃ a failure, c.inFlight? n = some a ∧ result = .error failure ∧
      c.respondent.progress ≠ a.recorded

/-- No call of a run is disturbed when it fails. -/
def Undisturbed (c : Clones) (run : List Move) : Prop :=
  ∀ n move, run[n]? = some move → ¬ (c.after (run.take n)).Disturbed move

/-- The first move of a run, and the run after it. -/
theorem undisturbed_cons_iff {move : Move} {run : List Move} :
    c.Undisturbed (move :: run) ↔ ¬ c.Disturbed move ∧ (c.step move).Undisturbed run := by
  -- the first move is the one at place 0, and the others follow
  constructor
  · intro h
    exact ⟨h 0 move rfl, fun n m hm => h (n + 1) m hm⟩
  · rintro ⟨hmove, hrest⟩ (_ | n) m hm
    · cases hm
      exact hmove
    · exact hrest n m hm

/-! ## Calls in turn -/

/-- The moves of calls that are made one after another, each of which waits for its send to end,
    while the rest of the system does to the site what it likes. -/
def inTurn (c : Clones) (s : Site) : List ((Site → Site) × ReplyCall) → List Move
  | [] => []
  | (others, call) :: rest =>
    let before := others s
    let began : Move := .begins before.now call
    let ended : Move :=
      .ends c.attempts.length ((before.reply c.respondent call).1.getD (.ok ()))
    began :: ended ::
      ((c.step began).step ended).inTurn (before.reply c.respondent call).2.2 rest

/-- A call whose send ends before anything else happens leaves the respondent as `Site.reply` does,
    and is not disturbed. -/
private theorem after_reply (c : Clones) (s : Site) (call : ReplyCall) :
    let begun := c.step (.begins s.now call)
    let ended : Move := .ends c.attempts.length ((s.reply c.respondent call).1.getD (.ok ()))
    (begun.step ended).respondent = (s.reply c.respondent call).2.1 ∧ ¬ begun.Disturbed ended := by
  have hnothing : c.inFlight? c.attempts.length = none := by simp [inFlight?]
  cases hbegin : c.respondent.begin s.now call with
  -- a call that is refused is not in flight
  | none => simp [step, Site.reply, hbegin, Disturbed, hnothing]
  | some result =>
    cases result with
    | error failure => simp [step, Site.reply, hbegin, Disturbed, hnothing]
    | ok begunMessage =>
      obtain ⟨begun, m⟩ := begunMessage
      -- what is on record when the send ends is what the call itself has put there
      have hflies : (c.launch begun m).inFlight? c.attempts.length =
          some { reply := m, before := c.respondent.progress, recorded := begun.progress } := by
        simp [inFlight?_eq_some_iff, getElem?_attempts_launch]
      simp [step, Site.reply, hbegin, Disturbed, hflies, land]

/-- Calls made in turn are those of `Respondent.answer`, and none of them is disturbed. -/
theorem after_inTurn (c : Clones) (s : Site) (calls : List ((Site → Site) × ReplyCall)) :
    (c.after (c.inTurn s calls)).respondent = (c.respondent.answer s calls).1 ∧
      c.Undisturbed (c.inTurn s calls) := by
  -- calls in turn are launched and landed one by one, so each lands on its own record
  induction calls generalizing c s with
  | nil =>
    refine ⟨rfl, ?_⟩
    intro n move hmove
    cases hmove
  | cons head rest ih =>
    obtain ⟨others, call⟩ := head
    obtain ⟨hrespondent, hundisturbed⟩ := c.after_reply (others s) call
    simp only [inTurn, undisturbed_cons_iff]
    refine ⟨(ih _ _).1.trans ?_, id, hundisturbed, (ih _ _).2⟩
    rw [hrespondent]
    rfl

end Clones

end Mal
