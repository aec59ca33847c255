import Mal.Proofs.Sending

/-!
# Answering and following an interaction

Both sides of an interaction keep track of its replies, in different terms: the provider's
`ReplyProgress` has two flags, which each reply call checks and sets in its own way, the initiator's
`ReplyState` has phases, which stages and error flags move on. `Counterpart` says when the two have
come equally far.

It is a simulation in both directions: a call that goes through sends a reply that the counterpart
accepts, and what the counterpart accepts is what some call sends. Calls that are refused and sends
that fail change neither side.

## Key results

- `Counterpart.accept`: a step that a call takes is accepted on the other side
- `Counterpart.exists_call`: a reply that is accepted is the step of some call
- `Counterpart.answer`: the replies of a run of calls are accepted one after another
- `Respondent.answer_agrees`: both sides accept the same replies and end with the same ones
-/

namespace Mal

/-- Whether providers answer initial messages of the pattern. -/
def Pattern.isServed : Pattern → Bool
  | .submit | .request | .invoke | .progress => true
  | .send | .pubSub => false

/-- How far an interaction with an acknowledgement has come. -/
def ReplyProgress.phase (p : ReplyProgress) : Phase :=
  if p.complete then .complete else if p.acknowledged then .acknowledged else .awaitingAck

@[simp] theorem ReplyProgress.phase_awaiting :
    (⟨false, false⟩ : ReplyProgress).phase = .awaitingAck := rfl

@[simp] theorem ReplyProgress.phase_acknowledged :
    (⟨true, false⟩ : ReplyProgress).phase = .acknowledged := rfl

/-- `Counterpart pattern p st`: the initiator's state `st` of an interaction of this pattern has
    come as far as the provider's progress `p`. -/
inductive Counterpart : Pattern → ReplyProgress → ReplyState → Prop where
  /-- The acknowledgement of a Submit also completes it. -/
  | submit (p : ReplyProgress) (h : p.acknowledged = true → p.complete = true) :
      Counterpart .submit p (.single Stage.submitAck p.complete)
  | request (p : ReplyProgress) :
      Counterpart .request p (.single Stage.requestResponse p.complete)
  | invoke (p : ReplyProgress) : Counterpart .invoke p (.invoke p.phase)
  | progress (p : ReplyProgress) : Counterpart .progress p (.progress p.phase)

namespace ReplyProgress

/-- What must hold for a step to be taken, and what it does. -/
theorem advance_eq_ok_iff {p p' : ReplyProgress} {step : ReplyStep} :
    p.advance step = .ok p' ↔
      p.complete = false ∧ (step.needsAck = true → p.acknowledged = true) ∧
        (step.marksAck = true → p.acknowledged = false) ∧
        p' = ⟨p.acknowledged || step.marksAck, step.completes⟩ := by
  obtain ⟨acknowledged, complete⟩ := p
  unfold advance
  cases complete <;> cases acknowledged <;> cases step.needsAck <;> cases step.marksAck <;>
    simp [eq_comm]

end ReplyProgress

namespace Counterpart

variable {pattern : Pattern} {p p' : ReplyProgress} {st st' : ReplyState}

/-- The initiator's state is finished exactly when the provider's answers are complete. -/
theorem isFinished (h : Counterpart pattern p st) : st.isFinished = p.complete := by
  obtain ⟨acknowledged, complete⟩ := p
  cases h <;> cases complete <;> cases acknowledged <;> rfl

/-- An interaction starts equally far on both sides. -/
theorem exists_initial (h : pattern.isServed = true) :
    ∃ start, ReplyState.initial pattern (some Stage.initial) = .ok (some start) ∧
      ReplyState.UnderWay pattern Stage.initial start ∧ Counterpart pattern {} start := by
  cases pattern with
  | send | pubSub => cases h
  | submit => exact ⟨_, rfl, .submit, .submit {} (by intro h; cases h)⟩
  | request => exact ⟨_, rfl, .request, .request {}⟩
  | invoke => exact ⟨_, rfl, .invoke, .invoke {}⟩
  | progress => exact ⟨_, rfl, .progress, .progress {}⟩

/-- The reply of a step that a call takes is accepted by the initiator, and both sides have come
    equally far again. -/
theorem accept {call : ReplyCall} {k : Mark} (h : Counterpart pattern p st)
    (hsteps : call.Steps pattern p p' k) :
    ∃ st', st.accept k.1 k.2 = .ok st' ∧ Counterpart pattern p' st' := by
  obtain ⟨step, hstep, hadvance, rfl⟩ := hsteps
  obtain ⟨acknowledged, complete⟩ := p
  obtain ⟨hopen, hneeds, hmarks, rfl⟩ := ReplyProgress.advance_eq_ok_iff.1 hadvance
  obtain rfl : complete = false := hopen
  -- by pattern and progress; the calls that are left out are none of the pattern's
  cases h with
  | submit => cases call <;> cases hstep <;> exact ⟨_, rfl, .submit _ fun _ => rfl⟩
  | request => cases call <;> cases hstep <;> exact ⟨_, rfl, .request _⟩
  | invoke =>
    cases acknowledged with
    | false =>
      cases call <;> cases hstep
      case acknowledge.refl | fail.refl => exact ⟨_, rfl, .invoke _⟩
      -- no response before the acknowledgement
      case respond.refl => cases hneeds rfl
    | true =>
      cases call <;> cases hstep
      -- and no second acknowledgement
      case acknowledge.refl => cases hmarks rfl
      case respond.refl | fail.refl => exact ⟨_, rfl, .invoke _⟩
  | progress =>
    cases acknowledged with
    | false =>
      cases call <;> cases hstep
      case acknowledge.refl | fail.refl => exact ⟨_, rfl, .progress _⟩
      -- nothing but the acknowledgement comes first
      case update.refl | failUpdate.refl | respond.refl => cases hneeds rfl
    | true =>
      cases call <;> cases hstep
      case acknowledge.refl => cases hmarks rfl
      case update.refl | failUpdate.refl | respond.refl | fail.refl => exact ⟨_, rfl, .progress _⟩

/-- A reply that the initiator accepts is what some call sends next. -/
theorem exists_call {k : Mark} (h : Counterpart pattern p st)
    (haccept : st.accept k.1 k.2 = .ok st') :
    ∃ call p', ReplyCall.Steps call pattern p p' k ∧ Counterpart pattern p' st' := by
  -- the mark of the reply is its stage and its flag
  obtain ⟨stage, e⟩ := k
  obtain ⟨acknowledged, complete⟩ := p
  cases complete with
  | true =>
    -- nothing is accepted any more
    obtain ⟨reason, hr⟩ := ReplyState.accept_of_isFinished h.isFinished stage e
    rw [hr] at haccept
    cases haccept
  | false =>
    let error : StandardError := { number := StandardError.internal }
    -- a flagged reply is the step of a call that fails, another that of the call for its stage
    cases h with
    | submit _ hack =>
      -- here the acknowledgement matters, though the state does not show it
      cases acknowledged with
      | true => cases hack rfl
      | false =>
        simp only [ReplyState.accept] at haccept
        split at haccept
        · cases haccept
        · next hs =>
          obtain rfl : stage = Stage.submitAck := by simpa using hs
          cases haccept
          refine ⟨if e then .fail error else .acknowledge .empty, ⟨!e, true⟩, ?_,
            .submit _ fun _ => rfl⟩
          cases e <;> exact ⟨_, rfl, rfl, rfl⟩
    | request =>
      simp only [ReplyState.accept] at haccept
      split at haccept
      · cases haccept
      · next hs =>
        obtain rfl : stage = Stage.requestResponse := by simpa using hs
        cases haccept
        refine ⟨if e then .fail error else .respond .empty, ⟨acknowledged, true⟩, ?_, .request _⟩
        cases e <;> cases acknowledged <;> exact ⟨_, rfl, rfl, rfl⟩
    | invoke =>
      cases acknowledged with
      | false =>
        simp only [ReplyProgress.phase_awaiting, ReplyState.accept] at haccept
        -- before the acknowledgement the reply is at its stage
        split at haccept
        · next hs =>
          subst hs
          cases e <;> cases haccept
          · exact ⟨.acknowledge .empty, ⟨true, false⟩, ⟨_, rfl, rfl, rfl⟩, .invoke _⟩
          · exact ⟨.fail error, ⟨false, true⟩, ⟨_, rfl, rfl, rfl⟩, .invoke _⟩
        · cases haccept
      | true =>
        simp only [ReplyProgress.phase_acknowledged, ReplyState.accept] at haccept
        split at haccept
        · -- after it the reply is the response
          next hs =>
          subst hs
          cases haccept
          refine ⟨if e then .fail error else .respond .empty, ⟨true, true⟩, ?_, .invoke _⟩
          cases e <;> exact ⟨_, rfl, rfl, rfl⟩
        · cases haccept
    | progress =>
      cases acknowledged with
      | false =>
        simp only [ReplyProgress.phase_awaiting, ReplyState.accept] at haccept
        split at haccept
        · next hs =>
          subst hs
          cases e <;> cases haccept
          · exact ⟨.acknowledge .empty, ⟨true, false⟩, ⟨_, rfl, rfl, rfl⟩, .progress _⟩
          · exact ⟨.fail error, ⟨false, true⟩, ⟨_, rfl, rfl, rfl⟩, .progress _⟩
        · cases haccept
      | true =>
        simp only [ReplyProgress.phase_acknowledged, ReplyState.accept] at haccept
        split at haccept
        · -- after the acknowledgement a reply is an update or the response
          next hs =>
          subst hs
          cases e <;> cases haccept
          · exact ⟨.update .empty, ⟨true, false⟩, ⟨_, rfl, rfl, rfl⟩, .progress _⟩
          · exact ⟨.failUpdate error, ⟨true, true⟩, ⟨_, rfl, rfl, rfl⟩, .progress _⟩
        · -- if it is no update
          split at haccept
          · next hs =>
            subst hs
            cases haccept
            refine ⟨if e then .fail error else .respond .empty, ⟨true, true⟩, ?_, .progress _⟩
            cases e <;> exact ⟨_, rfl, rfl, rfl⟩
          · cases haccept

end Counterpart

/-! ## Runs of calls -/

namespace Respondent

/-- Makes calls one after another, on whichever clone of the respondent, and gives the replies that
    were sent. Before each call the rest of the system does to the site what it likes. -/
def answer (r : Respondent) (s : Site) :
    List ((Site → Site) × ReplyCall) → Respondent × List Message
  | [] => (r, [])
  | (others, call) :: rest =>
    let before := others s
    let (_, r, after) := before.reply r call
    let (last, replies) := r.answer after rest
    (last, after.sentSince before ++ replies)

/-- The first call of a run, and the run after it. -/
theorem answer_cons (r : Respondent) (s : Site) (others : Site → Site) (call : ReplyCall)
    (rest : List ((Site → Site) × ReplyCall)) :
    r.answer s ((others, call) :: rest) =
      (let (_, r', after) := (others s).reply r call
       ((r'.answer after rest).1,
        after.sentSince (others s) ++ (r'.answer after rest).2)) := rfl

/-- Calls change nothing of a respondent but its progress. -/
theorem answer_progress (r : Respondent) (s : Site) (calls : List ((Site → Site) × ReplyCall)) :
    ∃ p, (r.answer s calls).1 = { r with progress := p } := by
  -- each call leaves another progress, or the respondent as it was
  induction calls generalizing r s with
  | nil => exact ⟨r.progress, rfl⟩
  | cons c rest ih =>
    obtain ⟨others, call⟩ := c
    obtain ⟨p, hp⟩ := ih ((others s).reply r call).2.1 ((others s).reply r call).2.2
    refine ⟨p, ?_⟩
    rw [answer_cons, hp]
    rcases (others s).reply_cases r call with ⟨_, _, _, hr, _⟩ | ⟨hr, _⟩ <;> rw [hr]

end Respondent

namespace Counterpart

/-- The replies of a run of calls are accepted by the initiator one after another, and both sides
    have come equally far again. -/
theorem answer {r : Respondent} {st : ReplyState} (h : Counterpart r.pattern r.progress st)
    (s : Site) (calls : List ((Site → Site) × ReplyCall)) :
    ∃ seen, st.receiveAll ((r.answer s calls).2.map Message.header) = .ok seen ∧
      Counterpart r.pattern (r.answer s calls).1.progress seen := by
  induction calls generalizing r s st with
  | nil => exact ⟨st, rfl, h⟩
  | cons c rest ih =>
    obtain ⟨others, call⟩ := c
    simp only [Respondent.answer_cons]
    rcases (others s).reply_cases r call with ⟨p, m, hsteps, hr, hs⟩ | ⟨hr, hs⟩
    · -- the reply was sent, and the initiator goes the same step
      obtain ⟨next, haccept, hnext⟩ := h.accept hsteps
      rw [hr, hs.sentSince_eq]
      obtain ⟨seen, hseen, hlast⟩ := ih (r := { r with progress := p }) hnext _
      refine ⟨seen, ?_, hlast⟩
      exact ReplyState.receiveAll_cons_eq_ok_iff.2
        ⟨next, ReplyState.receive_eq_ok_iff.2 haccept, hseen⟩
    · -- nothing was sent, and both sides stay where they were
      rw [hr, hs.sentSince_eq]
      exact ih h _

/-- Where messages are taken, every run of replies that the initiator accepts is the run of some
    calls. -/
private theorem exists_answer {r : Respondent} {st seen : ReplyState}
    (h : Counterpart r.pattern r.progress st) {s : Site} (ht : s.Takes r.address.endpoint)
    {hs : List Header} (hseen : st.receiveAll hs = .ok seen) :
    ∃ calls : List ReplyCall,
      (r.answer s (calls.map (id, ·))).2.map (fun m => m.header.mark) = hs.map Header.mark := by
  induction hs generalizing r st s with
  | nil => exact ⟨[], rfl⟩
  | cons a as ih =>
    obtain ⟨next, hn, hseen⟩ := ReplyState.receiveAll_cons_eq_ok_iff.1 hseen
    -- some call sends what is accepted first, and its send succeeds
    obtain ⟨call, p, hsteps, hnext⟩ := h.exists_call (ReplyState.receive_eq_ok_iff.1 hn)
    obtain ⟨m, hm, hr, hsends, htakes⟩ := Site.reply_of_steps ht hsteps
    obtain ⟨calls, hcalls⟩ := ih (r := { r with progress := p }) hnext htakes hseen
    refine ⟨call :: calls, ?_⟩
    rw [List.map_cons, Respondent.answer_cons]
    simp only [id_eq, hr, hsends.sentSince_eq]
    rw [List.map_append, hcalls, List.map_cons, List.map_nil, hm]
    rfl

end Counterpart

/-- Both sides of an interaction agree. The initiator of a new interaction accepts the replies of
    every run of calls, and is finished exactly when the provider's answers are complete; and every
    run of replies that the initiator accepts is, by stages and error flags, the run of some
    calls. -/
theorem Respondent.answer_agrees {r : Respondent} (hserved : r.pattern.isServed = true)
    (hnew : r.progress = {}) :
    ∃ start, ReplyState.initial r.pattern (some Stage.initial) = .ok (some start) ∧
      (∀ s calls, ∃ seen, start.receiveAll ((r.answer s calls).2.map Message.header) = .ok seen ∧
        ((r.answer s calls).1.progress.complete = true ↔ seen.isFinished = true)) ∧
      (∀ s, s.Takes r.address.endpoint → ∀ hs seen, start.receiveAll hs = .ok seen →
        ∃ calls : List ReplyCall,
          (r.answer s (calls.map (id, ·))).2.map (fun m => m.header.mark) =
            hs.map Header.mark) := by
  obtain ⟨start, hstart, _, hcounter⟩ := Counterpart.exists_initial hserved
  rw [← hnew] at hcounter
  refine ⟨start, hstart, ?_, ?_⟩
  · -- from calls to the replies that are accepted
    intro s calls
    obtain ⟨seen, hseen, hlast⟩ := hcounter.answer s calls
    exact ⟨seen, hseen, by rw [hlast.isFinished]⟩
  · -- from replies that are accepted to calls
    intro s ht hs seen hseen
    exact hcounter.exists_answer ht hseen

/-- A Progress interaction through an open endpoint: some calls send the acknowledgement, an update
    and the response. -/
theorem Respondent.answer_agrees_progress :
    let request : Header :=
      { uriFrom := "c", uriTo := "p", pattern := .progress, stage := some 1, timestamp := 0 }
    let r : Respondent :=
      { request := { header := request }
        address := { endpoint := ⟨0, "p"⟩, uri := "p", handler := Handler.refusing "h" } }
    let s : Site := { now := 0, transport := { endpoints := [{ name := "e", uri := "p" }] } }
    r.pattern.isServed = true ∧ r.progress = {} ∧ s.Takes r.address.endpoint ∧
      ∃ calls : List ReplyCall,
        (r.answer s (calls.map (id, ·))).2.map (fun m => m.header.mark) =
          [(Stage.progressAck, false), (Stage.progressUpdate, false),
           (Stage.progressResponse, false)] := by
  intro request r s
  have htakes : s.Takes r.address.endpoint := ⟨_, rfl, rfl, rfl⟩
  obtain ⟨start, hstart, _, hcalls⟩ := Respondent.answer_agrees (r := r) rfl rfl
  cases hstart
  refine ⟨rfl, rfl, htakes, ?_⟩
  exact hcalls s htakes [request.reply 0 2 false, request.reply 0 3 false,
    request.reply 0 4 false] (.progress .complete) rfl

end Mal
