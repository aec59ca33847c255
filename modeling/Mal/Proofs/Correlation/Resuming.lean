import Mal.Proofs.Correlation.Operations

/-!
# Taking an interaction over

An initiator that was restarted knows of an interaction only its pattern and the last stage it has
seen. The stage is enough: `resume` finds the state that the replies had led to, as long as the
interaction was not over. Where the interaction was over, its last stage is no first stage of any
interaction of the pattern, so that nothing is taken over.

This depends on the replies being at the stages of the pattern. A publish-register is answered at
any stage, and an answer at stage 1 looks like a registration that has just started.

## Key results

- `ReplyState.underWay_or_ended_of_receiveAll`: plain replies lead on the way, or to a last stage
- `ReplyState.resume_eq_error_of_ended`: a last stage cannot be taken over
- `Correlator.takesOver_resume`: what a table makes of an interaction that it takes over
-/

namespace Mal

/-- The stages at which interactions of the pattern are answered. -/
def Pattern.answers : Pattern → List Stage
  | .send => []
  | .submit => [Stage.submitAck]
  | .request => [Stage.requestResponse]
  | .invoke => [Stage.invokeAck, Stage.invokeResponse]
  | .progress => [Stage.progressAck, Stage.progressUpdate, Stage.progressResponse]
  | .pubSub => [Stage.registerAck, Stage.publishRegisterAck, Stage.deregisterAck,
      Stage.publishDeregisterAck]

namespace ReplyState

/-- The stage that was seen last, of an interaction that started at the stage `s`. -/
def lastSeen (s : Stage) (replies : List Header) : Stage :=
  (replies.map Header.stageOrZero).getLastD s

/-- With each reply the stage seen last is its own. -/
@[simp] theorem lastSeen_cons (s : Stage) (h : Header) (replies : List Header) :
    lastSeen s (h :: replies) = lastSeen h.stageOrZero replies := by
  simp only [lastSeen, List.map_cons, List.getLastD_cons]

/-! ## The state that a stage stands for -/

/-- Replies that are no errors leave the interaction on its way from the stage seen last, or they
    have brought it to an end there. -/
theorem underWay_or_ended_of_receiveAll {p : Pattern} {s : Stage} {st last : ReplyState}
    {replies : List Header} (hu : UnderWay p s st) (hrun : st.receiveAll replies = .ok last)
    (hplain : ∀ h ∈ replies, h.isError = false) :
    UnderWay p (lastSeen s replies) last ∨
      last.isFinished = true ∧ p.ends (lastSeen s replies, false) = true := by
  induction replies generalizing s st with
  | nil =>
    cases hrun
    exact .inl hu
  | cons h replies ih =>
    obtain ⟨next, hnext, hrun⟩ := receiveAll_cons_eq_ok_iff.1 hrun
    rw [lastSeen_cons]
    rcases hu.of_accept (receive_eq_ok_iff.1 hnext) with ⟨hends, hfin, _⟩ | ⟨_, hnextu, _⟩
    · -- nothing comes after the reply that ends it
      obtain ⟨rfl, rfl⟩ := receiveAll_of_isFinished hfin hrun
      have hmark : h.mark = (h.stageOrZero, false) := by
        rw [Header.mark, hplain h List.mem_cons_self]
      exact .inr ⟨hfin, hmark ▸ hends⟩
    · -- on its way the interaction stands at the stage of this reply, from which the rest follows
      exact ih hnextu hrun fun a ha => hplain a (List.mem_cons_of_mem _ ha)

/-- No interaction starts where one of its pattern has ended. -/
theorem resume_eq_error_of_ended {p : Pattern} {s : Stage} (hanswer : s ∈ p.answers)
    (hends : p.ends (s, false) = true) :
    resume p s = .error (.disorder (.notInitial p (some s)) none (some s)) := by
  cases p <;> simp only [Pattern.answers, List.mem_cons, List.not_mem_nil, or_false] at hanswer
  case submit | request =>
    subst hanswer
    rfl
  -- an acknowledgement or an update does not end the interaction
  case invoke =>
    rcases hanswer with rfl | rfl
    · cases hends
    · rfl
  case progress =>
    rcases hanswer with rfl | rfl | rfl
    · cases hends
    · cases hends
    · rfl
  case pubSub => rcases hanswer with rfl | rfl | rfl | rfl <;> rfl

/-- An interaction that cannot start is refused with the stage at which it was to start. -/
private theorem initial_eq_error {p : Pattern} {stage : Option Stage} {failure : Failure}
    (h : initial p stage = .error failure) :
    failure = .disorder (.notInitial p stage) none stage := by
  unfold initial at h
  split at h <;> cases h
  rfl

/-- An interaction that cannot be taken over is refused with the stage that was given. -/
private theorem resume_eq_error {p : Pattern} {s : Stage} {failure : Failure}
    (h : resume p s = .error failure) : ∃ d, failure = .disorder d none (some s) := by
  unfold resume at h
  split at h
  · cases h
  · cases h
  · -- these stages have a state of their own
    cases h
  · cases h
    exact ⟨_, rfl⟩
  · -- all others are taken for a start
    split at h
    · cases h
    · cases h
      exact ⟨_, rfl⟩
    · next hinitial =>
      cases h
      exact ⟨_, initial_eq_error hinitial⟩

end ReplyState

/-! ## The table -/

namespace Correlator

/-- What a table makes of the interaction of pattern `p` under `id` that has come to the stage
    `last`. -/
structure TakesOver (c : Correlator) (p : Pattern) (last : Stage) (id : TransactionId)
    (l : Listener) : Prop where
  /-- It is taken over exactly if it can go on after the stage, and the id is free. -/
  succeeds : (c.resume p last id l).2 = .ok () ↔
    (∃ st, ReplyState.resume p last = .ok st) ∧ c.contains id = false
  /-- Then it is pending in the state that the stage stands for, and all other entries are as they
      were. -/
  stored (h : (c.resume p last id l).2 = .ok ()) :
    ∃ st, ReplyState.resume p last = .ok st ∧ ∀ id', (c.resume p last id l).1.exchanges.get? id' =
      if id = id' then some ⟨c.made, p, st, some l⟩ else c.exchanges.get? id'
  /-- Otherwise the table is as it was, and the failure names the id. -/
  refused {failure : Failure} (h : (c.resume p last id l).2 = .error failure) :
    (c.resume p last id l).1 = c ∧ ∃ text, failure = .incorrectState text (some id) (some last)

/-- A refusal of the stage becomes one of the id. -/
private theorem resume_of_error (c : Correlator) {p : Pattern} {last : Stage} (id : TransactionId)
    (l : Listener) {failure : Failure} (h : ReplyState.resume p last = .error failure) :
    ∃ text, c.resume p last id l = (c, .error (.incorrectState text (some id) (some last))) := by
  obtain ⟨d, rfl⟩ := ReplyState.resume_eq_error h
  exact ⟨d.text, by simp only [resume, h, Failure.disorder]⟩

/-- A state that was found is added, unless the id is in use. -/
private theorem resume_of_ok (c : Correlator) {p : Pattern} {last : Stage} (id : TransactionId)
    (l : Listener) {st : ReplyState} (h : ReplyState.resume p last = .ok st) :
    c.resume p last id l =
      if c.contains id then (c, .error (.disorder .idInUse (some id) (some last)))
      else (c.add id p st (some l), .ok ()) := by
  simp only [resume, h]

/-- What a table refuses leaves it as it was. -/
private theorem TakesOver.of_refused {c : Correlator} {p : Pattern} {last : Stage}
    {id : TransactionId} {l : Listener} {text : String}
    (hresume : c.resume p last id l = (c, .error (.incorrectState text (some id) (some last))))
    (hnot : ¬ ((∃ st, ReplyState.resume p last = .ok st) ∧ c.contains id = false)) :
    c.TakesOver p last id l where
  succeeds := iff_of_false (by simp [hresume]) hnot
  stored h := by simp [hresume] at h
  refused h := by
    rw [hresume] at h ⊢
    cases h
    exact ⟨rfl, text, rfl⟩

/-- Whatever is taken over, and into whatever table, it goes as `TakesOver` says. -/
theorem takesOver_resume (c : Correlator) (p : Pattern) (last : Stage) (id : TransactionId)
    (l : Listener) : c.TakesOver p last id l := by
  cases hstate : ReplyState.resume p last with
  -- a stage that no interaction goes on from is refused, whatever the table holds
  | error failure =>
    obtain ⟨text, hresume⟩ := c.resume_of_error id l hstate
    exact .of_refused hresume (by simp [hstate])
  | ok st =>
    have hresume := c.resume_of_ok id l hstate
    cases hin : c.contains id with
    -- the place under the id is taken
    | true =>
      rw [hin, if_pos rfl] at hresume
      exact .of_refused hresume (by simp [hin])
    | false =>
      rw [hin, if_neg Bool.false_ne_true] at hresume
      exact {
        succeeds := iff_of_true (by rw [hresume]) ⟨⟨st, hstate⟩, hin⟩
        stored := by
          rw [hresume]
          exact fun _ => ⟨st, hstate, fun id' => c.add_get? id id' p st (some l)⟩
        refused := by simp [hresume] }

end Correlator

/-! ## From the first stage -/

namespace ReplyState

/-- The stage seen last stands for the state that the replies have led to, if the interaction is not
    over; if it has come to its end at a stage of its pattern, it cannot be taken over. A table
    takes over what `resume` finds, under an id that is free. -/
theorem resume_reconstructs {p : Pattern} {stage : Option Stage} {st last : ReplyState}
    {replies : List Header} (hinitial : initial p stage = .ok (some st))
    (hrun : st.receiveAll replies = .ok last) (hplain : ∀ h ∈ replies, h.isError = false) :
    ∃ s, stage = some s ∧
      (last.isFinished = false → resume p (lastSeen s replies) = .ok last) ∧
      (last.isFinished = true → lastSeen s replies ∈ p.answers →
        resume p (lastSeen s replies) =
          .error (.disorder (.notInitial p (some (lastSeen s replies))) none
            (some (lastSeen s replies)))) ∧
      ∀ (c : Correlator) (q : Pattern) (seen : Stage) (id : TransactionId) (l : Listener),
        c.TakesOver q seen id l := by
  obtain ⟨s, rfl⟩ := exists_stage_of_initial hinitial
  have hstands := underWay_or_ended_of_receiveAll (underWay_of_initial hinitial) hrun hplain
  refine ⟨s, rfl, ?_, ?_, fun c q seen id l => c.takesOver_resume q seen id l⟩
  · intro hopen
    -- a state that is still open is not that of an ended interaction
    rcases hstands with hu | ⟨hfin, _⟩
    · exact resume_eq_ok_iff.2 hu
    · simp [hopen] at hfin
  · intro hfin hanswer
    -- what is under way is not over
    rcases hstands with hu | ⟨_, hends⟩
    · simp [hu.isFinished] at hfin
    · exact resume_eq_error_of_ended hanswer hends

/-- A Progress after its acknowledgement and two updates. -/
theorem resume_reconstructs_progress :
    let reply (stage : Stage) : Header :=
      { uriFrom := "p", uriTo := "c", pattern := .progress, stage := some stage,
        timestamp := 0, transaction := some 7 }
    let replies := [reply 2, reply 3, reply 3]
    (initial .progress (some 1) = .ok (some (.progress .awaitingAck)) ∧
        (ReplyState.progress .awaitingAck).receiveAll replies = .ok (.progress .acknowledged)) ∧
      resume .progress (lastSeen 1 replies) = .ok (.progress .acknowledged) := by
  intro reply replies
  have hinitial : initial .progress (some Stage.initial) =
      .ok (some (.progress .awaitingAck)) := rfl
  have hrun : (ReplyState.progress .awaitingAck).receiveAll replies =
      .ok (.progress .acknowledged) := rfl
  have hplain : ∀ h ∈ replies, h.isError = false := by decide
  obtain ⟨s, hs, hopen, _⟩ := resume_reconstructs hinitial hrun hplain
  cases hs
  exact ⟨⟨hinitial, hrun⟩, hopen rfl⟩

/-- A publish-register that was answered at stage 1 passes for a registration. -/
example : ∃ st : ReplyState, (ReplyState.publish 4 false).accept 1 false = .ok st ∧
    st.isFinished = true ∧ resume .pubSub 1 = .ok (.single 2 false) :=
  ⟨_, rfl, rfl, rfl⟩

end ReplyState

end Mal
