import Mal.Correlation.ReplyState

/-!
# The order of replies

For the order of replies only the mark of a reply counts: its stage, and whether it is flagged as an
error. `Course` lists, pattern by pattern, what may still arrive after a stage until the interaction
is over; it is a grammar of marks and knows nothing of `ReplyState`. The lemmas below bring the two
together.

A state is reached either from the first stage or by taking an interaction over at a later one, so
both are covered by one notion: `UnderWay p s st` says that `st` is the state of an interaction of
pattern `p` that has seen the stage `s` last and is not over.

## Key results

- `resume_eq_ok_iff`: `resume` gives exactly the states of interactions under way
- `UnderWay.of_accept`: one accepted reply ends the interaction or keeps it under way, and either
  way extends a course
- `ends_of_receiveAll`: of accepted replies only the last can be one that ends the interaction
- `course_of_receiveAll`: accepted replies are the beginning of a course
-/

namespace Mal

/-- What the order of replies depends on: the stage of a reply, and whether it is an error. -/
abbrev Mark := Stage × Bool

/-- The mark of a message with this header. -/
def Header.mark (h : Header) : Mark := (h.stageOrZero, h.isError)

/-- Whether a reply is the last of an interaction of the pattern. An error always is; of the other
    replies the one at the final stage is, which is the only one where a pattern has a single
    reply. -/
def Pattern.ends (p : Pattern) (k : Mark) : Bool :=
  k.2 || match p with
    | .invoke => k.1 == Stage.invokeResponse
    | .progress => k.1 == Stage.progressResponse
    | _ => true

/-- `Course p s w`: after the stage `s` of an interaction of pattern `p` the replies `w` may
    arrive, in this order, and then the interaction is over. -/
inductive Course : Pattern → Stage → List Mark → Prop where
  | submitAck (e : Bool) : Course .submit Stage.initial [(Stage.submitAck, e)]
  | requestResponse (e : Bool) : Course .request Stage.initial [(Stage.requestResponse, e)]
  | registerAck (e : Bool) : Course .pubSub Stage.register [(Stage.registerAck, e)]
  | deregisterAck (e : Bool) : Course .pubSub Stage.deregister [(Stage.deregisterAck, e)]
  /-- The answer to a publish-register may come at any stage. -/
  | publishRegisterAck (k : Mark) : Course .pubSub Stage.publishRegister [k]
  | publishDeregisterAck (k : Mark) : Course .pubSub Stage.publishDeregister [k]
  | invokeRefused : Course .invoke Stage.initial [(Stage.invokeAck, true)]
  | invokeAck {w : List Mark} (h : Course .invoke Stage.invokeAck w) :
      Course .invoke Stage.initial ((Stage.invokeAck, false) :: w)
  | invokeResponse (e : Bool) : Course .invoke Stage.invokeAck [(Stage.invokeResponse, e)]
  | progressRefused : Course .progress Stage.initial [(Stage.progressAck, true)]
  | progressAck {w : List Mark} (h : Course .progress Stage.progressAck w) :
      Course .progress Stage.initial ((Stage.progressAck, false) :: w)
  | progressUpdate {s : Stage} {w : List Mark}
      (hs : s = Stage.progressAck ∨ s = Stage.progressUpdate)
      (h : Course .progress Stage.progressUpdate w) :
      Course .progress s ((Stage.progressUpdate, false) :: w)
  | progressBroken {s : Stage} (hs : s = Stage.progressAck ∨ s = Stage.progressUpdate) :
      Course .progress s [(Stage.progressUpdate, true)]
  | progressResponse {s : Stage} (hs : s = Stage.progressAck ∨ s = Stage.progressUpdate)
      (e : Bool) : Course .progress s [(Stage.progressResponse, e)]

/-- There is no course without replies. -/
theorem Course.ne_nil {p : Pattern} {s : Stage} {w : List Mark} (h : Course p s w) : w ≠ [] := by
  rintro rfl
  cases h

namespace ReplyState

/-- The states of interactions that are not over, by pattern and by the stage seen last. -/
inductive UnderWay : Pattern → Stage → ReplyState → Prop where
  | submit : UnderWay .submit Stage.initial (.single Stage.submitAck false)
  | request : UnderWay .request Stage.initial (.single Stage.requestResponse false)
  | register : UnderWay .pubSub Stage.register (.single Stage.registerAck false)
  | deregister : UnderWay .pubSub Stage.deregister (.single Stage.deregisterAck false)
  | publishRegister :
      UnderWay .pubSub Stage.publishRegister (.publish Stage.publishRegisterAck false)
  | publishDeregister :
      UnderWay .pubSub Stage.publishDeregister (.publish Stage.publishDeregisterAck false)
  | invoke : UnderWay .invoke Stage.initial (.invoke .awaitingAck)
  | invokeAcknowledged : UnderWay .invoke Stage.invokeAck (.invoke .acknowledged)
  | progress : UnderWay .progress Stage.initial (.progress .awaitingAck)
  | progressAcknowledged : UnderWay .progress Stage.progressAck (.progress .acknowledged)
  | progressUpdated : UnderWay .progress Stage.progressUpdate (.progress .acknowledged)

/-! ## States under way -/

/-- An interaction that is not over waits for a stage. -/
theorem exists_pendingStage {st : ReplyState} (h : st.isFinished = false) :
    ∃ stage, st.pendingStage = some stage :=
  Option.isSome_iff_exists.1 (by simpa [isFinished] using h)

/-- Whatever waits for a stage is not over. -/
theorem isFinished_of_pendingStage {st : ReplyState} {stage : Stage}
    (h : st.pendingStage = some stage) : st.isFinished = false := by
  rw [isFinished, h, Option.isNone_some]

/-- An interaction that starts with replies to come is under way from its first stage. -/
theorem underWay_of_initial {p : Pattern} {s : Stage} {st : ReplyState}
    (h : initial p (some s) = .ok (some st)) : UnderWay p s st := by
  unfold initial at h
  -- one case for each stage that an interaction may start at
  split at h <;>
    simp only [Except.ok.injEq, Option.some.injEq, reduceCtorEq] at h <;> subst h
  all_goals rename_i hs; cases hs; constructor

/-- Where replies are to come there was a stage. -/
theorem exists_stage_of_initial {p : Pattern} {stage : Option Stage} {st : ReplyState}
    (h : initial p stage = .ok (some st)) : ∃ s, stage = some s := by
  cases stage with
  | none => cases p <;> cases h
  | some s => exact ⟨s, rfl⟩

/-- Taking an interaction over succeeds exactly when it is not over, and finds its state. -/
theorem resume_eq_ok_iff {p : Pattern} {s : Stage} {st : ReplyState} :
    resume p s = .ok st ↔ UnderWay p s st := by
  constructor
  · intro h
    unfold resume at h
    -- one case for each stage that an interaction can be at
    split at h
    · cases h; exact .invokeAcknowledged
    · cases h; exact .progressAcknowledged
    · cases h; exact .progressUpdated
    · cases h
    · split at h
      · next hi => cases h; exact underWay_of_initial hi
      · cases h
      · cases h
  · intro h
    -- back, each state is found at its stage
    cases h <;> rfl

/-- An interaction that is under way still waits for a reply. -/
theorem UnderWay.isFinished {p : Pattern} {s : Stage} {st : ReplyState} (h : UnderWay p s st) :
    st.isFinished = false := by
  cases h <;> rfl

/-- An interaction that is under way can be brought to its end. -/
theorem UnderWay.exists_course {p : Pattern} {s : Stage} {st : ReplyState}
    (h : UnderWay p s st) : ∃ w, Course p s w := by
  cases h with
  | submit => exact ⟨_, .submitAck false⟩
  | request => exact ⟨_, .requestResponse false⟩
  | register => exact ⟨_, .registerAck false⟩
  | deregister => exact ⟨_, .deregisterAck false⟩
  | publishRegister => exact ⟨_, .publishRegisterAck (Stage.publishRegisterAck, false)⟩
  | publishDeregister => exact ⟨_, .publishDeregisterAck (Stage.publishDeregisterAck, false)⟩
  | invoke => exact ⟨_, .invokeRefused⟩
  | invokeAcknowledged => exact ⟨_, .invokeResponse false⟩
  | progress => exact ⟨_, .progressRefused⟩
  | progressAcknowledged => exact ⟨_, .progressResponse (.inl rfl) false⟩
  | progressUpdated => exact ⟨_, .progressResponse (.inr rfl) false⟩

/-! ## Accepting replies -/

/-- A reply that an interaction under way accepts either ends the interaction and completes a
    course, or is passed on the way, and every course that goes on from its stage goes on from
    where the interaction was. -/
theorem UnderWay.of_accept {p : Pattern} {s : Stage} {st next : ReplyState} {k : Mark}
    (h : UnderWay p s st) (ha : st.accept k.1 k.2 = .ok next) :
    (p.ends k = true ∧ next.isFinished = true ∧ Course p s [k]) ∨
      (p.ends k = false ∧ UnderWay p k.1 next ∧ ∀ w, Course p k.1 w → Course p s (k :: w)) := by
  obtain ⟨stage, e⟩ := k
  -- in every state a reply is accepted at one stage, or at two; there it ends the course or goes on
  cases h <;> simp only [accept] at ha
  case submit | request | register | deregister =>
    -- these await one reply, which ends the interaction
    split at ha
    · cases ha
    · next hs =>
      obtain rfl : stage = _ := by simpa using hs
      cases ha
      exact .inl ⟨by simp [Pattern.ends], rfl, by constructor⟩
  case publishRegister | publishDeregister =>
    -- a publisher's interaction ends with any reply
    cases ha
    exact .inl ⟨by simp [Pattern.ends], rfl, by constructor⟩
  case invoke =>
    split at ha
    · next hs =>
      subst hs
      cases ha
      -- an error ends it, an acknowledgement leads on to the response
      cases e with
      | true => exact .inl ⟨rfl, rfl, .invokeRefused⟩
      | false => exact .inr ⟨rfl, .invokeAcknowledged, fun w hw => .invokeAck hw⟩
    · cases ha
  case invokeAcknowledged =>
    split at ha
    · next hs =>
      subst hs
      cases ha
      exact .inl ⟨by cases e <;> rfl, rfl, .invokeResponse e⟩
    · cases ha
  case progress =>
    split at ha
    · next hs =>
      subst hs
      cases ha
      cases e with
      | true => exact .inl ⟨rfl, rfl, .progressRefused⟩
      | false => exact .inr ⟨rfl, .progressAcknowledged, fun w hw => .progressAck hw⟩
    · cases ha
  -- after an update the interaction stands where it stood after the acknowledgement
  case progressAcknowledged | progressUpdated =>
    split at ha
    · next hs =>
      subst hs
      cases ha
      cases e with
      | true => exact .inl ⟨rfl, rfl, .progressBroken (by simp)⟩
      | false => exact .inr ⟨rfl, .progressUpdated, fun w hw => .progressUpdate (by simp) hw⟩
    · split at ha
      · -- the response may come after any number of updates
        next hs =>
        subst hs
        cases ha
        exact .inl ⟨by cases e <;> rfl, rfl, .progressResponse (by simp) e⟩
      · cases ha

/-- `receive` looks at the mark of a reply alone. -/
theorem receive_eq_ok_iff {st next : ReplyState} {h : Header} :
    st.receive h = .ok next ↔ st.accept h.mark.1 h.mark.2 = .ok next := by
  unfold receive Header.mark
  cases st.accept h.stageOrZero h.isError <;> simp

/-- Replies taken in one after another, until one is refused. -/
def receiveAll (st : ReplyState) (hs : List Header) : Except Failure ReplyState :=
  hs.foldlM receive st

/-- The first of several replies is taken in before the others. -/
theorem receiveAll_cons_eq_ok_iff {st last : ReplyState} {h : Header} {hs : List Header} :
    st.receiveAll (h :: hs) = .ok last ↔
      ∃ next, st.receive h = .ok next ∧ next.receiveAll hs = .ok last := by
  simp only [receiveAll, List.foldlM_cons]
  cases st.receive h <;> simp [bind, Except.bind]

/-- Replies in two runs are taken in one run after the other. -/
theorem receiveAll_append {st mid last : ReplyState} {as bs : List Header}
    (ha : st.receiveAll as = .ok mid) (hb : mid.receiveAll bs = .ok last) :
    st.receiveAll (as ++ bs) = .ok last := by
  induction as generalizing st with
  | nil => cases ha; exact hb
  | cons a as ih =>
    obtain ⟨next, hn, ha⟩ := receiveAll_cons_eq_ok_iff.1 ha
    exact receiveAll_cons_eq_ok_iff.2 ⟨next, hn, ih ha⟩

/-- An interaction that is over accepts nothing more. -/
theorem receiveAll_of_isFinished {st last : ReplyState} {hs : List Header}
    (hf : st.isFinished = true) (h : st.receiveAll hs = .ok last) : hs = [] ∧ last = st := by
  cases hs with
  | nil => cases h; exact ⟨rfl, rfl⟩
  | cons a as =>
    obtain ⟨next, hn, _⟩ := receiveAll_cons_eq_ok_iff.1 h
    -- an interaction that is over accepts no stage, so there is no first reply
    obtain ⟨reason, hr⟩ := accept_of_isFinished hf a.mark.1 a.mark.2
    rw [receive_eq_ok_iff, hr] at hn
    cases hn

/-- Of the replies that are accepted one after another only the last can end the interaction, and
    it is over exactly when one did. -/
theorem ends_of_receiveAll {p : Pattern} {s : Stage} {st last : ReplyState} {hs : List Header}
    (hu : UnderWay p s st) (h : st.receiveAll hs = .ok last) :
    (∀ a ∈ hs.dropLast, p.ends a.mark = false) ∧
      (last.isFinished = true ↔ ∃ a ∈ hs, p.ends a.mark = true) := by
  -- the stage seen last changes from reply to reply, so the induction is over all of them
  induction hs generalizing s st with
  | nil =>
    cases h
    simp [hu.isFinished]
  | cons a as ih =>
    obtain ⟨next, hn, h⟩ := receiveAll_cons_eq_ok_iff.1 h
    rcases hu.of_accept (receive_eq_ok_iff.1 hn) with ⟨hend, hfin, _⟩ | ⟨hend, hnext, _⟩
    · -- with the reply that ends it, nothing can follow
      obtain ⟨rfl, rfl⟩ := receiveAll_of_isFinished hfin h
      simp [hend, hfin]
    · obtain ⟨hinit, hiff⟩ := ih hnext h
      refine ⟨?_, by simp [hiff, hend]⟩
      -- the first reply is not the last if others follow
      intro b hb
      cases as with
      | nil => simp at hb
      | cons c cs =>
        rcases List.mem_cons.1 hb with rfl | hb
        · exact hend
        · exact hinit b hb

/-- Replies that are accepted one after another are the beginning of a course, and the whole of it
    exactly when the interaction is over. -/
theorem course_of_receiveAll {p : Pattern} {s : Stage} {st last : ReplyState} {hs : List Header}
    (hu : UnderWay p s st) (h : st.receiveAll hs = .ok last) :
    ∃ rest, Course p s (hs.map Header.mark ++ rest) ∧ (rest = [] ↔ last.isFinished = true) := by
  induction hs generalizing s st with
  | nil =>
    cases h
    obtain ⟨w, hw⟩ := hu.exists_course
    exact ⟨w, hw, by simp [hw.ne_nil, hu.isFinished]⟩
  | cons a as ih =>
    obtain ⟨next, hn, h⟩ := receiveAll_cons_eq_ok_iff.1 h
    rcases hu.of_accept (receive_eq_ok_iff.1 hn) with ⟨_, hfin, hcourse⟩ | ⟨_, hnext, hextends⟩
    · -- the course is complete with this reply
      obtain ⟨rfl, rfl⟩ := receiveAll_of_isFinished hfin h
      exact ⟨[], hcourse, by simp [hfin]⟩
    · -- the reply comes before a course that begins at its stage
      obtain ⟨rest, hcourse, hiff⟩ := ih hnext h
      exact ⟨rest, hextends _ hcourse, hiff⟩

/-- An error is accepted at the stage that is awaited, and ends the interaction. -/
theorem accept_error {st : ReplyState} {stage : Stage} (h : st.pendingStage = some stage) :
    ∃ next, st.accept stage true = .ok next ∧ next.isFinished = true := by
  cases st with
  -- in each state the awaited stage accepts both flags, and an error is the end
  | single expected received =>
    cases received with
    | true => cases h
    | false => cases h; exact ⟨.single stage true, if_neg (by simp), rfl⟩
  | publish expected received =>
    cases received with
    | true => cases h
    | false => cases h; exact ⟨_, rfl, rfl⟩
  | invoke phase | progress phase =>
    cases phase with
    | complete => cases h
    | awaitingAck | acknowledged => cases h; exact ⟨_, rfl, rfl⟩

end ReplyState

end Mal
