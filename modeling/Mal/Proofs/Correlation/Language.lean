import Mal.Proofs.Correlation.Matching
import Mal.Proofs.Correlation.ReplyOrder

/-!
# Replies and the language of a pattern

The courses of a pattern are a language of marks. Here an interaction is followed through anything
that it meets: replies in any order, at any stage, flagged or not, and errors that end it without
being a reply. Beside the state `Tracked` keeps the word of the replies that were accepted, which
the state itself forgets.

As long as no such error has come, the state stands for the rest of the language: what may follow
the accepted word is what may follow the stage that was seen last. From this it is read off what is
accepted, what is refused, when the interaction is over, and at which stage an error is reported. An
error from outside makes it accept nothing more, though the word may not be complete.

## Key results

- `Course.invoke_iff`, `Course.progress_iff`: the languages with more than one reply, written out
- `Course.eq_nil_of_append`: no word of a language goes on in another
- `ReplyState.UnderWay.exists_accept_iff`: a reply is accepted exactly if it is the first of what
  may still arrive
- `Tracked.exact_after`: the state follows the language, whatever the interaction meets
-/

namespace Mal

/-! ## The languages -/

/-- Nothing follows a reply that ends the interaction, and something follows every other one. -/
private theorem Course.ends_iff {p : Pattern} {s : Stage} {k : Mark} {w : List Mark}
    (h : Course p s (k :: w)) : p.ends k = true ↔ w = [] := by
  cases h with
  | invokeAck h | progressAck h | progressUpdate _ h => exact iff_of_false (by decide) h.ne_nil
  | _ => simp [Pattern.ends]

/-- What follows a reply that does not end the interaction is a course from its stage, which is not
    a first stage. -/
private theorem Course.of_cons {p : Pattern} {s : Stage} {k : Mark} {w : List Mark}
    (h : Course p s (k :: w)) (hgoes : p.ends k = false) :
    k.1 ≠ Stage.initial ∧ Course p k.1 w := by
  cases h with
  | invokeAck h | progressAck h | progressUpdate _ h => exact ⟨by decide, h⟩
  | _ => simp [Pattern.ends] at hgoes

/-- No word of the language is the beginning of a longer one. -/
theorem Course.eq_nil_of_append {p : Pattern} {s : Stage} {w v : List Mark} (h : Course p s w)
    (hlong : Course p s (w ++ v)) : v = [] := by
  induction w generalizing s with
  | nil => exact absurd rfl h.ne_nil
  | cons k w ih =>
    -- where the common beginning ends the interaction, so does the longer word
    cases hk : p.ends k with
    | true => exact (List.append_eq_nil_iff.1 (hlong.ends_iff.1 hk)).2
    | false => exact ih (h.of_cons hk).2 (hlong.of_cons hk).2

/-- An Invoke is refused, or it is acknowledged and then answered. -/
theorem Course.invoke_iff {w : List Mark} :
    Course .invoke Stage.initial w ↔
      w = [(Stage.invokeAck, true)] ∨
        ∃ e, w = [(Stage.invokeAck, false), (Stage.invokeResponse, e)] := by
  constructor
  · intro h
    cases h with
    | invokeRefused => exact .inl rfl
    | invokeAck h =>
      cases h with
      | invokeResponse e => exact .inr ⟨e, rfl⟩
  · rintro (rfl | ⟨e, rfl⟩)
    · exact .invokeRefused
    · exact .invokeAck (.invokeResponse e)

/-- After the acknowledgement of a Progress there are some updates, and then an update that is an
    error or the response. -/
private theorem Course.acknowledged_iff {s : Stage} {w : List Mark}
    (hs : s = Stage.progressAck ∨ s = Stage.progressUpdate) :
    Course .progress s w ↔
      ∃ n last, w = List.replicate n (Stage.progressUpdate, false) ++ [last] ∧
        (last = (Stage.progressUpdate, true) ∨ ∃ e, last = (Stage.progressResponse, e)) := by
  constructor
  · intro h
    -- the stage changes once, from the acknowledgement to the updates
    induction w generalizing s with
    | nil => exact absurd rfl h.ne_nil
    | cons k w ih =>
      cases h with
      -- the acknowledgement and its refusal come at the first stage only
      | progressAck => rcases hs with hs | hs <;> cases hs
      | progressRefused => rcases hs with hs | hs <;> cases hs
      | progressUpdate _ h =>
        obtain ⟨n, last, rfl, hlast⟩ := ih (.inr rfl) h
        exact ⟨n + 1, last, by simp [List.replicate_succ], hlast⟩
      | progressBroken => exact ⟨0, _, rfl, .inl rfl⟩
      | progressResponse _ e => exact ⟨0, _, rfl, .inr ⟨e, rfl⟩⟩
  · rintro ⟨n, last, rfl, hlast⟩
    induction n generalizing s with
    -- back, by the number of updates
    | zero =>
      rcases hlast with rfl | ⟨e, rfl⟩
      · exact .progressBroken hs
      · exact .progressResponse hs e
    | succ n ih => exact .progressUpdate hs (ih (.inr rfl))

/-- A Progress is refused, or it is acknowledged and then reports updates until an error or the
    response. -/
theorem Course.progress_iff {w : List Mark} :
    Course .progress Stage.initial w ↔
      w = [(Stage.progressAck, true)] ∨
        ∃ n last, w = (Stage.progressAck, false) ::
            (List.replicate n (Stage.progressUpdate, false) ++ [last]) ∧
          (last = (Stage.progressUpdate, true) ∨ ∃ e, last = (Stage.progressResponse, e)) := by
  constructor
  · intro h
    cases h with
    | progressRefused => exact .inl rfl
    | progressAck h =>
      obtain ⟨n, last, rfl, hlast⟩ := (acknowledged_iff (.inl rfl)).1 h
      exact .inr ⟨n, last, rfl, hlast⟩
    -- the other replies of a Progress come after the acknowledgement
    | progressUpdate hs => rcases hs with hs | hs <;> cases hs
    | progressBroken hs => rcases hs with hs | hs <;> cases hs
    | progressResponse hs => rcases hs with hs | hs <;> cases hs
  · rintro (rfl | ⟨n, last, rfl, hlast⟩)
    · exact .progressRefused
    · exact .progressAck ((acknowledged_iff (.inl rfl)).2 ⟨n, last, rfl, hlast⟩)

/-- The stage that is awaited after the replies `accepted` to an interaction that started at the
    stage `s`: the next one, or the last one of a pattern that goes on after its acknowledgement. -/
def Pattern.awaitedStage (p : Pattern) (s : Stage) (accepted : List Mark) : Stage :=
  match p, accepted with
  | .invoke, _ :: _ => Stage.invokeResponse
  | .progress, _ :: _ => Stage.progressResponse
  | _, _ => s + 1

namespace ReplyState

/-- A reply is accepted exactly if it is the first of what may still arrive. -/
theorem UnderWay.exists_accept_iff {p : Pattern} {s : Stage} {st : ReplyState} {k : Mark}
    (h : UnderWay p s st) :
    (∃ next, st.accept k.1 k.2 = .ok next) ↔ ∃ rest, Course p s (k :: rest) := by
  constructor
  · rintro ⟨next, ha⟩
    rcases h.of_accept ha with ⟨_, _, hcourse⟩ | ⟨_, hnext, hextends⟩
    · exact ⟨[], hcourse⟩
    · obtain ⟨w, hw⟩ := hnext.exists_course
      exact ⟨w, hextends w hw⟩
  · rintro ⟨rest, hcourse⟩
    cases h with
    -- the first reply of a Progress is a refusal or the acknowledgement
    | progress =>
      rcases Course.progress_iff.1 hcourse with hword | ⟨n, last, hword, _⟩ <;> cases hword
      · exact ⟨_, rfl⟩
      · exact ⟨_, rfl⟩
    | _ => cases hcourse <;> exact ⟨_, rfl⟩

/-- At first the next stage is awaited. -/
private theorem pendingStage_of_initial {p : Pattern} {s : Stage} {st : ReplyState}
    (h : initial p (some s) = .ok (some st)) :
    st.pendingStage = some (p.awaitedStage s []) := by
  unfold initial at h
  split at h <;>
    simp only [Except.ok.injEq, Option.some.injEq, reduceCtorEq] at h <;> subst h
  all_goals rename_i hs; cases hs; rfl

/-- Once a reply has been accepted the last stage is awaited. -/
private theorem UnderWay.pendingStage_of_accepted {p : Pattern} {k : Mark} {st : ReplyState}
    (h : UnderWay p k.1 st) (hgoes : p.ends k = false) (hlater : k.1 ≠ Stage.initial) (s : Stage)
    (before : List Mark) : st.pendingStage = some (p.awaitedStage s (before ++ [k])) := by
  -- something has been accepted, so the awaited stage does not depend on where it started
  obtain ⟨stage, e⟩ := k
  obtain ⟨first, others, hword⟩ := List.exists_cons_of_ne_nil
    (List.append_ne_nil_of_right_ne_nil before (List.cons_ne_nil (stage, e) []))
  rw [hword]
  cases h with
  | invokeAcknowledged | progressAcknowledged | progressUpdated => rfl
  -- back at its first stage the interaction cannot be
  | invoke | progress => exact absurd rfl hlater
  | _ => simp [Pattern.ends] at hgoes

end ReplyState

/-! ## An interaction and what it meets -/

/-- What an interaction may meet: a reply arrives, or an error ends it that is not a reply. -/
inductive Incident where
  | reply (h : Header)
  | failure

/-- The state of an interaction, with what has become of it since it started. -/
structure Tracked where
  state : ReplyState
  /-- The replies that have been accepted. -/
  accepted : List Mark
  /-- Whether it was ended by an error that was not a reply. -/
  failed : Bool

namespace Tracked

/-- An interaction that has just started. -/
def start (st : ReplyState) : Tracked :=
  { state := st, accepted := [], failed := false }

/-- What an incident makes of the interaction. A refused reply changes nothing, nor does an error
    once the interaction is over. -/
def step (t : Tracked) : Incident → Tracked
  | .reply h =>
    match t.state.receive h with
    | .ok next => { t with state := next, accepted := t.accepted ++ [h.mark] }
    | .error _ => t
  | .failure =>
    match t.state.fail with
    | some (_, next) => { t with state := next, failed := true }
    | none => t

/-- The interaction after some incidents. -/
def after (t : Tracked) (run : List Incident) : Tracked :=
  run.foldl step t

/-- The interaction follows the language of its pattern from the stage `s` on. -/
structure Exact (p : Pattern) (s : Stage) (t : Tracked) : Prop where
  /-- A reply is accepted exactly if it continues the accepted replies towards a word of the
      language, and no error from outside has ended the interaction. -/
  accepts (h : Header) : (∃ next, t.state.receive h = .ok next) ↔
    t.failed = false ∧ ∃ rest, Course p s (t.accepted ++ h.mark :: rest)
  /-- A refused reply is answered with its own transaction id and stage, and changes nothing. -/
  refuses (h : Header) (failure : Failure) (hr : t.state.receive h = .error failure) :
    (∃ reason, failure = .disorder (.unexpected reason h) h.transaction h.stage) ∧
      t.step (.reply h) = t
  /-- The interaction is over when the word is complete or an error from outside has ended it. -/
  finished : t.state.isFinished = true ↔ t.failed = true ∨ Course p s t.accepted
  /-- The error that ends it is reported at the stage that is awaited. -/
  fails : t.state.isFinished = false →
    t.state.fail = some (p.awaitedStage s t.accepted, t.state.ended) ∧
      (t.step .failure).state.isFinished = true
  /-- An error that comes later is not reported, and changes nothing. -/
  stays : t.state.isFinished = true → t.state.fail = none ∧ t.step .failure = t

/-- Where an interaction stands: on the way, with the rest of the language before it, or at its end,
    by a last reply or by an error from outside. -/
inductive Stands (p : Pattern) (s : Stage) : Tracked → Prop where
  | underWay {seen : Stage} {st : ReplyState} {accepted : List Mark}
      (hu : ReplyState.UnderWay p seen st)
      (hrest : ∀ w, Course p s (accepted ++ w) ↔ Course p seen w)
      (hpending : st.pendingStage = some (p.awaitedStage s accepted)) :
      Stands p s { state := st, accepted := accepted, failed := false }
  | complete {st : ReplyState} {accepted : List Mark} (hfin : st.isFinished = true)
      (hword : Course p s accepted) :
      Stands p s { state := st, accepted := accepted, failed := false }
  | failed {st : ReplyState} {accepted : List Mark} (hfin : st.isFinished = true) :
      Stands p s { state := st, accepted := accepted, failed := true }

/-- An interaction starts with all of the language before it. -/
private theorem stands_start {p : Pattern} {s : Stage} {st : ReplyState}
    (h : ReplyState.initial p (some s) = .ok (some st)) : Stands p s (start st) :=
  .underWay (ReplyState.underWay_of_initial h) (fun _ => Iff.rfl)
    (ReplyState.pendingStage_of_initial h)

/-- What is over accepts no reply. -/
private theorem not_receive_of_isFinished {st next : ReplyState} (hfin : st.isFinished = true)
    (h : Header) : st.receive h ≠ .ok next := by
  rw [Ne, ReplyState.receive_eq_ok_iff]
  obtain ⟨reason, hr⟩ := ReplyState.accept_of_isFinished hfin h.mark.1 h.mark.2
  simp [hr]

/-- What is over cannot fail. -/
private theorem fail_of_isFinished {st : ReplyState} (hfin : st.isFinished = true) :
    st.fail = none := by
  rw [ReplyState.fail, Option.isNone_iff_eq_none.1 hfin, Option.map_none]

/-- An accepted reply leaves less of the language, or nothing of it. -/
private theorem Stands.of_accept {p : Pattern} {s seen : Stage} {st next : ReplyState}
    {accepted : List Mark} {k : Mark} (hu : ReplyState.UnderWay p seen st)
    (hrest : ∀ w, Course p s (accepted ++ w) ↔ Course p seen w)
    (ha : st.accept k.1 k.2 = .ok next) :
    Stands p s { state := next, accepted := accepted ++ [k], failed := false } := by
  rcases hu.of_accept ha with ⟨_, hfin, hcourse⟩ | ⟨hgoes, hnext, hextends⟩
  · -- with the last reply the word is complete
    exact .complete hfin ((hrest [k]).2 hcourse)
  · obtain ⟨w, hw⟩ := hnext.exists_course
    -- with another one the rest of the language is what may follow it
    have hlater := ((hextends w hw).of_cons hgoes).1
    refine .underWay hnext ?_ (hnext.pendingStage_of_accepted hgoes hlater s accepted)
    intro w
    rw [List.append_assoc, hrest]
    exact ⟨fun h => (h.of_cons hgoes).2, hextends w⟩

/-- Whatever the interaction meets, it stands somewhere in the language or has failed. -/
private theorem Stands.step {p : Pattern} {s : Stage} {t : Tracked} (h : Stands p s t)
    (i : Incident) :
    Stands p s (t.step i) := by
  cases i with
  | reply a =>
    simp only [Tracked.step]
    cases hr : t.state.receive a with
    -- a refused reply leaves the interaction where it stands
    | error failure => exact h
    | ok next =>
      cases h with
      | underWay hu hrest => exact .of_accept hu hrest (ReplyState.receive_eq_ok_iff.1 hr)
      -- what is over accepts nothing
      | complete hfin | failed hfin => exact absurd hr (not_receive_of_isFinished hfin a)
  | failure =>
    simp only [Tracked.step]
    cases h with
    -- a failure counts where the interaction was under way, and nowhere else
    | underWay hu hrest hpending =>
      simp only [ReplyState.fail, hpending, Option.map_some]
      exact .failed (ReplyState.isFinished_ended _)
    | complete hfin hword =>
      simp only [fail_of_isFinished hfin]
      exact .complete hfin hword
    | failed hfin =>
      simp only [fail_of_isFinished hfin]
      exact .failed hfin

/-- Where it stands after a run. -/
private theorem Stands.after {p : Pattern} {s : Stage} {t : Tracked} (h : Stands p s t)
    (run : List Incident) : Stands p s (t.after run) := by
  induction run generalizing t with
  | nil => exact h
  | cons i run ih => exact ih (h.step i)

/-- Which replies are accepted by an interaction that stands somewhere in the language. -/
private theorem Stands.exists_receive_iff {p : Pattern} {s : Stage} {t : Tracked} (h : Stands p s t)
    (a : Header) :
    (∃ next, t.state.receive a = .ok next) ↔
      t.failed = false ∧ ∃ rest, Course p s (t.accepted ++ a.mark :: rest) := by
  cases h with
  -- on the way, what is accepted is what begins the rest of the language
  | underWay hu hrest => simp [ReplyState.receive_eq_ok_iff, hu.exists_accept_iff, hrest]
  | complete hfin hword =>
    -- a complete word cannot go on
    have hstops : ¬ ∃ rest, Course p s (_ ++ a.mark :: rest) :=
      fun ⟨_, hlong⟩ => List.cons_ne_nil _ _ (hword.eq_nil_of_append hlong)
    simp [not_receive_of_isFinished hfin, hstops]
  | failed hfin => simp [not_receive_of_isFinished hfin]

/-- When an interaction that stands somewhere in the language is over. -/
private theorem Stands.isFinished_iff {p : Pattern} {s : Stage} {t : Tracked} (h : Stands p s t) :
    t.state.isFinished = true ↔ t.failed = true ∨ Course p s t.accepted := by
  cases h with
  | underWay hu hrest =>
    refine iff_of_false (by simp [hu.isFinished]) ?_
    rintro (hfailed | hword)
    · cases hfailed
    · -- on the way there is something left of the language
      rw [← List.append_nil (Tracked.accepted _), hrest] at hword
      exact hword.ne_nil rfl
  | complete hfin hword => simp [hfin, hword]
  | failed hfin => simp [hfin]

/-- At which stage an interaction that stands somewhere in the language fails. -/
private theorem Stands.pendingStage {p : Pattern} {s : Stage} {t : Tracked} (h : Stands p s t)
    (hopen : t.state.isFinished = false) :
    t.state.pendingStage = some (p.awaitedStage s t.accepted) := by
  cases h with
  | underWay _ _ hpending => exact hpending
  | complete hfin | failed hfin => simp [hfin] at hopen

/-- Where an interaction stands says all that it does next. -/
private theorem Stands.exact {p : Pattern} {s : Stage} {t : Tracked} (h : Stands p s t) :
    Exact p s t where
  accepts := h.exists_receive_iff
  refuses a failure hr := ⟨ReplyState.receive_eq_error hr, by simp only [Tracked.step, hr]⟩
  finished := h.isFinished_iff
  fails hopen := by
    -- it fails at the stage that is awaited
    have hfail : t.state.fail = some (p.awaitedStage s t.accepted, t.state.ended) := by
      rw [ReplyState.fail, h.pendingStage hopen, Option.map_some]
    exact ⟨hfail, by simp only [Tracked.step, hfail, ReplyState.isFinished_ended]⟩
  stays hfin := by
    have hfail := fail_of_isFinished hfin
    exact ⟨hfail, by simp only [Tracked.step, hfail]⟩

/-- From the stage that an interaction starts at, its state follows the language of the pattern
    whatever it meets: replies are accepted as long as they continue towards a word of the language,
    until the word is complete or an error from outside has ended the interaction. -/
theorem exact_after {p : Pattern} {stage : Option Stage} {st : ReplyState}
    (h : ReplyState.initial p stage = .ok (some st)) (run : List Incident) :
    ∃ s, stage = some s ∧ Exact p s ((start st).after run) := by
  obtain ⟨s, rfl⟩ := ReplyState.exists_stage_of_initial h
  exact ⟨s, rfl, ((stands_start h).after run).exact⟩

/-- A Progress with an update; what is out of order is refused, and it fails at the stage of the
    response. -/
theorem exact_after_progress :
    let reply (stage : Stage) : Header :=
      { uriFrom := "p", uriTo := "c", pattern := .progress, stage := some stage,
        timestamp := 0, transaction := some 7 }
    let run := [Incident.reply (reply 4), .reply (reply 2), .reply (reply 2), .reply (reply 3)]
    let t := (start (.progress .awaitingAck)).after run
    (t.state.fail.map Prod.fst = some 4 ∧ t.accepted = [(2, false), (3, false)]) ∧
      ∃ s, some Stage.initial = some s ∧ Exact .progress s t := by
  intro reply run t
  have hinitial : ReplyState.initial .progress (some Stage.initial) =
      .ok (some (.progress .awaitingAck)) := rfl
  exact ⟨⟨rfl, rfl⟩, exact_after hinitial run⟩

/-- After an error from outside the acknowledgement of a Submit is refused, though alone it is a
    word of the language. -/
theorem not_language_after_failure :
    ¬ ∀ (p : Pattern) (s : Stage) (st : ReplyState), ReplyState.initial p (some s) = .ok (some st) →
      ∀ (run : List Incident) (h : Header),
        (∃ next, ((start st).after run).state.receive h = .ok next) ↔
          ∃ rest, Course p s (((start st).after run).accepted ++ h.mark :: rest) := by
  intro hall
  have hiff := hall .submit Stage.initial (.single Stage.submitAck false) rfl [.failure]
    { uriFrom := "p", uriTo := "c", pattern := .submit, stage := some 2, timestamp := 0,
      transaction := some 1 }
  obtain ⟨next, hnext⟩ := hiff.2 ⟨[], .submitAck false⟩
  cases hnext

end Tracked

end Mal
