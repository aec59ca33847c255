import Mal.Instance.Dispatch
import Mal.Proofs.Provider.Answers

/-!
# All replies to an initial message

An initial message is answered from two sides: by the respondent, which the handler uses and which
it may keep and use again after returning, and by the instance, which returns the failure of a
handler that gave up. The replies of the respondent alone are always in order
(`Counterpart.answer`). The reply of the instance is sent at the right stage, but the respondent
does not know of it, so a respondent that was kept may still answer.

## Key results

- `Conduct.run_answer`: what a handler does is a run of calls
- `Instance.receive_request`: what the instance adds to the replies of the handler
- `Instance.endsOnce_iff`: when nothing follows the reply that ends the interaction
-/

namespace Mal

/-- Among these replies only the last may end an interaction of the pattern. -/
def Pattern.EndsOnce (p : Pattern) (ms : List Message) : Prop :=
  ∀ m ∈ ms.dropLast, p.ends m.header.mark = false

/-- Replies that are accepted one after another end an interaction once. -/
private theorem Pattern.endsOnce_of_receiveAll {p : Pattern} {s : Stage} {st last : ReplyState}
    {ms : List Message} (hu : ReplyState.UnderWay p s st)
    (h : st.receiveAll (ms.map Message.header) = .ok last) : p.EndsOnce ms := by
  intro m hm
  have hends := (ReplyState.ends_of_receiveAll hu h).1
  rw [← List.map_dropLast] at hends
  exact hends m.header (List.mem_map_of_mem hm)

/-- As long as the interaction is not over, none of the replies has ended it. -/
theorem Pattern.ends_eq_false_of_receiveAll {p : Pattern} {s : Stage} {st last : ReplyState}
    {ms : List Message} (hu : ReplyState.UnderWay p s st)
    (h : st.receiveAll (ms.map Message.header) = .ok last) (hopen : last.isFinished = false) :
    ∀ m ∈ ms, p.ends m.header.mark = false := by
  have hiff := (ReplyState.ends_of_receiveAll hu h).2
  rw [hopen] at hiff
  intro m hm
  rw [← Bool.not_eq_true]
  intro hends
  cases hiff.2 ⟨m.header, List.mem_map_of_mem hm, hends⟩

/-- After a reply that ends the interaction there may be no other. -/
private theorem Pattern.endsOnce_append_cons_iff {p : Pattern} {as bs : List Message} {m : Message}
    (has : ∀ a ∈ as, p.ends a.header.mark = false) (hm : p.ends m.header.mark = true) :
    p.EndsOnce (as ++ m :: bs) ↔ bs = [] := by
  unfold Pattern.EndsOnce
  rw [List.dropLast_append_cons]
  cases bs with
  | nil => simpa using has
  -- another reply would come after the one that ends the interaction
  | cons b bs =>
    refine iff_of_false ?_ (List.cons_ne_nil b bs)
    intro h
    have hnot := h m (by simp)
    rw [hm] at hnot
    cases hnot

/-- The start of an interaction with a provider is of a pattern that providers answer. -/
theorem Header.isServed_of_intake {h : Header} (hintake : h.intake = .request) :
    h.pattern.isServed = true := by
  unfold Header.intake at hintake
  split at hintake
  -- the four initial stages of providers
  case h_2 hp _ | h_3 hp _ | h_4 hp _ | h_5 hp _ => rw [hp]; rfl
  case h_17 => split at hintake <;> cases hintake
  all_goals cases hintake

/-- An error can only be returned while the interaction is not complete. -/
private theorem ReplyProgress.complete_of_errorStage {p : ReplyProgress} {pattern : Pattern}
    {stage : Stage} (h : p.errorStage pattern = some stage) : p.complete = false := by
  unfold errorStage at h
  split at h
  · cases h
  · next hopen => simpa using hopen

/-! ## The handler -/

/-- What a handler does is a run of calls on its respondent, whatever site the run is counted
    from. -/
theorem Conduct.run_answer (c : Conduct) (r : Respondent) (s : Site) :
    ∃ ms, s.Sends (c.run r s).2.2 ms ∧
      ∀ s₀, ∃ calls, r.answer s₀ calls = ((c.run r s).2.1, ms) := by
  -- induction on what the handler does; only its replies send something
  induction c generalizing r s with
  | finish result => exact ⟨[], .of_sent_eq rfl, fun s₀ => ⟨[], rfl⟩⟩
  | reply call next ih =>
    obtain ⟨out, hout⟩ : ∃ out, s.Sends (s.reply r call).2.2 out := by
      rcases s.reply_cases r call with ⟨_, m, _, _, hs⟩ | ⟨_, hs⟩
      · exact ⟨_, hs⟩
      · exact ⟨_, hs⟩
    obtain ⟨ms, hms, hcalls⟩ := ih (s.reply r call).1 (s.reply r call).2.1
      (s.replyNoted r call).2.2
    refine ⟨out ++ ms, hout.trans hms, ?_⟩
    -- the call is made in the site that the handler has come to, not in `s₀`
    intro s₀
    obtain ⟨calls, hanswer⟩ := hcalls (s.reply r call).2.2
    refine ⟨(fun _ => s, call) :: calls, ?_⟩
    rw [Respondent.answer_cons]
    simp only [hanswer, hout.sentSince_eq]
    rfl
  -- the other steps send nothing
  | failNextSend next ih =>
    exact ih r _
  | keep name next ih =>
    exact ih r _

/-- Nothing else of what a handler does touches the respondents of the site. -/
private theorem Conduct.run_respondents (c : Conduct) (r : Respondent) (s : Site) :
    (c.run r s).2.2.respondents = s.respondents := by
  induction c generalizing r s with
  | finish result => rfl
  | reply call next ih =>
    have hreply : (s.reply r call).2.2.respondents = s.respondents := by
      unfold Site.reply
      split <;> rfl
    exact (ih ..).trans hreply
  | failNextSend next ih => exact ih ..
  | keep name next ih => exact ih ..

namespace Site

/-- The site keeps the respondent of a message that was served, at the next free place. -/
theorem serve_respondents (s : Site) (a : Address) (m : Message) :
    (s.serve a m).2.2.respondents = s.respondents ++ [(s.serve a m).2.1] := by
  have hrun :=
    (a.handler.conduct m).run_respondents { request := m, address := a } (s.note (.served a m))
  exact congrArg (· ++ _) hrun

/-- The replies that leave while a message is served are accepted by its sender one after another,
    and the respondent has come as far as the sender afterwards. -/
theorem serve_agrees (s : Site) (a : Address) {m : Message}
    (hserved : m.header.pattern.isServed = true) :
    ∃ start ms seen, ReplyState.UnderWay m.header.pattern Stage.initial start ∧
      s.Sends (s.serve a m).2.2 ms ∧ start.receiveAll (ms.map Message.header) = .ok seen ∧
      (s.serve a m).2.1.request = m ∧
      Counterpart m.header.pattern (s.serve a m).2.1.progress seen := by
  -- the respondent as the handler gets it
  let r : Respondent := { request := m, address := a }
  obtain ⟨start, _, hstart, hcounter⟩ := Counterpart.exists_initial hserved
  obtain ⟨ms, hms, hcalls⟩ := (a.handler.conduct m).run_answer r (s.note (.served a m))
  obtain ⟨calls, hanswer⟩ := hcalls s
  obtain ⟨seen, hseen, hlast⟩ := Counterpart.answer (r := r) hcounter s calls
  obtain ⟨p, hp⟩ := r.answer_progress s calls
  rw [hanswer] at hseen hlast hp
  exact ⟨start, ms, seen, hstart, hms, hseen, congrArg Respondent.request hp, hlast⟩

/-- The handler of a message gives up before the interaction is over, and its failure is returned
    to the sender. -/
def ReturnsFailure (s : Site) (a : Address) (m : Message) : Prop :=
  ∃ failure stage, (s.serve a m).1 = .error failure ∧
    (s.serve a m).2.1.errorStage = some stage ∧
    ((s.serve a m).2.2.respondError a m.header stage failure.standardError).1 = .ok ()

end Site

namespace Instance

variable {i : Instance} {s : Site} {via : EndpointRef} {m m' : Message} {a : Address}

/-- To the replies of the handler the instance adds its failure, where it is returned, and
    nothing otherwise. -/
theorem dispatchRequest_cases (s : Site) (hprovider : i.provider m.header = .ok a) :
    (i.dispatchRequest s m).2 = .ok () ∧
      (i.dispatchRequest s m).1.respondents = (s.serve a m).2.2.respondents ∧
      ((s.ReturnsFailure a m ∧ (s.serve a m).2.1.progress.complete = false ∧
          ∃ e, e.header.isError = true ∧
            (s.serve a m).2.2.Sends (i.dispatchRequest s m).1 [e]) ∨
        (¬ s.ReturnsFailure a m ∧ (s.serve a m).2.2.Sends (i.dispatchRequest s m).1 [])) := by
  -- returned is a failure that has a stage and whose error is sent
  unfold dispatchRequest
  rw [hprovider]
  simp only []
  cases hresult : (s.serve a m).1 with
  | ok u =>
    refine ⟨rfl, rfl, .inr ⟨?_, .of_sent_eq rfl⟩⟩
    rintro ⟨failure, _, hfailure, _⟩
    rw [hresult] at hfailure
    cases hfailure
  -- the handler failed, and the stage for its error decides
  | error failure =>
    cases hstage : (s.serve a m).2.1.errorStage with
    | none =>
      refine ⟨rfl, rfl, .inr ⟨?_, .of_sent_eq rfl⟩⟩
      rintro ⟨_, stage, _, hsome, _⟩
      rw [hstage] at hsome
      cases hsome
    | some stage =>
      refine ⟨rfl, rfl, ?_⟩
      have hopen := ReplyProgress.complete_of_errorStage hstage
      rcases (s.serve a m).2.2.send_cases a.endpoint
          (a.errorResponse (s.serve a m).2.2.now m.header stage failure.standardError) with
        ⟨hok, hs⟩ | ⟨fault, hfault, hs⟩
      · exact .inl ⟨⟨failure, stage, hresult, hstage, hok⟩, hopen, _, rfl, hs⟩
      · -- the error was not sent
        refine .inr ⟨?_, hs⟩
        rintro ⟨failure', stage', hfailure, hsome, hok⟩
        cases hresult.symm.trans hfailure
        cases hstage.symm.trans hsome
        cases hfault.symm.trans hok

/-- The start of an interaction with a bound provider goes to this provider and nowhere else. -/
theorem receive_request (s : Site) (via : EndpointRef) (hsecurity : i.security m = .ok m')
    (hintake : m'.header.intake = .request) (hprovider : i.provider m'.header = .ok a) :
    (i.receive s via m).2 = (i.dispatchRequest s m').1 := by
  have hok := (dispatchRequest_cases s hprovider).1
  simp only [receive, dispatch, hsecurity, hintake]
  generalize i.dispatchRequest s m' = result at hok
  obtain ⟨after, answer⟩ := result
  cases hok
  rfl

/-- At most one reply that ends the interaction is sent for an initial message, and nothing after
    it, unless the handler gave up, its failure was returned, and the respondent was used again
    afterwards and sent a reply. `later` are the calls made on the respondent after the handler
    returned; the site keeps the respondent at the next free place. -/
theorem endsOnce_iff (hsecurity : i.security m = .ok m') (hintake : m'.header.intake = .request)
    (hprovider : i.provider m'.header = .ok a) :
    let r := (s.serve a m').2.1
    let after := (i.receive s via m).2
    after.respondents[s.respondents.length]? = some r ∧
      ∀ later, m'.header.pattern.EndsOnce (after.sentSince s ++ (r.answer after later).2) ↔
        ¬ (s.ReturnsFailure a m' ∧ (r.answer after later).2 ≠ []) := by
  intro r after
  -- both the replies of the handler and those of later calls are accepted
  obtain ⟨start, ms, seen, hstart, hserved, hseen, hrequest, hr⟩ :=
    s.serve_agrees a (Header.isServed_of_intake hintake)
  have hpattern : r.pattern = m'.header.pattern := congrArg (fun m => m.header.pattern) hrequest
  obtain ⟨-, hrespondents, hadded⟩ := dispatchRequest_cases s hprovider
  have hafter : after = (i.dispatchRequest s m').1 :=
    receive_request s via hsecurity hintake hprovider
  rw [← hafter] at hrespondents hadded
  -- the respondent is kept, at the place after those that were there
  refine ⟨?_, ?_⟩
  · rw [hrespondents, Site.serve_respondents]
    simp [r]
  intro later
  obtain ⟨last, hlater, _⟩ := Counterpart.answer (r := r) (hpattern ▸ hr) after later
  rcases hadded with ⟨hreturns, hopen, e, he, hsends⟩ | ⟨hreturns, hsends⟩
  · -- the handler's replies end nothing, so `e` is the first that does
    rw [(hserved.trans hsends).sentSince_eq]
    have hnone : ∀ m ∈ ms, m'.header.pattern.ends m.header.mark = false :=
      Pattern.ends_eq_false_of_receiveAll hstart hseen (hr.isFinished.trans hopen)
    have hends : m'.header.pattern.ends e.header.mark = true := by
      simp [Pattern.ends, Header.mark, he]
    rw [List.append_assoc, List.singleton_append, Pattern.endsOnce_append_cons_iff hnone hends]
    simp only [hreturns, true_and, ne_eq, Classical.not_not]
  · -- nothing was added, so the later replies continue those of the handler
    rw [(hserved.trans hsends).sentSince_eq, List.append_nil]
    refine iff_of_true ?_ fun h => hreturns h.1
    have hall := ReplyState.receiveAll_append hseen hlater
    rw [← List.map_append] at hall
    exact Pattern.endsOnce_of_receiveAll hstart hall

/-- A handler that keeps the respondent of a Submit and fails: the failure is returned, and an
    acknowledgement that the respondent sends afterwards follows it. -/
theorem endsOnce_iff_kept :
    let handler : Handler :=
      { name := "h", conduct := fun _ => .keep "k" (.finish (.error (.internal "boom"))) }
    let a : Address := { endpoint := ⟨0, "p"⟩, uri := "p", handler := handler }
    let i := (Instance.create {} .system 0).bindProvider {} a
    let s : Site := { now := 0, transport := { endpoints := [{ name := "e", uri := "p" }] } }
    let m : Message :=
      { header := { uriFrom := "c", uriTo := "p", pattern := .submit, stage := some 1,
                    timestamp := 0, transaction := some 5 } }
    let after := (i.receive s ⟨0, "p"⟩ m).2
    let r := (s.serve a m).2.1
    after.respondents[0]? = some r ∧
      Pattern.submit.EndsOnce (after.sentSince s ++ (r.answer after []).2) ∧
      ¬ Pattern.submit.EndsOnce
        (after.sentSince s ++ (r.answer after [(id, .acknowledge .empty)]).2) := by
  intro handler a i s m after r
  have hprovider : i.provider m.header = .ok a := by rfl
  obtain ⟨hkept, hiff⟩ := @endsOnce_iff i s ⟨0, "p"⟩ m m a rfl rfl hprovider
  have hreturns : s.ReturnsFailure a m := ⟨.internal "boom", Stage.submitAck, rfl, rfl, rfl⟩
  have hsent : (r.answer after [(id, .acknowledge .empty)]).2 ≠ [] := List.cons_ne_nil _ _
  refine ⟨hkept, (hiff []).2 fun h => h.2 rfl, ?_⟩
  rw [hiff]
  exact fun h => h ⟨hreturns, hsent⟩

/-- The same through the site: the sender of the Submit gets an error and then an
    acknowledgement, both at the stage that ends the Submit. -/
theorem replyKept_after_failure :
    let handler : Handler :=
      { name := "h", conduct := fun _ => .keep "k" (.finish (.error (.internal "boom"))) }
    let a : Address := { endpoint := ⟨0, "p"⟩, uri := "p", handler := handler }
    let i := (Instance.create {} .system 0).bindProvider {} a
    let s : Site := { now := 0, transport := { endpoints := [{ name := "e", uri := "p" }] } }
    let m : Message :=
      { header := { uriFrom := "c", uriTo := "p", pattern := .submit, stage := some 1,
                    timestamp := 0, transaction := some 5 } }
    let after := (i.receive s ⟨0, "p"⟩ m).2
    ∃ last, after.replyKept "k" (.acknowledge .empty) = some (some (.ok ()), ⟨true, true⟩, last) ∧
      (last.sentSince s).map (fun m => m.header.mark) =
        [(Stage.submitAck, true), (Stage.submitAck, false)] ∧
      ¬ Pattern.submit.EndsOnce (last.sentSince s) := by
  -- this run ends with an error and then an acknowledgement
  intro handler a i s m after
  refine ⟨_, rfl, rfl, ?_⟩
  intro h
  cases h _ (.head _)

end Instance

end Mal
