import Mal.Proofs.Provider.Lifetime

/-!
# What an initial message is answered with

While a handler works on an initial message its respondent keeps two flags, which reply calls set
and failed sends take back. When the handler gives up, the stage at which its failure is returned is
read off these flags. Here it is read off the replies that were sent (`Pattern.failureStage?`), and
the two are the same (`Site.serve_errorStage`).

So everything that is sent while an initial message is dispatched is a course of its pattern or the
beginning of one, and what is added to the replies of the handler depends on these replies and on
the handler's result alone. What such an error says is read off the message that is sent
(`Address.RepliesTo`).

## Key results

- `Counterpart.errorStage_eq`: an error is returned at the stage that the initiator awaits
- `ReplyState.UnderWay.pendingStage_eq`: which stage that is after some replies
- `Instance.served_in_order`: all replies to an initial message
-/

namespace Mal

/-- The stage at which an error ends an interaction to which the replies `sent` have been sent: none
    if one of them ended it; else the final stage if it was acknowledged, and the stage of the
    acknowledgement, or of the only reply, if it was not. -/
def Pattern.failureStage? (p : Pattern) (sent : List Mark) : Option Stage :=
  if sent.any p.ends then none
  else
    match p with
    | .submit => some Stage.submitAck
    | .request => some Stage.requestResponse
    | .invoke =>
      some (if (Stage.invokeAck, false) ∈ sent then Stage.invokeResponse else Stage.invokeAck)
    | .progress =>
      some (if (Stage.progressAck, false) ∈ sent then Stage.progressResponse
        else Stage.progressAck)
    | .send | .pubSub => none

/-- After a reply that ended the interaction no error can. -/
private theorem Pattern.failureStage?_of_ends {p : Pattern} {sent : List Mark} {k : Mark}
    (hk : k ∈ sent) (hend : p.ends k = true) : p.failureStage? sent = none :=
  if_pos (List.any_eq_true.2 ⟨k, hk, hend⟩)

/-- As long as no reply has ended it, an interaction with a provider can be ended by an error. -/
theorem Pattern.exists_failureStage {p : Pattern} (hserved : p.isServed = true) {sent : List Mark}
    (hopen : ∀ k ∈ sent, p.ends k = false) : ∃ stage, p.failureStage? sent = some stage := by
  have hany : sent.any p.ends = false := by simpa using hopen
  unfold failureStage?
  simp only [hany]
  cases p with
  | send | pubSub => cases hserved
  -- without a reply that ends it there is a stage, that of the acknowledgement or the last
  | submit | request | invoke | progress => exact ⟨_, rfl⟩

/-! ## What a reply says -/

/-- The message `e` is a reply of the provider at `a` to a message with the header `h`: it is at
    this stage, flagged as an error or not, with this body, and goes back to the sender in the same
    transaction. -/
structure Address.RepliesTo (a : Address) (h : Header) (stage : Stage) (isError : Bool)
    (body : Body) (e : Message) : Prop where
  stage : e.header.stage = some stage
  isError : e.header.isError = isError
  body : e.body = body
  transaction : e.header.transaction = h.transaction
  pattern : e.header.pattern = h.pattern
  uriTo : e.header.uriTo = h.uriFrom
  uriFrom : e.header.uriFrom = a.uri

namespace Address

variable (a : Address) (now : UInt64) (h : Header) (stage : Stage)

theorem repliesTo_response (properties : Properties) (body : Body) :
    a.RepliesTo h stage false body (a.response now h properties stage body) :=
  ⟨rfl, rfl, rfl, rfl, rfl, rfl, rfl⟩

theorem repliesTo_errorResponse (error : StandardError) :
    a.RepliesTo h stage true (.error error) (a.errorResponse now h stage error) :=
  ⟨rfl, rfl, rfl, rfl, rfl, rfl, rfl⟩

variable {a h stage} {e : Message} {error : StandardError}

/-- A reply that is flagged as an error and has an error as its body reports this error. -/
private theorem RepliesTo.error? (hreply : a.RepliesTo h stage true (.error error) e) :
    e.error? = some error := by
  simp [Message.error?, hreply.isError, hreply.body, Body.error?]

end Address

/-! ## The stage that is awaited -/

/-- An error is returned at the stage that the initiator awaits. -/
theorem Counterpart.errorStage_eq {pattern : Pattern} {p : ReplyProgress} {st : ReplyState}
    (h : Counterpart pattern p st) : p.errorStage pattern = st.pendingStage := by
  obtain ⟨acknowledged, complete⟩ := p
  -- the two flags of the provider against each state of the initiator
  cases h <;> cases complete <;> cases acknowledged <;> rfl

/-- A reply that others follow comes after the first stage of an interaction, and is the
    acknowledgement if it is the first. -/
private theorem Course.mark_of_cons {p : Pattern} {s : Stage} {k : Mark} {w : List Mark}
    (h : Course p s (k :: w)) (hw : w ≠ []) :
    k.1 ≠ Stage.initial ∧ (s = Stage.initial → k = (2, false)) := by
  -- a reply that others follow is an acknowledgement or an update
  cases h with
  | invokeAck | progressAck => exact ⟨by decide, fun _ => rfl⟩
  | progressUpdate hs =>
    refine ⟨by decide, ?_⟩
    rintro rfl
    rcases hs with hs | hs <;> cases hs
  -- every other reply is the last of its course
  | _ => exact absurd rfl hw

namespace ReplyState

/-- What an interaction under way awaits, by the replies before. -/
private theorem UnderWay.pendingStage {p : Pattern} {s : Stage} {st : ReplyState}
    {before : List Mark}
    (hu : UnderWay p s st) (hserved : p.isServed = true) (hopen : ∀ k ∈ before, p.ends k = false)
    (hfirst : s = Stage.initial ↔ (2, false) ∉ before) :
    st.pendingStage = p.failureStage? before := by
  have hany : before.any p.ends = false := by simpa using hopen
  -- nothing has ended the interaction, so the stage depends on the acknowledgement alone
  simp only [Pattern.failureStage?, hany]
  cases hu with
  | submit | request => rfl
  | invoke | progress =>
    -- what is at its first stage has not been acknowledged
    have hnone := hfirst.1 rfl
    simp [ReplyState.pendingStage, hnone]
  -- past its first stage the interaction has been acknowledged
  | invokeAcknowledged | progressAcknowledged | progressUpdated =>
    have hack : ((2, false) : Mark) ∈ before := by
      rw [← Classical.not_not (a := _ ∈ before), ← hfirst]
      decide
    simp [ReplyState.pendingStage, hack]
  | register | deregister | publishRegister | publishDeregister => cases hserved

/-- What is awaited after some replies is the stage at which an error would end the interaction.
    The interaction is under way after the replies `before`, which were accepted earlier. -/
private theorem UnderWay.pendingStage_receiveAll {p : Pattern} {s : Stage} {st last : ReplyState}
    {before : List Mark} {hs : List Header} (hu : UnderWay p s st) (hserved : p.isServed = true)
    (hopen : ∀ k ∈ before, p.ends k = false) (hfirst : s = Stage.initial ↔ (2, false) ∉ before)
    (h : st.receiveAll hs = .ok last) :
    last.pendingStage = p.failureStage? (before ++ hs.map Header.mark) := by
  -- a reply that has been accepted moves over to the replies before
  induction hs generalizing s st before with
  | nil =>
    cases h
    rw [List.map_nil, List.append_nil]
    exact hu.pendingStage hserved hopen hfirst
  | cons a as ih =>
    obtain ⟨next, hn, h⟩ := receiveAll_cons_eq_ok_iff.1 h
    rcases hu.of_accept (receive_eq_ok_iff.1 hn) with ⟨hend, hfin, _⟩ | ⟨hstays, hnext, hextends⟩
    · -- nothing is awaited after the reply that ends the interaction
      obtain ⟨rfl, rfl⟩ := receiveAll_of_isFinished hfin h
      have hany : (before ++ [a].map Header.mark).any p.ends = true := by simp [hend]
      simp only [Pattern.failureStage?, hany, if_true]
      exact Option.isNone_iff_eq_none.1 hfin
    · -- the reply that was accepted is one that others follow
      obtain ⟨w, hw⟩ := hnext.exists_course
      obtain ⟨hlater, hack⟩ := (hextends w hw).mark_of_cons hw.ne_nil
      have hopen' : ∀ k ∈ before ++ [a.mark], p.ends k = false := by
        intro k hk
        rcases List.mem_append.1 hk with hk | hk
        · exact hopen k hk
        · rw [List.mem_singleton.1 hk]
          exact hstays
      -- either it is the acknowledgement, or this came before
      have hacked : ((2, false) : Mark) ∈ before ++ [a.mark] := by
        by_cases hs : s = Stage.initial
        · rw [hack hs]
          simp
        · exact List.mem_append_left _ (Classical.not_not.1 (mt hfirst.2 hs))
      have hall := ih hnext hopen' (iff_of_false hlater (not_not_intro hacked)) h
      rwa [List.append_assoc] at hall

/-- So it is after all replies from the start of an interaction with a provider. -/
theorem UnderWay.pendingStage_eq {p : Pattern} {st last : ReplyState} {ms : List Message}
    (hu : UnderWay p Stage.initial st) (hserved : p.isServed = true)
    (h : st.receiveAll (ms.map Message.header) = .ok last) :
    last.pendingStage = p.failureStage? (ms.map fun e => e.header.mark) := by
  -- nothing was sent before
  have hnone : ∀ k ∈ ([] : List Mark), p.ends k = false := nofun
  have hpending := hu.pendingStage_receiveAll hserved hnone (iff_of_true rfl nofun) h
  rw [hpending, List.nil_append, List.map_map]
  rfl

end ReplyState

/-! ## The handler's part -/

/-- The replies that leave while a message is served are a course or the beginning of one, and the
    respondent's flags show the stage at which a failure has to be returned. -/
theorem Site.serve_errorStage (s : Site) (a : Address) {m : Message}
    (hserved : m.header.pattern.isServed = true) :
    ∃ start ms seen, ReplyState.UnderWay m.header.pattern Stage.initial start ∧
      s.Sends (s.serve a m).2.2 ms ∧ start.receiveAll (ms.map Message.header) = .ok seen ∧
      (s.serve a m).2.1.errorStage = seen.pendingStage ∧
      seen.pendingStage = m.header.pattern.failureStage? (ms.map fun e => e.header.mark) := by
  obtain ⟨start, ms, seen, hstart, hsends, hseen, hrequest, hcounter⟩ := s.serve_agrees a hserved
  refine ⟨start, ms, seen, hstart, hsends, hseen, ?_, hstart.pendingStage_eq hserved hseen⟩
  rw [Respondent.errorStage, Respondent.pattern, hrequest]
  exact hcounter.errorStage_eq

/-- An error that is returned at the stage awaited is accepted after the replies before it, if it is
    sent at all. -/
private theorem Site.respondError_accepted {s s' : Site} {start seen : ReplyState}
    {ms : List Message}
    (hsends : s.Sends s' ms) (hseen : start.receiveAll (ms.map Message.header) = .ok seen)
    {stage : Stage} (hstage : seen.pendingStage = some stage) (a : Address) (source : Header)
    (error : StandardError) :
    ∃ sent last, s.Sends (s'.respondError a source stage error).2 sent ∧
      start.receiveAll (sent.map Message.header) = .ok last := by
  let e := a.errorResponse s'.now source stage error
  rcases s'.send_cases a.endpoint e with ⟨_, hs⟩ | ⟨_, _, hs⟩
  · -- the stage that is awaited accepts an error
    obtain ⟨last, haccept, _⟩ := ReplyState.accept_error hstage
    have hlast : seen.receiveAll [e.header] = .ok last :=
      ReplyState.receiveAll_cons_eq_ok_iff.2 ⟨last, ReplyState.receive_eq_ok_iff.2 haccept, rfl⟩
    refine ⟨ms ++ [e], last, hsends.trans hs, ?_⟩
    rw [List.map_append]
    exact ReplyState.receiveAll_append hseen hlast
  · -- the error was not sent, so the replies before are all there are
    refine ⟨ms, seen, ?_, hseen⟩
    rw [← List.append_nil ms]
    exact hsends.trans hs

/-- Replies that the sender accepts one after another are a course or the beginning of one. -/
private theorem Site.Sends.exists_course {s after : Site} {sent : List Message}
    (hsent : s.Sends after sent)
    {p : Pattern} {start last : ReplyState} (hstart : ReplyState.UnderWay p Stage.initial start)
    (hlast : start.receiveAll (sent.map Message.header) = .ok last) :
    ∃ rest, Course p Stage.initial ((after.sentSince s).map (fun e => e.header.mark) ++ rest) ∧
      (rest = [] ↔ ∃ e ∈ after.sentSince s, p.ends e.header.mark = true) := by
  -- the marks that were accepted begin a course, complete if one of them ends the interaction
  obtain ⟨rest, hcourse, hrest⟩ := ReplyState.course_of_receiveAll hstart hlast
  have hends := (ReplyState.ends_of_receiveAll hstart hlast).2
  rw [List.map_map] at hcourse
  rw [hsent.sentSince_eq]
  refine ⟨rest, hcourse, hrest.trans (hends.trans ⟨?_, ?_⟩)⟩
  · rintro ⟨_, hmem, hend⟩
    obtain ⟨e, he, rfl⟩ := List.mem_map.1 hmem
    exact ⟨e, he, hend⟩
  · rintro ⟨e, he, hend⟩
    exact ⟨e.header, List.mem_map_of_mem he, hend⟩

/-! ## The instance's part -/

namespace Instance

variable {i : Instance} {s : Site} {via : EndpointRef} {m m' : Message} {a : Address}

/-- What the instance does after the handler: it returns the failure of a handler that gave up, and
    nothing else. -/
theorem dispatchRequest_eq (s : Site) (hprovider : i.provider m.header = .ok a) :
    (i.dispatchRequest s m).1 =
      match (s.serve a m).1, (s.serve a m).2.1.errorStage with
      | .error failure, some stage =>
        ((s.serve a m).2.2.respondError a m.header stage failure.standardError).2
      | _, _ => (s.serve a m).2.2 := by
  unfold dispatchRequest
  rw [hprovider]
  simp only []
  cases (s.serve a m).1 with
  | ok _ => rfl
  | error failure => cases (s.serve a m).2.1.errorStage <;> rfl

/-- What is sent when an initial message comes in for a bound provider is a course of its pattern or
    the beginning of one, and a whole course exactly when it ends the interaction. It consists of
    the replies of the handler (`replies`), to which one error is added, or one attempt at it, if
    the handler gave up before the interaction was over, and nothing otherwise. The error reports
    what the handler gave up with, at the stage that these replies leave for it. -/
theorem served_in_order (hsecurity : i.security m = .ok m') (hintake : m'.header.intake = .request)
    (hprovider : i.provider m'.header = .ok a) :
    let p := m'.header.pattern
    let result := (s.serve a m').1
    let served := (s.serve a m').2.2
    let after := (i.receive s via m).2
    (∃ rest, Course p Stage.initial ((after.sentSince s).map (fun e => e.header.mark) ++ rest) ∧
      (rest = [] ↔ ∃ e ∈ after.sentSince s, p.ends e.header.mark = true)) ∧
    ∃ replies, s.Sends served replies ∧
      (result = .ok () → after = served) ∧
      (∀ failure, result = .error failure → (∃ e ∈ replies, p.ends e.header.mark = true) →
        after = served) ∧
      (∀ failure, result = .error failure → (∀ e ∈ replies, p.ends e.header.mark = false) →
        ∃ stage error, p.failureStage? (replies.map fun e => e.header.mark) = some stage ∧
          a.RepliesTo m'.header stage true (.error failure.standardError) error ∧
          error.error? = some failure.standardError ∧
          after = (served.send a.endpoint error).2 ∧
          (((served.send a.endpoint error).1 = .ok () ∧ after.sentSince s = replies ++ [error]) ∨
            ∃ f, (served.send a.endpoint error).1 = .error f ∧ after.sentSince s = replies)) := by
  intro p result served after
  have hserved : p.isServed = true := Header.isServed_of_intake hintake
  obtain ⟨start, replies, seen, hstart, hsends, hseen, herror, hpending⟩ :=
    s.serve_errorStage a hserved
  have hafter : after = _ :=
    (receive_request s via hsecurity hintake hprovider).trans (dispatchRequest_eq s hprovider)
  rw [herror, hpending] at hafter
  refine ⟨?_, replies, hsends, ?_, ?_, ?_⟩
  · -- with or without an error at their end, the sender accepts all replies
    suffices haccepted : ∃ sent last, s.Sends after sent ∧
        start.receiveAll (sent.map Message.header) = .ok last by
      obtain ⟨sent, last, hsent, hlast⟩ := haccepted
      exact hsent.exists_course hstart hlast
    -- the instance adds an error, or nothing
    split at hafter
    · next failure stage _ hstage =>
      rw [hafter]
      exact Site.respondError_accepted hsends hseen (hpending.trans hstage) ..
    · exact ⟨replies, seen, hafter ▸ hsends, hseen⟩
  · -- a handler that returns adds nothing
    intro hok
    rw [hafter, show (s.serve a m').1 = .ok () from hok]
  · -- nor does one that fails after its last reply
    rintro failure - ⟨e, he, hend⟩
    rw [hafter, Pattern.failureStage?_of_ends (List.mem_map_of_mem he) hend]
    split
    · next hstage => cases hstage
    · rfl
  · -- no reply of the handler has ended the interaction, so there is a stage for the error
    intro failure hfailure hopen
    have hopen' : ∀ k ∈ replies.map (fun e => e.header.mark), p.ends k = false := by
      intro k hk
      obtain ⟨e, he, rfl⟩ := List.mem_map.1 hk
      exact hopen e he
    obtain ⟨stage, hstage⟩ := Pattern.exists_failureStage hserved hopen'
    let error := a.errorResponse served.now m'.header stage failure.standardError
    have herror : a.RepliesTo m'.header stage true (.error failure.standardError) error :=
      a.repliesTo_errorResponse ..
    have hattempted : after = (served.send a.endpoint error).2 := by
      rw [hafter, hstage, show (s.serve a m').1 = .error failure from hfailure]
      rfl
    refine ⟨stage, error, hstage, herror, herror.error?, hattempted, ?_⟩
    -- the attempt may fail, and then nothing is added either
    rw [hattempted]
    rcases served.send_cases a.endpoint error with ⟨hok, hsent⟩ | ⟨f, hfailed, hsent⟩
    · exact .inl ⟨hok, (hsends.trans hsent).sentSince_eq⟩
    · have hnothing := (hsends.trans hsent).sentSince_eq
      rw [List.append_nil] at hnothing
      exact .inr ⟨f, hfailed, hnothing⟩

/-- A handler acknowledges an Invoke, its response is lost, and it gives up: after the
    acknowledgement its failure is returned, at the stage of the response. -/
theorem served_in_order_invoke :
    let failure : Failure := .internal "response lost"
    let handler : Handler :=
      { name := "h"
        conduct := fun _ => .reply (.acknowledge .empty) fun _ =>
          .failNextSend (.reply (.respond .empty) fun _ => .finish (.error failure)) }
    let a : Address := { endpoint := ⟨0, "p"⟩, uri := "p", handler := handler }
    let i := (Instance.create {} .system 0).bindProvider {} a
    let s : Site := { now := 0, transport := { endpoints := [{ name := "e", uri := "p" }] } }
    let m : Message :=
      { header := { uriFrom := "c", uriTo := "p", pattern := .invoke, stage := some 1,
                    timestamp := 0, transaction := some 5 } }
    let after := (i.receive s ⟨0, "p"⟩ m).2
    let ack : Message :=
      { header := { uriFrom := "p", uriTo := "c", pattern := .invoke, stage := some 2,
                    timestamp := 0, transaction := some 5 } }
    let error : Message :=
      { header := { ack.header with stage := some 3, isError := true }
        body := .error ⟨StandardError.internal, some "response lost"⟩ }
    m.header.intake = .request ∧ i.provider m.header = .ok a ∧
      after.sentSince s = [ack, error] ∧ error.error? = some failure.standardError ∧
      a.RepliesTo m.header Stage.invokeResponse true
        (.error ⟨StandardError.internal, some "response lost"⟩) error ∧
      Course .invoke Stage.initial ((after.sentSince s).map fun e => e.header.mark) := by
  intro failure handler a i s m after ack error
  have hprovider : i.provider m.header = .ok a := by rfl
  obtain ⟨⟨rest, hcourse, hrest⟩, replies, hsends, _, _, hfailed⟩ :=
    @served_in_order i s ⟨0, "p"⟩ m m a rfl rfl hprovider
  obtain rfl : [ack] = replies := hsends.sentSince_eq
  have hopen : ∀ e ∈ [ack], Pattern.invoke.ends e.header.mark = false := by
    intro e he
    obtain rfl := List.mem_singleton.1 he
    rfl
  -- the handler failed with its interaction still open, so an error is due
  obtain ⟨stage, error', hstage, hreply, herror, -, hsent⟩ := hfailed failure rfl hopen
  obtain rfl : Stage.invokeResponse = stage := Option.some.inj hstage
  obtain rfl : rest = [] := hrest.2 ⟨_, .tail _ (.head _), rfl⟩
  rw [List.append_nil] at hcourse
  -- two messages were sent, so the attempt at the error succeeded
  have hboth : after.sentSince s = [ack, error] := rfl
  rw [hboth] at hsent
  rcases hsent with ⟨-, hsent⟩ | ⟨f, -, hnone⟩
  · obtain rfl : error = error' := List.singleton_inj.1 (List.cons.inj hsent).2
    exact ⟨rfl, hprovider, hboth, herror, hreply, hcourse⟩
  · cases hnone

end Instance

end Mal
