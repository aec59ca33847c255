import Mal.Proofs.Network.Arrivals
import Mal.Proofs.Dispatch.Correlated
import Mal.Proofs.Provider.Served

/-!
# Failures of handlers reach initiators

A handler may give up an interaction before it is over, after any replies. Its failure is sent after
these replies, in the form of a standard error and at the stage that the initiator awaits
(`Instance.receive_of_handler_error`). So the initiator accepts all of it: a waiter is returned the
replies and then the error, and a listener is told the replies and then, by one callback, the error
(`Network.failure_returned`).

This needs more than a transport that works: the security checks of both sides have to let the
messages pass, and the initiator must not have given up (`Network.failure_lost`).

## Key results

- `Instance.receive_of_handler_error`: what is sent for a handler that gives up
- `Network.failure_returned`: a failure reaches the initiator
- `Network.failure_lost`: failures that do not
-/

namespace Mal

/-! ## The provider -/

/-- The callback by which the listener of an interaction is told that the handler gave up, after the
    replies `sent`. -/
def Pattern.failureCallback? (p : Pattern) (sent : List Mark) : Option Callback :=
  match p with
  | .submit => some .submitError
  | .request => some .requestError
  | .invoke =>
    some (if sent.contains (Stage.invokeAck, false) then .invokeResponseError
      else .invokeAckError)
  | .progress =>
    some (if sent.contains (Stage.progressAck, false) then .progressResponseError
      else .progressAckError)
  | .send | .pubSub => none

/-- An error at the stage for it invokes this callback. -/
private theorem Pattern.interactionCallback?_error {p : Pattern} {sent : List Mark} {stage : Stage}
    (hstage : p.failureStage? sent = some stage) {h : Header} (hpattern : h.pattern = p)
    (hs : h.stage = some stage) (error : StandardError) :
    (Outcome.error h error).interactionCallback? = p.failureCallback? sent := by
  unfold failureStage? at hstage
  split at hstage
  · cases hstage
  · cases p with
    | send | pubSub => cases hstage
    -- a single reply is awaited, so there is one callback for an error
    | submit | request =>
      simp only [Outcome.interactionCallback?, Outcome.header, hpattern]
      rfl
    | invoke | progress =>
      -- which callback it is depends on whether the acknowledgement was sent
      cases hstage
      simp only [Outcome.interactionCallback?, Outcome.header, hpattern, failureCallback?,
        Outcome.isError, Header.stageOrZero, hs, List.contains_iff_mem]
      split <;> rfl

/-- Where a state is under way from the first stage of a pattern, interactions start in it. -/
theorem ReplyState.UnderWay.initial_eq {p : Pattern} {st : ReplyState}
    (h : UnderWay p Stage.initial st) : initial p (some Stage.initial) = .ok (some st) := by
  generalize hs : Stage.initial = s at h
  cases h <;> first | rfl | cases hs

/-- The message `e` leads back to the interaction that `m` started: it is for the sender, in the
    same transaction, and taken in as a reply. -/
structure Message.AnsweredBy (m e : Message) : Prop where
  uriTo : e.header.uriTo = m.header.uriFrom
  transaction : e.header.transaction = m.header.transaction
  intake : e.header.intake = .reply

theorem Message.AnsweredBy.repliesIn {m e : Message} (h : m.AnsweredBy e) {id : TransactionId}
    (hid : m.header.transaction = some id) : e.RepliesIn id :=
  ⟨h.transaction.trans hid, h.intake⟩

/-- All that a handler sends leads back to what it answers. -/
theorem Site.answeredBy_of_serve (s : Site) {a : Address} {m e : Message}
    (he : e ∈ (s.serve a m).2.2.sentSince s) : m.AnsweredBy e := by
  obtain ⟨⟨ms, hsends, hreplies⟩, _⟩ := s.serve_sends a m
  rw [hsends.sentSince_eq] at he
  obtain ⟨call, _, hreply⟩ := hreplies e he
  exact ⟨hreply.header.1, hreply.header.2, hreply.intake⟩

namespace Instance

variable {i : Instance} {s : Site} {m : Message} {a : Address} {failure : Failure}

/-- A handler gives up before the interaction is over, and its endpoint takes messages. After its
    replies its failure is sent, at the stage for it; the initiator accepts all of this, and the
    interaction is over then. -/
theorem receive_of_handler_error (via : EndpointRef) (hsecurity : i.security m = .ok m)
    (hintake : m.header.intake = .request) (hprovider : i.provider m.header = .ok a)
    (hfailure : (s.serve a m).1 = .error failure)
    (hopen : (s.serve a m).2.1.progress.complete = false)
    (htakes : (s.serve a m).2.2.Takes a.endpoint) :
    let served := (s.serve a m).2.2
    let replies := served.sentSince s
    ∃ stage start last,
      m.header.pattern.failureStage? (replies.map fun e => e.header.mark) = some stage ∧
      (let error := a.errorResponse served.now m.header stage failure.standardError
       s.Sends (i.receive s via m).2 (replies ++ [error]) ∧
        ReplyState.initial m.header.pattern m.header.stage = .ok (some start) ∧
        start.receiveAll ((replies ++ [error]).map Message.header) = .ok last ∧
        last.isFinished = true ∧ (∀ e ∈ replies, e.header.isError = false) ∧
        ∀ e ∈ replies ++ [error], m.AnsweredBy e) := by
  intro served replies
  -- what the respondent sent, and the state that an initiator comes to by it
  have hserved : m.header.pattern.isServed = true := Header.isServed_of_intake hintake
  obtain ⟨start, ms, seen, hstart, hsends, hseen, hrequest, hcounter⟩ := s.serve_agrees a hserved
  obtain rfl : replies = ms := hsends.sentSince_eq
  -- no reply has ended the interaction, so there is a stage for the failure
  have hnone : ∀ e ∈ replies, m.header.pattern.ends e.header.mark = false :=
    Pattern.ends_eq_false_of_receiveAll hstart hseen (hcounter.isFinished.trans hopen)
  obtain ⟨stage, hstage⟩ : ∃ stage,
      m.header.pattern.failureStage? (replies.map fun e => e.header.mark) = some stage :=
    Pattern.exists_failureStage hserved (by simpa using hnone)
  -- it is the stage that the initiator awaits, and that the respondent has come to
  have hpending : seen.pendingStage = some stage :=
    (hstart.pendingStage_eq hserved hseen).trans hstage
  have herror : (s.serve a m).2.1.errorStage = some stage := by
    rw [Respondent.errorStage, Respondent.pattern, hrequest, hcounter.errorStage_eq, hpending]
  let error := a.errorResponse served.now m.header stage failure.standardError
  obtain ⟨last, haccept, hlast⟩ := ReplyState.accept_error hpending
  refine ⟨stage, start, last, hstage, ?_, ?_, ?_, hlast, ?_, ?_⟩
  · -- the error is sent after the replies
    have hafter : (i.receive s via m).2 = (served.send a.endpoint error).2 := by
      rw [receive_request s via hsecurity hintake hprovider, dispatchRequest_eq s hprovider,
        hfailure, herror]
      rfl
    obtain ⟨hok, _⟩ := htakes.send error
    rw [hafter]
    rcases served.send_cases a.endpoint error with ⟨_, hs⟩ | ⟨_, hf, _⟩
    · exact hsends.trans hs
    · cases hok.symm.trans hf
  · rw [Header.stage_of_intake_request hintake, hstart.initial_eq]
  · -- replies are accepted as the respondent counts them, and then the error at its stage
    rw [List.map_append]
    refine ReplyState.receiveAll_append hseen ?_
    exact ReplyState.receiveAll_cons_eq_ok_iff.2 ⟨last, ReplyState.receive_eq_ok_iff.2 haccept, rfl⟩
  · -- an error would have ended the interaction
    intro e he
    have hnot := hnone e he
    simp only [Pattern.ends, Bool.or_eq_false_iff] at hnot
    exact hnot.1
  · -- every message leads back to the request, the error as well
    intro e he
    rcases List.mem_append.1 he with he | he
    · exact s.answeredBy_of_serve he
    · obtain rfl := List.mem_singleton.1 he
      rw [Respondent.errorStage, Respondent.pattern, hrequest] at herror
      exact ⟨rfl, rfl, Header.intake_of_errorStage herror rfl⟩

end Instance

namespace Network

/-- A failure reaches the initiator as it is. Whatever happened in a network before, let an
    interaction with a provider be started, with a listener or without one; let its request be
    delivered at any later time to an instance where a provider is bound for it, whose handler gives
    up before the interaction is over, and let the failure be sent.

    It is sent after the replies of the handler, at the stage that these leave for it, in the same
    transaction and to the sender of the request, as the replies were. If these messages are
    delivered to the initiator in this order and pass its check, and nothing else ends the
    interaction:

    - waiters have been returned the replies and then the failure, as far as they have collected,
      the next to be collected is the next of these, and until all is collected it can be waited
      for;
    - a listener was told the replies and then the failure, by the callbacks for their stages.

    In either form the failure is the standard error of what the handler gave up with, and this
    itself if it is one. -/
theorem failure_returned {n : Network} (hnew : n.IsNew) (home : String → String)
    (before mid later : List Move) (name : String) (c : Consumer) (d : Demand)
    (reporter : Option String) (place : Nat) (via : EndpointRef) {id : TransactionId}
    {a : Address} {failure : Failure} :
    let ready := n.after home before
    let started := ready.step home (.start name c d reporter)
    let request := d.message c.addressing ready.site.now id
    let asked := started.after home mid
    let provider := (asked.nodes (home request.header.uriTo)).inst
    let served := asked.site.serve a request
    let replies := served.2.2.sentSince asked.site
    let marks := replies.map fun m => m.header.mark
    let moves := mid ++ .deliver place via :: later
    let last := started.after home moves
    let serial := (ready.nodes name).desk.table.made
    d.pattern.isServed = true →
      ((ready.nodes name).inst.start ready.site c d reporter).2.2 = .ok id →
      asked.sent[place]? = some request → provider.security request = .ok request →
      provider.provider request.header = .ok a → served.1 = .error failure →
      served.2.1.progress.complete = false → served.2.2.Takes a.endpoint →
      ∃ stage callback, d.pattern.failureStage? marks = some stage ∧
        d.pattern.failureCallback? marks = some callback ∧
        let error :=
          a.errorResponse served.2.2.now request.header stage failure.standardError
        (asked.step home (.deliver place via)).sent = asked.sent ++ (replies ++ [error]) ∧
          a.RepliesTo request.header stage true (.error failure.standardError) error ∧
          (∀ e ∈ replies ++ [error], request.AnsweredBy e) ∧
          (started.Proceeds home name id serial moves (replies ++ [error]) →
            (reporter = none →
              let outcomes := replies.map .ok ++ [.error (.standard failure.standardError)]
              let returned :=
                (started.nodes name).desk.returned serial (started.trace home name moves)
              returned <+: outcomes ∧
                (∀ t ∈ (last.nodes name).tickets, t.serial = serial →
                  last.outcome? name t = outcomes[returned.length]?) ∧
                (returned ≠ outcomes →
                  (last.nodes name).inst.correlator.await id = .ok ⟨id, serial⟩)) ∧
            ∀ r, reporter = some r →
              ((started.nodes name).desk.told serial (started.trace home name moves)).map
                  (fun e => e.2.outcome) =
                replies.map .message ++ [.error error.header failure.standardError] ∧
              started.callbacks home name id moves =
                (replies.filterMap fun m => (Listener.interaction r).notice? (.message m)) ++
                  [⟨r, callback, .error error.header failure.standardError⟩]) ∧
          ∀ x, failure = .standard x → failure.standardError = x := by
  intro ready started request asked provider served replies marks moves last serial hserved hok
    hplace hsecurity hprovider hfailure hopen htakes
  have hintake : request.header.intake = .request := by
    cases d with
    | submit | request | invoke | progress => rfl
    | _ => cases hserved
  obtain ⟨stage, start, last', hstage, hsends, hinitial, hlast, _, hplain, hanswers⟩ :=
    Instance.receive_of_handler_error via hsecurity hintake hprovider hfailure hopen htakes
  -- the initiator starts in the state that accepts what the provider sends
  have hpattern : request.header.pattern = d.pattern := rfl
  have hstage' : request.header.stage = d.stage := rfl
  rw [hpattern, hstage'] at hinitial
  obtain ⟨callback, hcallback⟩ : ∃ callback, d.pattern.failureCallback? marks = some callback := by
    -- the pattern has a callback for the failure
    cases d with
    | submit | request | invoke | progress => exact ⟨_, rfl⟩
    | _ => cases hserved
  obtain ⟨hd, hc, hempty, hx⟩ := hnew.started home before hok hinitial
  refine ⟨stage, callback, hstage, hcallback, sent_of_deliver hplace hsends,
    a.repliesTo_errorResponse .., hanswers, ?_, ?_⟩
  · intro hproceeds
    have hreplies := fun m hm => (hanswers m hm).repliesIn rfl
    refine ⟨?_, ?_⟩
    · -- a waiter
      rintro rfl
      exact hproceeds.returned hreplies hd hc hx rfl hempty hlast hplain rfl
    · -- a listener, which was given when the interaction was started
      rintro r rfl
      have hlistener : d.listener c.addressing r = .interaction r := by
        cases d with
        | submit | request | invoke | progress => rfl
        | _ => cases hserved
      obtain ⟨first, hfirst⟩ := ReplyState.exists_stage_of_initial hinitial
      rw [hfirst] at hinitial
      -- all outcomes are told, and each invokes its callback
      obtain ⟨htold, hcallbacks⟩ := hproceeds.told hreplies hd hx (congrArg some hlistener)
        (ReplyState.underWay_of_initial hinitial).isFinished hlast hplain rfl
      refine ⟨htold, hcallbacks.trans ?_⟩
      let error := a.errorResponse served.2.2.now request.header stage failure.standardError
      have hfailed : (Outcome.error error.header failure.standardError).interactionCallback? =
          some callback :=
        (Pattern.interactionCallback?_error (h := error.header) hstage rfl rfl _).trans hcallback
      rw [List.filterMap_append, List.filterMap_map]
      refine congrArg _ ?_
      exact List.filterMap_cons_some (congrArg (Option.map _) hfailed)
  · rintro x rfl
    rfl

/-- The handler of an Invoke acknowledges it and gives up with an error of its own. The initiator
    is returned the acknowledgement and then this error, a listener is told both. -/
theorem failure_returned_invoke :
    let error : StandardError := { number := 70001, info := some "broken" }
    let handler : Handler :=
      { name := "h"
        conduct := fun _ => .reply (.acknowledge .empty) fun _ =>
          .finish (.error (.standard error)) }
    let a : Address := { endpoint := ⟨1, "b"⟩, uri := "b", handler := handler }
    let c : Consumer := { addressing := { endpoint := ⟨0, "a"⟩, uriFrom := "a", uriTo := "b" } }
    let before : List Move :=
      [.pass 0 [⟨"a", "a", false, []⟩, ⟨"b", "b", false, []⟩] .empty,
        .arrange "b" (.manual 0) .unrestricted { allocator := .start 0 0 } { separator := "::" }
          ((({} : Bindings).bindProvider {} a).2)]
    let ready := (create {} (.manual 0) 0).after id before
    let moves : List Move :=
      [.work "a" (.await 1), .deliver 0 ⟨1, "b"⟩, .deliver 1 ⟨0, "a"⟩,
        .work "a" (.collect ⟨1, 0⟩), .deliver 2 ⟨0, "a"⟩]
    let started (reporter : Option String) :=
      ready.step id (.start "a" c (.invoke 0 .empty) reporter)
    let ack : Message :=
      { header := { uriFrom := "b", uriTo := "a", pattern := .invoke, stage := some 2,
                    timestamp := 0, transaction := some 1 } }
    let failed : Message :=
      { header := { ack.header with stage := some 3, isError := true }, body := .error error }
    ((started none).step id (.deliver 0 ⟨1, "b"⟩)).sent.tail = [ack, failed] ∧
      ((started none).after id moves).outcome? "a" ⟨1, 0⟩ = some (.error (.standard error)) ∧
      (started (some "l")).callbacks id "a" 1 moves =
        [⟨"l", .invokeAck, .message ack⟩,
         ⟨"l", .invokeResponseError, .error failed.header error⟩] := by
  intro error handler a c before ready moves started ack failed
  -- the theorem at these moves; what is left is that the messages come in
  have hreturned (reporter : Option String) :=
    @failure_returned _ (isNew_create {} (.manual 0) 0) id before [.work "a" (.await 1)]
      [.deliver 1 ⟨0, "a"⟩, .work "a" (.collect ⟨1, 0⟩), .deliver 2 ⟨0, "a"⟩] "a" c
      (.invoke 0 .empty) reporter 0 ⟨1, "b"⟩ 1 a (.standard error)
  have htransported (m : Message) : .work "a" (.receive m) ∉ moves := by simp [moves]
  refine ⟨rfl, ?_, ?_⟩
  · obtain ⟨stage, _, hstage, _, _, _, _, hconclusion, _⟩ :=
      hreturned none rfl rfl rfl rfl rfl rfl rfl ⟨_, rfl, rfl, rfl⟩
    obtain rfl : Stage.invokeResponse = stage := Option.some.inj hstage
    obtain ⟨_, hwait, _⟩ :=
      (hconclusion (.of_trace (by decide +kernel) (by decide +kernel) htransported)).1 rfl
    exact (hwait ⟨1, 0⟩ (by decide +kernel) rfl).trans (by decide +kernel)
  · obtain ⟨stage, callback, hstage, hcallback, _, _, _, hconclusion, _⟩ :=
      hreturned (some "l") rfl rfl rfl rfl rfl rfl rfl ⟨_, rfl, rfl, rfl⟩
    obtain rfl : Stage.invokeResponse = stage := Option.some.inj hstage
    obtain rfl : Callback.invokeResponseError = callback := Option.some.inj hcallback
    obtain ⟨_, hcallbacks⟩ :=
      (hconclusion (.of_trace (by decide +kernel) (by decide +kernel) htransported)).2 "l" rfl
    exact hcallbacks.trans (by decide +kernel)

/-- A handler fails a Request, all messages are sent and delivered in order, and still the initiator
    does not get the error:

    - if the security check of its instance refuses the reply; a listener is told nothing either;
    - if its wait has expired before, the last it gets is a timeout;
    - if its instance was closed before, it gets the notice of the shutdown. -/
theorem failure_lost :
    let error : StandardError := { number := 70001, info := some "broken" }
    let handler : Handler :=
      { name := "h", conduct := fun _ => .finish (.error (.standard error)) }
    let a : Address := { endpoint := ⟨1, "b"⟩, uri := "b", handler := handler }
    let c : Consumer := { addressing := { endpoint := ⟨0, "a"⟩, uriFrom := "a", uriTo := "b" } }
    let arrange (name : String) (security : Security) (bindings : Bindings) : Move :=
      .arrange name (.manual 0) security { allocator := .start 0 0 } { separator := "::" } bindings
    let asked (security : Security) (reporter : Option String) :=
      (create {} (.manual 0) 0).after id
        [.pass 0 [⟨"a", "a", false, []⟩, ⟨"b", "b", false, []⟩] .empty,
          arrange "a" security {},
          arrange "b" .unrestricted (({} : Bindings).bindProvider {} a).2,
          .start "a" c (.request 0 .empty) reporter, .work "a" (.await 1), .deliver 0 ⟨1, "b"⟩]
    let reply := Move.deliver 1 ⟨0, "a"⟩
    let request := (Demand.request 0 .empty).message c.addressing 0 1
    let failed : Message :=
      { header := { uriFrom := "b", uriTo := "a", pattern := .request, stage := some 2,
                    timestamp := 0, transaction := some 1, isError := true }
        body := .error error }
    (∀ security reporter, (asked security reporter).sent = [request, failed]) ∧
      ((asked (.allowing [[1]]) none).step id reply).outcome? "a" ⟨1, 0⟩ = none ∧
      (asked (.allowing [[1]]) (some "l")).callbacks id "a" 1 [reply] = [] ∧
      (((asked .unrestricted none).nodes "a").desk.step (.expire ⟨1, 0⟩ 30000)).2 =
        .expired (some (.timeout 1 30000)) ∧
      ((asked .unrestricted none).after id [.work "a" (.expire ⟨1, 0⟩ 30000), reply]).outcome?
        "a" ⟨1, 0⟩ = none ∧
      ((asked .unrestricted none).after id [.close "a", reply]).outcome? "a" ⟨1, 0⟩ =
        some (.error Correlator.closed) := by
  intro error handler a c arrange asked reply request failed
  -- all of these are runs, which are evaluated
  refine ⟨?_, ?_, ?_, rfl, ?_, ?_⟩
  · intro security reporter
    cases reporter <;> rfl
  · decide +kernel
  · decide +kernel
  · decide +kernel
  · decide +kernel

end Network

end Mal
