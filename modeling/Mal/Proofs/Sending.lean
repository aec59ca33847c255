import Mal.Instance.Site
import Mal.Proofs.Correlation.ReplyOrder

/-!
# What leaves a site

The transport of a site keeps what has been sent in order, so what an operation sends is what it
adds at the end. `Site.sentSince` reads it off two states of a site; `Site.Sends` is the same as a
relation, which composes along several operations.

A reply call is either sent, and then the respondent has gone one step on, or it leaves the
respondent and the record of messages as they were (`Site.reply_cases`).
-/

namespace Mal

namespace Site

/-- The messages that have left a site since an earlier state of it, oldest first. -/
def sentSince (s before : Site) : List Message :=
  (s.transport.sent.drop before.transport.sent.length).map Prod.snd

/-- Between two states of a site exactly the messages `ms` have left, in this order. -/
def Sends (before after : Site) (ms : List Message) : Prop :=
  ∃ out, after.transport.sent = before.transport.sent ++ out ∧ out.map Prod.snd = ms

/-- The endpoint is open, and no send through it is due to fail. -/
def Takes (s : Site) (e : EndpointRef) : Prop :=
  ∃ endpoint, s.transport.endpoints[e.slot]? = some endpoint ∧ endpoint.closed = false ∧
    endpoint.faults = []

theorem Sends.sentSince_eq {s s' : Site} {ms : List Message} (h : s.Sends s' ms) :
    s'.sentSince s = ms := by
  obtain ⟨out, hout, rfl⟩ := h
  simp [sentSince, hout]

theorem Sends.of_sent_eq {s s' : Site} (h : s'.transport.sent = s.transport.sent) :
    s.Sends s' [] :=
  ⟨[], by simp [h], rfl⟩

theorem Sends.trans {s s' s'' : Site} {as bs : List Message} (ha : s.Sends s' as)
    (hb : s'.Sends s'' bs) : s.Sends s'' (as ++ bs) := by
  obtain ⟨oa, hoa, rfl⟩ := ha
  obtain ⟨ob, hob, rfl⟩ := hb
  exact ⟨oa ++ ob, by rw [hob, hoa, List.append_assoc], List.map_append⟩

/-- A send either succeeds and the message leaves, or fails and nothing does. -/
theorem send_cases (s : Site) (e : EndpointRef) (m : Message) :
    ((s.send e m).1 = .ok () ∧ s.Sends (s.send e m).2 [m]) ∨
      (∃ f, (s.send e m).1 = .error f ∧ s.Sends (s.send e m).2 []) := by
  have hsent := s.transport.sent_send e m
  -- whether the message was accepted decides both what is answered and what has left
  cases hr : (s.transport.send e m).1 with
  | ok u =>
    rw [hr] at hsent
    exact .inl ⟨hr, [(e.slot, m)], hsent, rfl⟩
  | error f =>
    rw [hr] at hsent
    exact .inr ⟨f, hr, .of_sent_eq hsent⟩

theorem sends_of_send_ok {s s' : Site} {e : EndpointRef} {m : Message}
    (h : s.send e m = (.ok (), s')) : s.Sends s' [m] := by
  rcases s.send_cases e m with ⟨_, hsent⟩ | ⟨failure, hfailed, _⟩
  · rwa [h] at hsent
  · rw [h] at hfailed
    cases hfailed

theorem sends_of_send_error {s s' : Site} {e : EndpointRef} {m : Message} {failure : Failure}
    (h : s.send e m = (.error failure, s')) : s.Sends s' [] := by
  rcases s.send_cases e m with ⟨hok, _⟩ | ⟨_, _, hnothing⟩
  · rw [h] at hok
    cases hok
  · rwa [h] at hnothing

/-- A send through an endpoint that takes messages succeeds, and the endpoint goes on taking
    them. -/
theorem Takes.send {s : Site} {e : EndpointRef} (h : s.Takes e) (m : Message) :
    (s.send e m).1 = .ok () ∧ (s.send e m).2.Takes e := by
  obtain ⟨endpoint, hget, hopen, hfaults⟩ := h
  -- the attempt succeeds and leaves the endpoint as it was
  have hattempt : endpoint.attempt = (.ok (), endpoint) := by
    simp [Endpoint.attempt, hopen, hfaults]
  have hslot : e.slot < s.transport.endpoints.length := (List.getElem?_eq_some_iff.1 hget).1
  simp only [Site.send, Transport.send, hget, hattempt, true_and]
  exact ⟨endpoint, by simp [hslot], hopen, hfaults⟩

end Site

/-! ## Reply calls -/

/-- Under this pattern the call takes the progress `p` to `p'` by a reply with the mark `k`. -/
def ReplyCall.Steps (call : ReplyCall) (pattern : Pattern) (p p' : ReplyProgress) (k : Mark) :
    Prop :=
  ∃ step, call.step? pattern p = some (some step) ∧ p.advance step = .ok p' ∧
    (step.stage, call.error?.isSome) = k

namespace Respondent

/-- The reply that a call sends bears the stage it is sent at, and the error flag exactly when the
    call returns an error. -/
private theorem mark_replyMessage (r : Respondent) (now : UInt64) (stage : Stage)
    (call : ReplyCall) :
    (r.replyMessage now stage call).header.mark = (stage, call.error?.isSome) := by
  unfold replyMessage
  split
  · next e he => rw [he]; rfl
  · next he => rw [he]; rfl

/-- A reply that is begun is a step of its call, and changes nothing but the progress. -/
theorem begin_eq_ok {r begun : Respondent} {now : UInt64} {call : ReplyCall} {m : Message}
    (h : r.begin now call = some (.ok (begun, m))) :
    ∃ p, call.Steps r.pattern r.progress p m.header.mark ∧ begun = { r with progress := p } := by
  simp only [Respondent.begin] at h
  split at h
  · -- a call out of order, or one that sends nothing, begins no reply
    cases h
  · cases h
  · next step hstep =>
    split at h
    · cases h
    · -- the reply bears the mark of the step
      next p hp =>
      cases h
      exact ⟨p, ⟨step, hstep, hp, (mark_replyMessage ..).symm⟩, rfl⟩

/-- Every step of a call can be begun. -/
private theorem begin_of_steps {r : Respondent} {call : ReplyCall} {p : ReplyProgress} {k : Mark}
    (h : call.Steps r.pattern r.progress p k) (now : UInt64) :
    ∃ m, r.begin now call = some (.ok ({ r with progress := p }, m)) ∧ m.header.mark = k := by
  obtain ⟨step, hstep, hp, rfl⟩ := h
  refine ⟨r.replyMessage now step.stage call, ?_, mark_replyMessage ..⟩
  simp only [Respondent.begin, hstep, hp]

end Respondent

namespace Site

/-- A reply call takes a step and the reply of that step is sent, or nothing is sent and the
    respondent is as before. -/
theorem reply_cases (s : Site) (r : Respondent) (call : ReplyCall) :
    (∃ p m, call.Steps r.pattern r.progress p m.header.mark ∧
      (s.reply r call).2.1 = { r with progress := p } ∧ s.Sends (s.reply r call).2.2 [m]) ∨
    ((s.reply r call).2.1 = r ∧ s.Sends (s.reply r call).2.2 []) := by
  cases hb : r.begin s.now call with
  | none =>
    -- nothing was sent, so nothing has changed
    refine .inr ⟨?_, .of_sent_eq ?_⟩ <;> simp only [Site.reply, hb]
  | some result =>
    cases result with
    | error f => refine .inr ⟨?_, .of_sent_eq ?_⟩ <;> simp only [Site.reply, hb]
    | ok begunMessage =>
      obtain ⟨begun, m⟩ := begunMessage
      obtain ⟨p, hsteps, rfl⟩ := Respondent.begin_eq_ok hb
      simp only [Site.reply, hb]
      rcases s.send_cases r.address.endpoint m with ⟨hr, hs⟩ | ⟨f, hr, hs⟩
      · exact .inl ⟨p, m, hsteps, by rw [hr]; rfl, hs⟩
      · -- the record of the reply is taken back, which restores the whole respondent
        exact .inr ⟨by rw [hr]; rfl, hs⟩

/-- Where messages are taken, every step of a call is taken and its reply is sent. -/
theorem reply_of_steps {s : Site} {r : Respondent} {call : ReplyCall} {p : ReplyProgress}
    {k : Mark} (ht : s.Takes r.address.endpoint) (h : call.Steps r.pattern r.progress p k) :
    ∃ m, m.header.mark = k ∧ (s.reply r call).2.1 = { r with progress := p } ∧
      s.Sends (s.reply r call).2.2 [m] ∧ (s.reply r call).2.2.Takes r.address.endpoint := by
  -- the step gives a reply, which the endpoint takes
  obtain ⟨m, hb, hm⟩ := Respondent.begin_of_steps h s.now
  obtain ⟨hok, htakes⟩ := ht.send m
  refine ⟨m, hm, ?_⟩
  simp only [Site.reply, hb, hok, Respondent.settle, true_and]
  refine ⟨?_, htakes⟩
  rcases s.send_cases r.address.endpoint m with ⟨_, hs⟩ | ⟨f, hf, _⟩
  · exact hs
  · rw [hok] at hf
    cases hf

end Site

end Mal
