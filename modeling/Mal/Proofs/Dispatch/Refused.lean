import Mal.Proofs.Sending
import Mal.Instance.Dispatch

/-!
# Messages that are refused

An instance that lets messages pass only with certain authentication ids refuses all others
(`Instance.Refuses`). A message that is refused comes to nothing: no pending interaction, no route
and no binding changes, and no provider, broker or listener is called. All that may happen is that
its sender is sent one error (`Header.refusal?`), and this error is made of the header of the
message and of the time. So neither the body of the message nor the state that it finds shows in the
answer.

## Key results

- `Header.refusal?_spec`: to whom, at which stage and with which error a refusal is sent
- `Instance.receive_refused`: all that happens when a message is refused
- `Instance.refused_without_effect`: that this is next to nothing, and the same wherever it happens
-/

namespace Mal

/-- What the sender of a message with this header is sent at time `now` if the message is refused;
    nothing, if the sender waits for no reply. -/
def Header.refusal? (now : UInt64) (h : Header) : Option Message :=
  h.errorReplyStage.map fun stage =>
    .ofError (h.reply now stage true)
      (.withInfo StandardError.authorisationFail
        s!"authentication id from {h.uriFrom} not permitted")

/-- The same message, sent at time `now`. -/
def Message.sentAt (now : UInt64) (m : Message) : Message :=
  { m with header := { m.header with timestamp := now } }

namespace Header

variable {h : Header} {now : UInt64} {e : Message}

/-- A refusal goes to the sender, at the stage at which the sender waits for a reply, and says that
    the sender is not authorised. -/
theorem refusal?_spec (hrefusal : h.refusal? now = some e) :
    h.errorReplyStage = e.header.stage ∧ e.header.uriTo = h.uriFrom ∧
      e.header.transaction = h.transaction ∧
      e.error?.map StandardError.number = some StandardError.authorisationFail := by
  obtain ⟨stage, hstage, rfl⟩ := Option.map_eq_some_iff.1 hrefusal
  exact ⟨hstage, rfl, rfl, rfl⟩

/-- There is none where the sender waits for no reply. -/
private theorem refusal?_eq_none_iff : h.refusal? now = none ↔ h.errorReplyStage = none :=
  Option.map_eq_none_iff

/-- Refusals at different times are the same but for the time. -/
private theorem map_sentAt_refusal? (h : Header) (now later : UInt64) :
    (h.refusal? now).map (Message.sentAt later) = h.refusal? later := by
  simp only [refusal?, Option.map_map]
  rfl

end Header

namespace Instance

/-- The instance lets messages pass only with certain authentication ids, and this message has none
    of them. -/
def Refuses (i : Instance) (m : Message) : Prop :=
  ∃ allowed, i.security = .allowing allowed ∧ m.header.authenticationId ∉ allowed

variable {i : Instance} {m : Message}

/-- A message that is refused is answered with its refusal, and that is all that happens. -/
theorem receive_refused (hrefuses : i.Refuses m) (s : Site) (via : EndpointRef) :
    i.receive s via m =
      (i, match m.header.refusal? s.now with
        | none => s
        | some e => (s.send via e).2) := by
  obtain ⟨allowed, hsecurity, hid⟩ := hrefuses
  have hcheck : i.security m =
      .error (.security s!"authentication id from {m.header.uriFrom} not permitted") := by
    simp only [hsecurity, Security.allowing, if_neg hid]
  -- the check fails before anything is looked up, so only the answer is left
  simp only [receive, dispatch, hcheck, returnFailure, Header.refusal?]
  cases m.header.errorReplyStage <;> rfl

/-- So what is sent is the refusal, if the endpoint takes it. -/
private theorem sentSince_of_refused (hrefuses : i.Refuses m) {s : Site} {via : EndpointRef}
    (htaken : ∀ e ∈ m.header.refusal? s.now, (s.send via e).1 = .ok ()) :
    (i.receive s via m).2.sentSince s = (m.header.refusal? s.now).toList := by
  rw [receive_refused hrefuses]
  cases hrefusal : m.header.refusal? s.now with
  -- nobody waits for an answer, so nothing is sent
  | none => exact (Site.Sends.of_sent_eq rfl).sentSince_eq
  | some e =>
    have hok : (s.send via e).1 = .ok () := htaken e hrefusal
    exact (Site.sends_of_send_ok (Prod.ext hok rfl)).sentSince_eq

/-- A message that is refused has no effect. The instance stays as it is, with all its tables, and
    so does the site but for its transport, so nobody is called. If the sender waits for no reply
    the transport stays as it is too; otherwise one message is given to it, and sent if the endpoint
    takes it: an error that says that the sender is not authorised, to the sender and at the stage
    that it waits for.

    Any other message with the same header, refused anywhere else, is answered with the same, apart
    from the time of the answer. -/
theorem refused_without_effect (i : Instance) (s : Site) (via : EndpointRef) (m : Message)
    (hrefuses : i.Refuses m) :
    let after := (i.receive s via m).2
    (i.receive s via m).1 = i ∧ (∃ transport, after = { s with transport := transport }) ∧
      (m.header.errorReplyStage = none → after = s) ∧
      (∀ stage, m.header.errorReplyStage = some stage →
        ∃ e, e.header.stage = some stage ∧ e.header.uriTo = m.header.uriFrom ∧
          e.error?.map StandardError.number = some StandardError.authorisationFail ∧
          after = (s.send via e).2 ∧ ((s.send via e).1 = .ok () → after.sentSince s = [e])) ∧
      ∀ (i' : Instance) (s' : Site) (via' : EndpointRef) (m' : Message), i'.Refuses m' →
        m'.header = m.header →
        (∀ e ∈ m.header.refusal? s.now, (s.send via e).1 = .ok ()) →
        (∀ e ∈ m.header.refusal? s'.now, (s'.send via' e).1 = .ok ()) →
        (i'.receive s' via' m').2.sentSince s' =
          (after.sentSince s).map (Message.sentAt s'.now) := by
  have hreceive := receive_refused hrefuses s via
  refine ⟨by rw [hreceive], ?_, ?_, ?_, ?_⟩
  · rw [hreceive]
    -- the transport is all that a send may change
    cases m.header.refusal? s.now with
    | none => exact ⟨s.transport, rfl⟩
    | some e => exact ⟨(s.transport.send via e).2, rfl⟩
  · intro hstage
    rw [hreceive, Header.refusal?_eq_none_iff.2 hstage]
  · -- there is a stage to answer at, so a refusal is attempted
    intro stage hstage
    obtain ⟨e, hrefusal⟩ : ∃ e, m.header.refusal? s.now = some e := by
      rw [Header.refusal?, hstage]
      exact ⟨_, rfl⟩
    obtain ⟨hat, hto, -, herror⟩ := Header.refusal?_spec hrefusal
    refine ⟨e, hat.symm.trans hstage, hto, herror, by rw [hreceive, hrefusal], ?_⟩
    intro hok
    have htaken : ∀ e' ∈ m.header.refusal? s.now, (s.send via e').1 = .ok () := by
      intro e' he'
      obtain rfl := Option.some.inj (hrefusal.symm.trans he')
      exact hok
    rw [sentSince_of_refused hrefuses htaken, hrefusal, Option.toList_some]
  · -- elsewhere the same header is refused in the same words
    intro i' s' via' m' hrefuses' hheader htaken htaken'
    rw [← hheader] at htaken'
    rw [sentSince_of_refused hrefuses' htaken', sentSince_of_refused hrefuses htaken, hheader,
      ← Option.toList_map, Header.map_sentAt_refusal?]

/-- A registration is refused where its broker is bound, and where there is no broker and time has
    gone on. The sender gets the same error from both. -/
theorem refused_without_effect_register :
    let b : Broker :=
      { name := "b", slot := 0, conduct := fun _ memory _ _ => .finish memory (.ok ()) }
    let bare : Instance := { Instance.create {} .system 0 with security := .allowing [[1]] }
    let site (now : UInt64) : Site :=
      { now := now, transport := { endpoints := [{ name := "e", uri := "b" }] } }
    let m (body : Body) : Message :=
      { header := { uriFrom := "c", uriTo := "b", pattern := .pubSub, stage := some 1,
                    timestamp := 0, authenticationId := [2], transaction := some 7 },
        body := body }
    let registration := m (.subscription { id := "x", entities := [] })
    let after := ((bare.bindBroker "b" b).receive (site 0) ⟨0, "b"⟩ registration).2
    (bare.bindBroker "b" b).Refuses registration ∧ bare.Refuses (m .empty) ∧
      (∃ e, after.sentSince (site 0) = [e] ∧ e.header.stage = some 2 ∧ e.header.uriTo = "c" ∧
        e.error?.map StandardError.number = some StandardError.authorisationFail) ∧
      (bare.receive (site 5) ⟨0, "b"⟩ (m .empty)).2.sentSince (site 5) =
        (after.sentSince (site 0)).map (Message.sentAt 5) := by
  intro b bare site m registration after
  have hbound : (bare.bindBroker "b" b).Refuses registration := ⟨[[1]], rfl, by decide⟩
  have hbare : bare.Refuses (m .empty) := ⟨[[1]], rfl, by decide⟩
  -- the one message at both instances, with and without a broker
  obtain ⟨-, -, -, hanswer, hsame⟩ :=
    refused_without_effect (bare.bindBroker "b" b) (site 0) ⟨0, "b"⟩ registration hbound
  obtain ⟨e, hat, hto, herror, -, hsent⟩ := hanswer 2 rfl
  refine ⟨hbound, hbare, ⟨e, hsent rfl, hat, hto, herror⟩, ?_⟩
  exact hsame bare (site 5) ⟨0, "b"⟩ (m .empty) hbare rfl (fun _ _ => rfl) (fun _ _ => rfl)

end Instance

end Mal
