import Mal.Instance.Dispatch

/-!
# What travels in a network

One instance of a network is looked at (`Outlook`). `Traffic` says that the messages which start
interactions from there have different transaction ids, and that every reply which travels there,
errors apart, answers one of them: it has its transaction id and, if that one is a Request to where
Requests are echoed, its body.

Nothing is said about how the messages came to be there. What may be sent without disturbing the
order is either no start and no reply of the instance (`Traffic.append`), or a start with a new id
(`Traffic.start`).

## Key results

- `Traffic.append`, `Traffic.start`: what may be added to the messages that were sent
- `Answers.agrees`: an answer may be replaced by a message that agrees with it
-/

namespace Mal

/-! ## Messages that agree -/

/-- Two messages agree in all that decides where a message belongs, and in what it says. -/
structure Message.Agrees (m m' : Message) : Prop where
  uriFrom : m'.header.uriFrom = m.header.uriFrom
  uriTo : m'.header.uriTo = m.header.uriTo
  service : m'.header.service = m.header.service
  pattern : m'.header.pattern = m.header.pattern
  stage : m'.header.stage = m.header.stage
  isError : m'.header.isError = m.header.isError
  transaction : m'.header.transaction = m.header.transaction
  body : m'.body = m.body

namespace Message.Agrees

private theorem refl (m : Message) : m.Agrees m := ⟨rfl, rfl, rfl, rfl, rfl, rfl, rfl, rfl⟩

/-- Messages that agree are taken in alike. -/
theorem intake {m m' : Message} (h : m.Agrees m') : m'.header.intake = m.header.intake := by
  simp only [Header.intake, h.pattern, h.stage, h.isError]

end Message.Agrees

/-- A check that refuses messages or lets them pass as they are, as far as it matters. -/
def Security.Faithful (check : Security) : Prop :=
  ∀ m m', check m = .ok m' → m.Agrees m'

theorem Security.faithful_unrestricted : unrestricted.Faithful := by
  intro m m' h
  cases h
  exact .refl m

theorem Security.faithful_allowing (allowed : List Bytes) : (allowing allowed).Faithful := by
  intro m m' h
  simp only [allowing] at h
  split at h
  · -- the only message that passes is the one that was checked
    cases h
    exact .refl m
  · cases h

/-! ## Traffic -/

/-- From where a network is looked at, and what is expected of it. -/
structure Outlook where
  /-- The name of the instance that is at home at a URI. -/
  home : String → String
  /-- The name of the instance that is looked at. -/
  self : String
  /-- At which URIs, and for which service there, Requests are echoed. -/
  echoing : String → Service → Prop

/-- The message starts an interaction that has replies or may have. -/
def Header.Starts (h : Header) : Prop :=
  h.intake = .request ∨ h.intake = .broker

theorem Header.not_starts {h : Header} {x : Intake} (hx : h.intake = x) (hr : x ≠ .request)
    (hb : x ≠ .broker) : ¬ h.Starts := by
  rintro (h' | h')
  · exact hr (hx.symm.trans h')
  · exact hb (hx.symm.trans h')

/-- The message answers one that was sent from the instance with the same transaction id, and says
    the same if that one is a Request that is echoed. -/
def Answers (o : Outlook) (sent : List Message) (m : Message) : Prop :=
  ∃ q ∈ sent, q.header.Starts ∧ o.home q.header.uriFrom = o.self ∧
    q.header.transaction = m.header.transaction ∧
    (q.header.pattern = .request → o.echoing q.header.uriTo q.header.service → m.body = q.body)

/-- The message is a reply that travels to the instance and is no error. -/
def RepliesTo (o : Outlook) (m : Message) : Prop :=
  m.header.intake = .reply ∧ m.header.isError = false ∧ o.home m.header.uriTo = o.self

/-- What was sent is in order, as seen from the instance, whose ids have come as far as `last`. -/
structure Traffic (o : Outlook) (last : Nat) (sent : List Message) : Prop where
  start_le {q : Message} : q ∈ sent → q.header.Starts → o.home q.header.uriFrom = o.self →
    ∃ id, q.header.transaction = some id ∧ id.toNat ≤ last
  start_inj {q q' : Message} : q ∈ sent → q' ∈ sent → q.header.Starts → q'.header.Starts →
    o.home q.header.uriFrom = o.self → o.home q'.header.uriFrom = o.self →
    q.header.transaction = q'.header.transaction → q = q'
  answers {m : Message} : m ∈ sent → RepliesTo o m → Answers o sent m

section

variable {o : Outlook} {last last' : Nat} {sent sent' : List Message}

theorem Answers.mono {m : Message} (h : Answers o sent m) (hsub : sent ⊆ sent') :
    Answers o sent' m := by
  obtain ⟨q, hq, hrest⟩ := h
  exact ⟨q, hsub hq, hrest⟩

/-- An answer goes on being one if it is replaced by a message that agrees with it. -/
theorem Answers.agrees {m m' : Message} (h : Answers o sent m) (hm : m.Agrees m') :
    Answers o sent m' := by
  obtain ⟨q, hq, hstarts, hfrom, htransaction, hbody⟩ := h
  exact ⟨q, hq, hstarts, hfrom, htransaction.trans hm.transaction.symm,
    fun hp hto => hm.body.trans (hbody hp hto)⟩

namespace Traffic

theorem nil : Traffic o last [] where
  start_le h := by cases h
  start_inj h := by cases h
  answers h := by cases h

theorem mono (h : Traffic o last sent) (hle : last ≤ last') : Traffic o last' sent where
  start_le hq hstarts hfrom := by
    obtain ⟨id, hid, hlast⟩ := h.start_le hq hstarts hfrom
    exact ⟨id, hid, Nat.le_trans hlast hle⟩
  start_inj := h.start_inj
  answers := h.answers

/-- Messages may be added that start nothing from the instance, and that answer something if they
    are replies to it. -/
theorem append (h : Traffic o last sent) {ms : List Message}
    (hstarts : ∀ m ∈ ms, m.header.Starts → o.home m.header.uriFrom ≠ o.self)
    (hanswers : ∀ m ∈ ms, RepliesTo o m → Answers o sent m) :
    Traffic o last (sent ++ ms) := by
  -- the new messages start nothing from here
  have hold {q : Message} (hq : q ∈ sent ++ ms) (hs : q.header.Starts)
      (hfrom : o.home q.header.uriFrom = o.self) : q ∈ sent := by
    rcases List.mem_append.1 hq with hq | hq
    · exact hq
    · exact absurd hfrom (hstarts q hq hs)
  refine ⟨?_, ?_, ?_⟩
  · intro q hq hs hfrom
    exact h.start_le (hold hq hs hfrom) hs hfrom
  · intro q q' hq hq' hs hs' hfrom hfrom'
    exact h.start_inj (hold hq hs hfrom) (hold hq' hs' hfrom') hs hs' hfrom hfrom'
  · intro m hm hreply
    -- what is answered was sent before
    refine Answers.mono ?_ (List.subset_append_left ..)
    rcases List.mem_append.1 hm with hm | hm
    · exact h.answers hm hreply
    · exact hanswers m hm hreply

/-- A message may be added that starts something with a new id. -/
theorem start (h : Traffic o last sent) {q : Message} {id : TransactionId}
    (hid : q.header.transaction = some id) (hlt : last < id.toNat)
    (hintake : q.header.intake ≠ .reply) : Traffic o id.toNat (sent ++ [q]) := by
  -- nothing that was sent has the new id
  have hne {q' : Message} (hq' : q' ∈ sent) (hs : q'.header.Starts)
      (hfrom : o.home q'.header.uriFrom = o.self) :
      q'.header.transaction ≠ q.header.transaction := by
    obtain ⟨id', hid', hle⟩ := h.start_le hq' hs hfrom
    intro heq
    rw [hid', hid] at heq
    cases heq
    omega
  refine ⟨?_, ?_, ?_⟩
  · intro q' hq' hs hfrom
    rcases List.mem_append.1 hq' with hq' | hq'
    · obtain ⟨id', hid', hle⟩ := h.start_le hq' hs hfrom
      exact ⟨id', hid', by omega⟩
    · obtain rfl := List.mem_singleton.1 hq'
      exact ⟨id, hid, Nat.le_refl _⟩
  · intro q₁ q₂ h₁ h₂ hs₁ hs₂ hfrom₁ hfrom₂ heq
    rcases List.mem_append.1 h₁ with hold₁ | hnew₁ <;>
      rcases List.mem_append.1 h₂ with hold₂ | hnew₂
    · exact h.start_inj hold₁ hold₂ hs₁ hs₂ hfrom₁ hfrom₂ heq
    · -- an old start has another id than the new one
      obtain rfl := List.mem_singleton.1 hnew₂
      exact absurd heq (hne hold₁ hs₁ hfrom₁)
    · obtain rfl := List.mem_singleton.1 hnew₁
      exact absurd heq.symm (hne hold₂ hs₂ hfrom₂)
    · rw [List.mem_singleton.1 hnew₁, List.mem_singleton.1 hnew₂]
  · intro m hm hreply
    -- an old reply goes on answering what it answered
    rcases List.mem_append.1 hm with hm | hm
    · exact (h.answers hm hreply).mono (List.subset_append_left ..)
    · obtain rfl := List.mem_singleton.1 hm
      -- what starts an interaction is no reply
      exact absurd hreply.1 hintake

end Traffic

end

end Mal
