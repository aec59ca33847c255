import Mal.Proofs.Correlation.Order
import Mal.Proofs.Network.Network
import Mal.Proofs.Network.Traffic
import Mal.Proofs.Reactions
import Mal.Proofs.Starting

/-!
# Order in a network

A network is in order, as seen from one of its instances, if the messages that were sent are
(`Traffic`) and the replies in the mailboxes of the instance answer what was started under their
transaction ids. Every fair move keeps the order, so what an initiator of the instance collects
under an id answers the message that was started with this id.

A move is fair (`Move.Fair`) if what is around the library behaves: Requests are echoed where they
are expected to be, brokers send nothing but notifies by themselves, security checks do not change
what a message says, other instances do not send in the name of this one, and its clock reads a
later second at every wrap of its transaction ids. Delivery may be as bad as it likes.

## Key results

- `Orderly.step`, `Orderly.after`: order is kept by every fair move
-/

namespace Mal

/-- The first message of an interaction is not taken in as a reply. -/
private theorem Demand.intake_message (d : Demand) (a : Addressing) (now : UInt64)
    (id : TransactionId) :
    (d.message a now id).header.intake ≠ .reply := by
  cases d <;> exact Intake.noConfusion

/-! ## What is assumed -/

/-- What an instance has of others: its security check passes messages on as they are, its brokers
    send nothing but notifies by themselves, and its providers echo Requests where it is
    expected. -/
structure WellBehaved (echoing : String → Service → Prop) (check : Security) (b : Bindings) :
    Prop where
  faithful : check.Faithful
  onlyNotifies {uri : String} {broker : Broker} : b.broker? uri = some broker → broker.OnlyNotifies
  echoesRequests {uri : String} {service : Service} {address : Address} : echoing uri service →
    b.provider? uri service = some address → address.handler.EchoesRequests

namespace Network

/-- A move that does what is assumed of others, and of the clock of the instance. -/
def Move.Fair (o : Outlook) (n : Network) : Move → Prop
  | .start name c d reporter =>
    if name = o.self then
      (n.nodes o.self).desk.ReadsLater
        (.initiate ((n.nodes o.self).inst.clock.seconds n.site.now) d.pattern d.stage
          (reporter.map fun r => d.listener c.addressing r))
    else o.home c.addressing.uriFrom ≠ o.self
  | .work name op => (∀ m, op ≠ .receive m) ∧ (name = o.self → (n.nodes o.self).desk.ReadsLater op)
  | .act kept call =>
    ∀ place r b, n.site.kept.get? kept = some place → n.site.respondents[place]? = some r →
      o.echoing r.request.header.uriTo r.request.header.service → r.pattern = .request →
        call = .respond b → b = r.request.body
  | .arrange _ _ security _ _ bindings => WellBehaved o.echoing security bindings
  | _ => True

/-- A run of fair moves. -/
def FairRun (o : Outlook) : Network → List Move → Prop
  | _, [] => True
  | n, move :: moves => move.Fair o n ∧ FairRun o (n.step o.home move) moves

/-! ## Order -/

/-- A reply that fits a transaction of the instance. -/
def Fits (o : Outlook) (sent : List Message) (id : TransactionId) (m : Message) : Prop :=
  m.header.transaction = some id ∧ Answers o sent m

/-- The request of the respondent is a message that was sent, and one that providers are given. -/
def Served (sent : List Message) (r : Respondent) : Prop :=
  ∃ q ∈ sent, q.Agrees r.request ∧ (q.header.intake = .request ∨ q.header.intake = .send)

/-- What a respondent sends starts nothing, and if it is a reply to the instance, it answers the
    message that the respondent was given, as long as a Request that is to be echoed is. -/
private theorem Served.reply {o : Outlook} {sent : List Message} {r : Respondent}
    (hr : Served sent r) {call : ReplyCall}
    (hcall : ∀ b, o.echoing r.request.header.uriTo r.request.header.service →
      r.pattern = .request → call = .respond b → b = r.request.body)
    {e : Message} (hreplied : r.IsReply call e) :
    ¬ e.header.Starts ∧ (RepliesTo o e → Answers o sent e) := by
  obtain ⟨q, hq, hagrees, hintake⟩ := hr
  refine ⟨Header.not_starts hreplied.intake (by decide) (by decide), fun hreply => ?_⟩
  -- a send is given to a provider as well, but nothing replies to it
  have hstarts : q.header.Starts := by
    rcases hintake with hintake | hintake
    · exact .inl hintake
    · refine absurd ?_ hreplied.pattern_ne_send
      exact hagrees.pattern.trans (Header.pattern_of_intake_send hintake)
  refine ⟨q, hq, hstarts, ?_, ?_, ?_⟩
  · rw [← hreply.2.2, hreplied.header.1, hagrees.uriFrom]
  · rw [hreplied.header.2, hagrees.transaction]
  · -- the response to a Request has the body that was sent, where Requests are echoed
    intro hpattern hto
    have hpattern' : r.pattern = .request := hagrees.pattern.trans hpattern
    rw [← hagrees.uriTo, ← hagrees.service] at hto
    rw [← hagrees.body]
    exact hcall e.body hto hpattern' (hreplied.respond hpattern' hreply.2.1)

/-- The network is in order, as seen from the instance. -/
structure Orderly (o : Outlook) (n : Network) : Prop where
  desk : (n.nodes o.self).desk.InOrder (Fits o n.sent)
  traffic : Traffic o (n.nodes o.self).desk.lastId n.sent
  served {r : Respondent} : r ∈ n.site.respondents → Served n.sent r
  wellBehaved (name : String) :
    WellBehaved o.echoing (n.nodes name).inst.security (n.nodes name).inst.bindings

namespace Orderly

variable {o : Outlook} {n : Network}

/-- One node and the site may change, if the pending interactions of the instance stay in order and
    so do the messages that were sent. -/
private theorem put (h : n.Orderly o) {name : String} {x : Node} {s : Site} {ms : List Message}
    (hdesk : name = o.self → x.desk.InOrder (Fits o n.sent)) (hsends : n.site.Sends s ms)
    (htraffic : Traffic o ((n.put name x s).nodes o.self).desk.lastId (n.sent ++ ms))
    (hserved : ∀ r ∈ s.respondents, Served n.sent r)
    (hbehaved : WellBehaved o.echoing x.inst.security x.inst.bindings) :
    (n.put name x s).Orderly o ∧ n.sent ⊆ (n.put name x s).sent := by
  have hsent : (n.put name x s).sent = n.sent ++ ms := by
    obtain ⟨out, hout, rfl⟩ := hsends
    simp [sent, Network.put, hout]
  have hsub : n.sent ⊆ (n.put name x s).sent := hsent ▸ List.subset_append_left ..
  have hfits (id : TransactionId) (m : Message) (hm : Fits o n.sent id m) :
      Fits o (n.put name x s).sent id m := ⟨hm.1, hm.2.mono hsub⟩
  -- what fitted what was sent fits what is sent now
  refine ⟨⟨?_, hsent ▸ htraffic, ?_, ?_⟩, hsub⟩
  · by_cases hname : name = o.self
    · subst hname
      rw [put_nodes_self]
      exact (hdesk rfl).mono hfits
    · rw [put_nodes_of_ne n x s (Ne.symm hname)]
      exact h.desk.mono hfits
  · intro r hr
    obtain ⟨q, hq, hrest⟩ := hserved r hr
    exact ⟨q, hsub hq, hrest⟩
  · intro other
    by_cases hother : other = name
    · subst hother
      rw [put_nodes_self]
      exact hbehaved
    · rw [put_nodes_of_ne n x s hother]
      exact h.wellBehaved other

/-- The same for messages none of which starts anything from the instance. -/
private theorem react (h : n.Orderly o) {name : String} {x : Node} {s : Site} {ms : List Message}
    (hdesk : name = o.self → x.desk.InOrder (Fits o n.sent) ∧
      (n.nodes o.self).desk.lastId ≤ x.desk.lastId)
    (hsends : n.site.Sends s ms)
    (hstarts : ∀ m ∈ ms, m.header.Starts → o.home m.header.uriFrom ≠ o.self)
    (hanswers : ∀ m ∈ ms, RepliesTo o m → Answers o n.sent m)
    (hserved : ∀ r ∈ s.respondents, Served n.sent r)
    (hbehaved : WellBehaved o.echoing x.inst.security x.inst.bindings) :
    (n.put name x s).Orderly o ∧ n.sent ⊆ (n.put name x s).sent := by
  refine h.put (fun hname => (hdesk hname).1) hsends ?_ hserved hbehaved
  -- what is sent starts nothing, so the ids may only have gone on
  refine (h.traffic.append hstarts hanswers).mono ?_
  by_cases hname : name = o.self
  · subst hname
    rw [put_nodes_self]
    exact (hdesk rfl).2
  · have hsame := n.put_nodes_of_ne x s (Ne.symm hname)
    exact Nat.le_of_eq (congrArg (fun y => y.desk.lastId) hsame.symm)

/-- The same where nothing is sent. -/
private theorem silent (h : n.Orderly o) {name : String} {x : Node} {s : Site}
    (hdesk : name = o.self → x.desk.InOrder (Fits o n.sent) ∧
      (n.nodes o.self).desk.lastId ≤ x.desk.lastId)
    (hsent : s.transport.sent = n.site.transport.sent)
    (hrespondents : s.respondents = n.site.respondents)
    (hbehaved : WellBehaved o.echoing x.inst.security x.inst.bindings) :
    (n.put name x s).Orderly o ∧ n.sent ⊆ (n.put name x s).sent :=
  h.react hdesk (.of_sent_eq hsent) (by simp) (by simp)
    (fun _ hr => h.served (hrespondents ▸ hr)) hbehaved

/-- An operation on the pending interactions that takes in no reply keeps their order. -/
private theorem work (h : n.Orderly o) (op : Desk.Op) (hreads : (n.nodes o.self).desk.ReadsLater op)
    (hop : ∀ m, op ≠ .receive m) :
    ((n.nodes o.self).desk.step op).1.InOrder (Fits o n.sent) ∧
      (n.nodes o.self).desk.lastId ≤ ((n.nodes o.self).desk.step op).1.lastId :=
  ⟨h.desk.step op hreads (fun m _ heq => absurd heq (hop m)),
    (Desk.wellFormed_step h.desk.allocator op hreads).2⟩

/-- Nothing has happened to the pending interactions. -/
private theorem rest (h : n.Orderly o) :
    (n.nodes o.self).desk.InOrder (Fits o n.sent) ∧
      (n.nodes o.self).desk.lastId ≤ (n.nodes o.self).desk.lastId :=
  ⟨h.desk, Nat.le_refl _⟩

/-- Where listeners are told, it is enough to look at the pending interactions. -/
private theorem tells (h : n.Orderly o) {name : String} {c : Correlator} {i : Instance} {s : Site}
    (htells : Instance.OnlyTells { (n.nodes name).inst with correlator := c } n.site i s)
    (hdesk : name = o.self → Desk.InOrder (Fits o n.sent) ⟨c, (n.nodes name).tickets⟩ ∧
      (n.nodes o.self).desk.lastId ≤ Desk.lastId ⟨c, (n.nodes name).tickets⟩) :
    (n.become name i s).Orderly o ∧ n.sent ⊆ (n.become name i s).sent := by
  obtain ⟨routing, events, rfl, rfl⟩ := htells
  exact h.silent hdesk rfl rfl (h.wellBehaved name)

/-! ## Moves -/

/-- A start adds at most the first message of the interaction, under a new id. -/
private theorem start (h : n.Orderly o) {name : String} {c : Consumer} {d : Demand}
    {reporter : Option String} (hfair : (Move.start name c d reporter).Fair o n) :
    (n.step o.home (.start name c d reporter)).Orderly o ∧
      n.sent ⊆ (n.step o.home (.start name c d reporter)).sent := by
  obtain ⟨hlaunched, hbindings, hsecurity⟩ :=
    (n.nodes name).inst.start_started n.site c d reporter
  simp only [Network.step, become]
  generalize (n.nodes name).inst.start n.site c d reporter = result
    at hlaunched hbindings hsecurity ⊢
  obtain ⟨i, s, answer⟩ := result
  have hbehaved : WellBehaved o.echoing i.security i.bindings := by
    rw [show i.security = _ from hsecurity, show i.bindings = _ from hbindings]
    exact h.wellBehaved name
  -- only what the start did with the table matters
  generalize hcorrelator : i.correlator = table at hlaunched
  have hdesk : (Node.mk i (n.nodes name).tickets).desk = ⟨table, (n.nodes name).tickets⟩ := by
    rw [← hcorrelator]
    rfl
  let op : Desk.Op := .initiate ((n.nodes name).inst.clock.seconds n.site.now) d.pattern d.stage
    (reporter.map fun r => d.listener c.addressing r)
  have hreads (hname : name = o.self) : (n.nodes name).desk.ReadsLater op := by
    subst hname
    simpa only [Move.Fair, if_true] using hfair
  have hstep {table : Correlator} {id : TransactionId}
      (hinitiate : (n.nodes name).inst.correlator.initiate
        ((n.nodes name).inst.clock.seconds n.site.now) d.pattern d.stage
        (reporter.map fun r => d.listener c.addressing r) = (table, .ok id)) :
      ((n.nodes name).desk.step op).1 = ⟨table, (n.nodes name).tickets⟩ := by
    simp only [op, Desk.step, Node.desk, hinitiate]
  cases hlaunched with
  -- nothing was entered and nothing was sent
  | refused =>
    refine h.silent ?_ rfl rfl hbehaved
    rintro rfl
    rw [hdesk]
    exact h.rest
  | unsent failure hinitiate hs hr =>
    refine h.react ?_ hs (by simp) (by simp) (fun r hmem => h.served (hr ▸ hmem)) hbehaved
    rintro rfl
    -- the interaction is abandoned as soon as it is started
    obtain ⟨horder, hle⟩ := h.work op (hreads rfl) (by simp [op])
    rw [hstep hinitiate] at horder hle
    rw [hdesk]
    exact ⟨horder.step (.abandon _) trivial (by simp), hle⟩
  | @sent table id s hinitiate hs hr =>
    have hserved (r : Respondent) (hmem : r ∈ s.respondents) : Served n.sent r :=
      h.served (hr ▸ hmem)
    -- at the instance itself the interaction has a new id, and its message starts it
    by_cases hname : name = o.self
    · subst hname
      obtain ⟨horder, _⟩ := h.work op (hreads rfl) (by simp [op])
      obtain ⟨_, hid, hlt⟩ := Desk.lt_initiate h.desk.allocator (hreads rfl) hinitiate
      rw [hstep hinitiate] at horder
      refine h.put (fun _ => hdesk ▸ horder) hs ?_ hserved hbehaved
      have hlast : (Node.mk i (n.nodes o.self).tickets).desk.lastId = id.toNat := by
        rw [hdesk, Desk.lastId, hid]
      rw [put_nodes_self, hlast]
      exact h.traffic.start rfl hlt (d.intake_message _ _ _)
    · -- elsewhere a message is sent that starts nothing from the instance
      have hfrom : o.home c.addressing.uriFrom ≠ o.self := by
        simpa only [Move.Fair, if_neg hname] using hfair
      refine h.react (fun heq => absurd heq hname) hs ?_ ?_ hserved hbehaved
      · intro m hmem _
        obtain rfl := List.mem_singleton.1 hmem
        exact hfrom
      · intro m hmem hreply
        obtain rfl := List.mem_singleton.1 hmem
        exact absurd hreply.1 (d.intake_message _ _ _)

/-- What is sent on receipt of a message that was sent starts nothing, and if it is a reply to the
    instance, it answers this message. -/
private theorem reacts (h : n.Orderly o) {m e : Message} (hm : m ∈ n.sent)
    (hreacts : (n.nodes (o.home m.header.uriTo)).inst.Reacts n.site m e) :
    ¬ e.header.Starts ∧ (RepliesTo o e → Answers o n.sent e) := by
  have hbehaved := h.wellBehaved (o.home m.header.uriTo)
  cases hreacts with
  -- a failure goes back as an error, and errors answer nothing here
  | failed herror hintake =>
    refine ⟨?_, fun hreply => ?_⟩
    · rcases hintake with hintake | hintake
      · exact Header.not_starts hintake (by decide) (by decide)
      · exact Header.not_starts hintake (by decide) (by decide)
    · rw [hreply.2.1] at herror
      cases herror
  -- brokers send nothing by themselves but notifies
  | forwarded _ _ hbroker hsends =>
    have hintake := hbehaved.onlyNotifies hbroker _ _ _ _ e hsends
    refine ⟨Header.not_starts hintake (by decide) (by decide), fun hreply => ?_⟩
    cases hintake.symm.trans hreply.1
  -- the acknowledgement of a broker is for the request that was delivered
  | acknowledged hsecurity hbroker hintake huri htransaction =>
    have hagrees := hbehaved.faithful _ _ hsecurity
    rw [hagrees.intake] at hbroker
    refine ⟨Header.not_starts hintake (by decide) (by decide), fun hreply => ?_⟩
    refine ⟨m, hm, .inr hbroker, ?_, ?_, ?_⟩
    · rw [← hreply.2.2, huri, hagrees.uriFrom]
    · rw [htransaction, hagrees.transaction]
    · intro hpattern
      rw [Header.pattern_of_intake_broker hbroker] at hpattern
      cases hpattern
  -- a reply of a provider; to a Request it is the echo
  | @answered m' address call hsecurity hrequest hprovider hmakes hreplied =>
    have hagrees := hbehaved.faithful _ _ hsecurity
    refine ⟨Header.not_starts hreplied.intake (by decide) (by decide), fun hreply => ?_⟩
    refine ⟨m, hm, .inl (hagrees.intake ▸ hrequest), ?_, ?_, ?_⟩
    · rw [← hreply.2.2, hreplied.header.1]
      exact congrArg o.home hagrees.uriFrom.symm
    · rw [hreplied.header.2]
      exact hagrees.transaction.symm
    · intro hpattern hto
      have hpattern' : m'.header.pattern = .request := hagrees.pattern.trans hpattern
      obtain rfl := hreplied.respond hpattern' hreply.2.1
      rw [← hagrees.uriTo, ← hagrees.service] at hto
      rw [← hagrees.body]
      have hbound := Instance.provider_eq_ok hprovider
      exact hbehaved.echoesRequests hto hbound m' e.body hpattern' hmakes

/-- Delivering a message, however late or often, sends nothing but answers to it, and a reply that
    comes in at the instance fits the transaction that it names. -/
private theorem deliver (h : n.Orderly o) (place : Nat) (via : EndpointRef) :
    (n.step o.home (.deliver place via)).Orderly o ∧
      n.sent ⊆ (n.step o.home (.deliver place via)).sent := by
  simp only [Network.step]
  split
  · -- nothing was sent at that place
    exact ⟨h, List.Subset.refl _⟩
  · next m hplace =>
    have hm : m ∈ n.sent := List.mem_of_getElem? hplace
    have hreception := (n.nodes (o.home m.header.uriTo)).inst.receive_reception n.site via m
    generalize (n.nodes (o.home m.header.uriTo)).inst.receive n.site via m = result at hreception
    obtain ⟨i, s⟩ := result
    change Instance.Reception _ _ m i s at hreception
    obtain ⟨ms, hsends, hreacts⟩ := hreception.sent
    have hfaithful := (h.wellBehaved (o.home m.header.uriTo)).faithful
    refine h.react ?_ hsends (fun e he hstarts => absurd hstarts (h.reacts hm (hreacts e he)).1)
      (fun e he => (h.reacts hm (hreacts e he)).2) ?_ ?_
    · -- what the message did with the pending interactions of the instance
      intro hname
      -- either nothing, or a reply was taken in, which answers something by what was sent
      rcases hreception.correlator with hcorrelator | ⟨m', hsecurity, hintake, hcorrelator⟩
      · have hdesk : (Node.mk i (n.nodes (o.home m.header.uriTo)).tickets).desk =
            (n.nodes (o.home m.header.uriTo)).desk := by
          simp only [Node.desk, hcorrelator]
        rw [hdesk, hname]
        exact h.rest
      · have hdesk : (Node.mk i (n.nodes (o.home m.header.uriTo)).tickets).desk =
            ((n.nodes (o.home m.header.uriTo)).desk.step (.receive m')).1 := by
          simp only [Node.desk, hcorrelator]
          rfl
        rw [hdesk, hname]
        have hids := Desk.wellFormed_step h.desk.allocator (.receive m') trivial
        refine ⟨h.desk.step (.receive m') trivial ?_, hids.2⟩
        intro m'' id heq htransaction herror
        cases heq
        have hagrees := hfaithful _ _ hsecurity
        refine ⟨htransaction, (h.traffic.answers hm ⟨?_, ?_, hname⟩).agrees hagrees⟩
        · exact hagrees.intake ▸ hintake
        · exact hagrees.isError ▸ herror
    · -- the respondents that were there, and perhaps one for the delivered message
      intro r hr
      rcases hreception.respondents with hrespondents | ⟨r', hsecurity, hintake, hrespondents⟩
      · exact h.served (hrespondents ▸ hr)
      · rw [hrespondents] at hr
        rcases List.mem_append.1 hr with hr | hr
        · exact h.served hr
        · obtain rfl := List.mem_singleton.1 hr
          have hagrees := hfaithful _ _ hsecurity
          exact ⟨m, hm, hagrees, hagrees.intake ▸ hintake⟩
    · simp only [hreception.security, hreception.bindings]
      exact h.wellBehaved _

/-- A call on a kept respondent sends at most its reply. -/
private theorem act (h : n.Orderly o) {kept : String} {call : ReplyCall}
    (hfair : (Move.act kept call).Fair o n) :
    (n.step o.home (.act kept call)).Orderly o ∧
      n.sent ⊆ (n.step o.home (.act kept call)).sent := by
  cases hkept : n.site.kept.get? kept with
  | none =>
    simp only [Network.step, Site.replyKept, hkept]
    exact ⟨h, List.Subset.refl _⟩
  | some place =>
    cases hplace : n.site.respondents[place]? with
    | none =>
      simp only [Network.step, Site.replyKept, hkept, hplace]
      exact ⟨h, List.Subset.refl _⟩
    | some r =>
      simp only [Network.step, Site.replyKept, hkept, hplace]
      have hr : Served n.sent r := h.served (List.mem_of_getElem? hplace)
      have hcall (b : Body) := hfair place r b hkept hplace
      obtain ⟨⟨ms, hsends, hreplies⟩, hrespondents, p, hp⟩ := n.site.reply_sends r call
      rw [← n.become_self o.self]
      -- it replies to a request that it was given, and nothing else
      refine h.react (fun _ => h.rest) hsends
        (fun e he hstarts => absurd hstarts (hr.reply hcall (hreplies e he)).1)
        (fun e he => (hr.reply hcall (hreplies e he)).2) ?_ (h.wellBehaved o.self)
      -- the respondent goes on with another progress
      intro r' hr'
      rw [hrespondents] at hr'
      rcases List.mem_or_eq_of_mem_set hr' with hr' | rfl
      · exact h.served hr'
      · rw [hp]
        exact hr

/-- Order is kept by every fair move, and nothing that was sent is forgotten. -/
theorem step (h : n.Orderly o) {move : Move} (hfair : move.Fair o n) :
    (n.step o.home move).Orderly o ∧ n.sent ⊆ (n.step o.home move).sent := by
  -- one case for each move; most send nothing
  cases move with
  | start name c d reporter => exact h.start hfair
  | deliver place via => exact h.deliver place via
  | act kept call => exact h.act hfair
  | work name op =>
    refine h.silent ?_ rfl rfl (h.wellBehaved name)
    rintro rfl
    exact h.work op (hfair.2 rfl) hfair.1
  | arrange name clock security relay routing bindings =>
    refine h.silent ?_ rfl rfl hfair
    rintro rfl
    exact h.rest
  | pass now endpoints memories =>
    simp only [Network.step]
    rw [← n.become_self o.self]
    exact h.silent (fun _ => h.rest) rfl rfl (h.wellBehaved o.self)
  | conclude name c d id outcome =>
    obtain ⟨hcorrelator, hbindings, hsecurity⟩ :=
      (n.nodes name).inst.conclude_correlator c d id outcome
    refine h.silent ?_ rfl rfl ?_
    · rintro rfl
      simp only [Node.desk]
      -- a conclusion abandons the interaction or leaves the table alone
      rcases hcorrelator with heq | heq
      · rw [heq]
        exact h.rest
      · rw [heq]
        exact h.work (.abandon id) trivial (by simp)
    · simp only [hbindings, hsecurity]
      exact h.wellBehaved name
  | failTransmission name uri header failure =>
    obtain ⟨c, hc, htells⟩ :=
      (n.nodes name).inst.failTransmission_onlyTells n.site uri header failure
    refine h.tells htells ?_
    rintro rfl
    rcases hc with rfl | ⟨header, rfl⟩
    · exact h.rest
    · exact h.work (.fail n.site.now header failure) trivial (by simp)
  | close name =>
    refine h.tells ((n.nodes name).inst.close_onlyTells n.site) ?_
    rintro rfl
    exact h.work (.shutdown n.site.now) trivial (by simp)

/-- Order is kept by every run of fair moves. -/
theorem after (h : n.Orderly o) {moves : List Move} (hfair : FairRun o n moves) :
    (n.after o.home moves).Orderly o ∧ n.sent ⊆ (n.after o.home moves).sent := by
  -- induction on the moves
  induction moves generalizing n with
  | nil => exact ⟨h, List.Subset.refl _⟩
  | cons move moves ih =>
    obtain ⟨hstep, hsub⟩ := h.step hfair.1
    obtain ⟨hafter, hsub'⟩ := ih hstep hfair.2
    exact ⟨hafter, List.Subset.trans hsub hsub'⟩

end Orderly

end Network

end Mal
