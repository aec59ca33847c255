import Mal.Proofs.Network.Orderly
import Mal.Provider.Echo

/-!
# Requests do not cross

Initiators of one instance may have any number of Requests under way at the same time, and the
transport may deliver messages late, more than once or not at all. Still an initiator that gets a
response gets the one to its own Request (`Network.request_answered`), as long as everything around
the library behaves (`Move.Fair`).

The library itself leaves doors open, each of which is enough for Requests to cross
(`Network.request_crossed`): a security check may replace a message by one with another transaction
id, a broker may send what looks like a response, and a consumer may send under the URI of another
instance.

## Key results

- `Network.request_answered`: a response has the transaction id and the body of its Request
- `Network.request_crossed`: a response that has the body of another Request
-/

namespace Mal

/-! ## Providers that echo -/

/-- The echoing provider echoes Requests. -/
private theorem Echo.echoesRequests (name : String) : (Echo.handler name).EchoesRequests := by
  intro m b hpattern hmakes
  have hconduct : (Echo.handler name).conduct m = .inTurn [.respond m.body] := by
    simp only [Echo.handler, Echo.conduct, hpattern]
  rw [hconduct] at hmakes
  -- the response is the first call
  cases hmakes with
  | here => rfl
  | afterReply result hlater =>
    -- after the response there is no other call
    cases result with
    | none => cases hlater
    | some sent => cases sent <;> cases hlater

namespace WellBehaved

variable {echoing : String → Service → Prop}

/-- Nothing can go wrong with an instance that has no providers, brokers or checks. -/
private theorem unrestricted : WellBehaved echoing .unrestricted {} where
  faithful := Security.faithful_unrestricted
  onlyNotifies h := by cases h
  echoesRequests _ h := by cases h

/-- A provider may be bound, if it echoes Requests where it is expected. -/
private theorem bindProvider {check : Security} {b : Bindings} (h : WellBehaved echoing check b)
    (service : Service) {address : Address}
    (haddress : ∀ s, s.whole = service.whole → echoing address.uri s →
      address.handler.EchoesRequests) :
    WellBehaved echoing check (b.bindProvider service address).2 where
  faithful := h.faithful
  onlyNotifies hbroker := h.onlyNotifies hbroker
  echoesRequests hechoing hbound := by
    simp only [Bindings.provider?, Bindings.bindProvider, Directory.get?_put] at hbound
    -- what is looked up is the new provider, or one that was bound before
    split at hbound
    · next heq =>
      cases hbound
      obtain ⟨huri, hservice⟩ := Prod.mk.inj heq
      rw [← huri] at hechoing
      exact haddress _ hservice.symm hechoing
    · exact h.echoesRequests hechoing hbound

end WellBehaved

namespace Network

variable {o : Outlook}

/-- A new network is in order: nothing was sent and nothing is pending. -/
private theorem IsNew.orderly {n : Network} (h : n.IsNew) : n.Orderly o := by
  have hsent : n.sent = [] := by simp [Network.sent, h.sent]
  have hnode (name : String) : ∃ allocator patience,
      (n.nodes name).desk = Desk.new allocator patience ∧ allocator.WellFormed ∧
        (n.nodes name).inst.security = .unrestricted ∧ (n.nodes name).inst.bindings = {} := by
    obtain ⟨settings, clock, now, hcreated⟩ := h.created name
    rw [hcreated]
    exact ⟨_, _, rfl, .start .., rfl, rfl⟩
  obtain ⟨allocator, patience, hdesk, hwf, _, _⟩ := hnode o.self
  -- a new desk, no traffic, no respondents, and an instance without a check or bindings
  refine ⟨?_, ?_, ?_, ?_⟩
  · rw [hdesk]
    exact ⟨Desk.sound_new _ _, .new _ _, hwf, Desk.replies_new _ _⟩
  · rw [hsent]
    exact .nil
  · intro r hr
    rw [h.respondents] at hr
    cases hr
  · intro name
    obtain ⟨_, _, _, _, hsecurity, hbindings⟩ := hnode name
    rw [hsecurity, hbindings]
    exact .unrestricted

/-- A run in two parts is fair if both are. -/
private theorem fairRun_append {n : Network} {moves moves' : List Move} :
    FairRun o n (moves ++ moves') ↔
      FairRun o n moves ∧ FairRun o (n.after o.home moves) moves' := by
  induction moves generalizing n with
  | nil => simp [FairRun]
  | cons move moves ih => simp [FairRun, ih, and_assoc]

private theorem after_append (n : Network) (moves moves' : List Move) :
    n.after o.home (moves ++ moves') = (n.after o.home moves).after o.home moves' :=
  List.foldl_append

/-- The first message of an interaction that was started was sent. -/
private theorem mem_sent_of_start {n : Network} {name : String} {c : Consumer} {d : Demand}
    {reporter : Option String} {id : TransactionId}
    (h : ((n.nodes name).inst.start n.site c d reporter).2.2 = .ok id) :
    d.message c.addressing n.site.now id ∈ (n.step o.home (.start name c d reporter)).sent := by
  obtain ⟨hlaunched, _⟩ := (n.nodes name).inst.start_started n.site c d reporter
  simp only [step, sent, become, put]
  generalize (n.nodes name).inst.start n.site c d reporter = result at h hlaunched ⊢
  obtain ⟨i, s, answer⟩ := result
  obtain rfl : answer = .ok id := h
  generalize i.correlator = table at hlaunched
  cases hlaunched with
  -- the message that a start sends is the one that the demand makes
  | sent _ hs _ =>
    obtain ⟨out, hout, hmessage⟩ := hs
    change s.transport.sent = _ at hout
    rw [hout, List.map_append, hmessage]
    exact List.mem_append_right _ (.head _)

/-- Requests do not cross. Whatever happens in a network, as long as it is fair: whoever starts a
    Request from the instance, under the URI of its own endpoint and to where Requests are echoed,
    and then gets a message as its outcome, gets one with the transaction id and the body of this
    Request. -/
theorem request_answered {n : Network} (hnew : n.IsNew) (before later : List Move) (c : Consumer)
    (operation : UInt16) (body : Body) {id : TransactionId} :
    let request := Move.start o.self c (.request operation body) none
    let asked := n.after o.home before
    let last := n.after o.home (before ++ request :: later)
    FairRun o n (before ++ request :: later) →
      c.addressing.uriFrom = c.addressing.endpoint.uri →
      o.home c.addressing.endpoint.uri = o.self →
      o.echoing c.addressing.uriTo (c.addressing.service.withOperation operation) →
      ((asked.nodes o.self).inst.start asked.site c (.request operation body) none).2.2 =
        .ok id →
      ∀ t ∈ (last.nodes o.self).tickets, t.transaction = id → ∀ m,
        last.outcome? o.self t = some (.ok m) →
          m.header.transaction = some id ∧ m.body = body := by
  intro request asked last hfair hfrom hhome hto hstart t ht htransaction m houtcome
  -- order is kept by every part of the run
  obtain ⟨hbefore, hrequest, hlater⟩ := fairRun_append.1 hfair
  have hasked := (hnew.orderly.after hbefore).1
  have hstarted := (hasked.step hrequest).1
  obtain ⟨hlast, hsub⟩ := hstarted.after hlater
  have hlasteq : last = (asked.step o.home request).after o.home later := after_append ..
  rw [← hlasteq] at hlast hsub
  -- the request itself, and what the collected message answers
  let q := (Demand.request operation body).message c.addressing asked.site.now id
  have hq : q ∈ last.sent := hsub (mem_sent_of_start hstart)
  have hqfrom : o.home q.header.uriFrom = o.self := (congrArg o.home hfrom).trans hhome
  obtain ⟨⟨outcome, table⟩, hcollect, rfl⟩ := Option.map_eq_some_iff.1 houtcome
  obtain ⟨hid, q', hq', hstarts', hfrom', htransaction', hbody⟩ :=
    hlast.desk.replies.collect ht hcollect
  rw [htransaction] at hid
  -- ids are not used twice, so the request that was answered is this one
  have heq : q' = q := hlast.traffic.start_inj hq' hq hstarts' (.inl rfl) hfrom' hqfrom
    (htransaction'.trans hid)
  subst heq
  exact ⟨hid, hbody rfl hto⟩

/-- Two Requests are under way from `a` to `b`, and the second is delivered first. The initiator of
    the first gets the response to it. -/
theorem request_answered_overtaken :
    let o : Outlook := { home := id, self := "a", echoing := fun uri _ => uri = "b" }
    let c : Consumer := { addressing := { endpoint := ⟨0, "a"⟩, uriFrom := "a", uriTo := "b" } }
    let echo : Address := { endpoint := ⟨1, "b"⟩, uri := "b", handler := Echo.handler "echo" }
    let request (octet : UInt8) : Move := .start "a" c (.request 0 (.elements [[octet]])) none
    let before : List Move :=
      [.pass 0 [⟨"a", "a", false, []⟩, ⟨"b", "b", false, []⟩] .empty,
        .arrange "b" (.manual 0) .unrestricted { allocator := .start 0 0 } { separator := "::" }
          ((({} : Bindings).bindProvider {} echo).2)]
    let later : List Move :=
      [request 2, .work "a" (.await 1), .deliver 1 ⟨1, "b"⟩, .deliver 0 ⟨1, "b"⟩,
        .deliver 2 ⟨0, "a"⟩, .deliver 3 ⟨0, "a"⟩]
    let last := (create {} (.manual 0) 0).after o.home (before ++ request 1 :: later)
    FairRun o (create {} (.manual 0) 0) (before ++ request 1 :: later) ∧
      ∃ m, last.outcome? "a" ⟨1, 0⟩ = some (.ok m) ∧
        m.header.transaction = some 1 ∧ m.body = .elements [[1]] := by
  intro o c echo request before later last
  have hechoes : WellBehaved o.echoing .unrestricted (({} : Bindings).bindProvider {} echo).2 :=
    .bindProvider .unrestricted _ fun _ _ _ => Echo.echoesRequests "echo"
  -- a request that finds a free id at once reads no clock
  have hstart {n : Network} {octet : UInt8}
      (hwraps : (n.nodes "a").inst.correlator.allocator.wraps = false)
      (hfree : (n.nodes "a").inst.correlator.contains
        ((n.nodes "a").inst.correlator.allocator.turn
          ((n.nodes "a").inst.clock.seconds n.site.now)).id = false) :
      (request octet).Fair o n := by
    simp only [request, Move.Fair, o, if_true]
    exact Allocator.searchReadsLater_of_free _ hwraps hfree
  -- the two requests are the only moves of which anything is asked
  have hfair : FairRun o (create {} (.manual 0) 0) (before ++ request 1 :: later) := by
    refine ⟨trivial, hechoes, hstart ?_ ?_, hstart ?_ ?_, ⟨by simp, fun _ => trivial⟩,
      trivial, trivial, trivial, trivial, trivial⟩ <;> decide +kernel
  have hstarted : ((((create {} (.manual 0) 0).after o.home before).nodes o.self).inst.start
      ((create {} (.manual 0) 0).after o.home before).site c (.request 0 (.elements [[1]]))
        none).2.2 = .ok 1 := rfl
  have hticket : (⟨1, 0⟩ : Ticket) ∈ (last.nodes "a").tickets := by decide +kernel
  have hanswered := request_answered (isNew_create {} (.manual 0) 0) before later c 0
    (.elements [[1]]) hfair rfl rfl rfl hstarted
  have hlast : (create {} (.manual 0) 0).after o.home
      (before ++ .start o.self c (.request 0 (.elements [[1]])) none :: later) = last := rfl
  rw [hlast] at hanswered
  obtain ⟨outcome, houtcome, hok⟩ : ∃ outcome, last.outcome? "a" ⟨1, 0⟩ = some outcome ∧
      outcome.isOk = true := (Option.any_eq_true ..).1 (by decide +kernel)
  -- from here on nothing has to know how `last` comes about
  clear_value last
  refine ⟨hfair, ?_⟩
  cases outcome with
  | error failure => cases hok
  | ok m => exact ⟨m, houtcome, hanswered ⟨1, 0⟩ hticket rfl m houtcome⟩

/-- Where others do not behave, Requests cross. A Request with the octet 1 is under way from `a` to
    the echoing provider of `b`, and its initiator gets the octet 2:

    - if the security check of `a` gives every message the transaction id of the Request, by the
      response to a second Request;
    - if the broker of `b` sends what looks like a response;
    - if a consumer on `b` sends a Request of its own under the URI of `a`.

    Moreover ids start again at a wrap at which the clock reads `2^40` seconds after the epoch or
    any second before it, however much later that is than at the last wrap. -/
theorem request_crossed :
    let c : Consumer := { addressing := { endpoint := ⟨0, "a"⟩, uriFrom := "a", uriTo := "b" } }
    let foreign : Consumer := { addressing := { c.addressing with endpoint := ⟨1, "b"⟩ } }
    let echo : Address := { endpoint := ⟨1, "b"⟩, uri := "b", handler := Echo.handler "echo" }
    let response : Message :=
      { header := { uriFrom := "b", uriTo := "a", pattern := .request, stage := some 2,
                    timestamp := 0, transaction := some 1 }
        body := .elements [[2]] }
    let forging : Broker :=
      { name := "broker", slot := 0
        conduct := fun _ memory _ _ => .send ⟨1, "b"⟩ response (.finish memory) }
    let bindings : Bindings := ((({} : Bindings).bindProvider {} echo).2.bindBroker "b" forging).2
    let arrange (name : String) (security : Security) (bindings : Bindings) : Move :=
      .arrange name (.manual 0) security { allocator := .start 0 0 } { separator := "::" } bindings
    let request (octet : UInt8) : Demand := .request 0 (.elements [[octet]])
    let Crosses (security : Security) (later : List Move) : Prop :=
      let asked := (create {} (.manual 0) 0).after id
        [.pass 0 [⟨"a", "a", false, []⟩, ⟨"b", "b", false, []⟩] .empty,
          arrange "a" security {}, arrange "b" .unrestricted bindings]
      let last := asked.after id (.start "a" c (request 1) none :: .work "a" (.await 1) :: later)
      ((asked.nodes "a").inst.start asked.site c (request 1) none).2.2 = .ok 1 ∧
        (last.outcome? "a" ⟨1, 0⟩).map (fun outcome => outcome.toOption.map Message.body) =
          some (some (.elements [[2]]))
    Crosses (.rewriting fun h => { h with transaction := some 1 })
        [.start "a" c (request 2) none, .deliver 1 ⟨1, "b"⟩, .deliver 2 ⟨0, "a"⟩] ∧
      Crosses .unrestricted
        [.start "a" c (.deregister []) none, .deliver 1 ⟨1, "b"⟩, .deliver 2 ⟨0, "a"⟩] ∧
      Crosses .unrestricted
        [.start "b" foreign (request 2) none, .deliver 1 ⟨1, "b"⟩, .deliver 2 ⟨0, "a"⟩] ∧
      (Allocator.turn ⟨0, 0, 0xFFFFFF⟩ 0x10000000000).id = 0 ∧
      (Allocator.turn ⟨1262304000, 0, 0xFFFFFF⟩ 1262303999).id = 0 := by
  refine ⟨⟨rfl, ?_⟩, ⟨rfl, ?_⟩, ⟨rfl, ?_⟩, rfl, rfl⟩ <;> decide +kernel

end Network

end Mal
