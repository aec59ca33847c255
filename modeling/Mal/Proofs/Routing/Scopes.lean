import Mal.Instance.Dispatch
import Mal.Proofs.Routing.Routes
import Mathlib.Logic.Basic
import Mathlib.Tactic.ByContra

/-!
# Scopes and their keys

Publishers on one endpoint are told apart by their scopes, and a scope is written as one text, its
key. Nothing in the key is escaped. So scopes have the same key if a name contains the separator, or
if a part of a domain contains the dot that sets the parts apart; and the domain without any part is
written like the one whose only part is empty. Then one publisher replaces the route of another, and
takes it down (`Routing.publishers_confused`).

Scopes without any of this are plain (`Scope.Plain`). Different plain scopes have different keys
(`Scope.Plain.key_inj`), and every scope that is not plain shares its key with another scope
(`Scope.exists_key_eq`). Publishers with plain scopes keep apart (`Routing.publishers_isolated`).

## Key results

- `Separable.append_inj`: where a text ends that is set apart by a separator
- `Scope.Plain.key_inj`, `Scope.exists_key_eq`: which scopes their keys tell apart
- `Routing.publishers_isolated`: publishers with plain scopes do not meddle with each other
- `Routing.publishers_confused`: others do
-/

namespace Mal

/-! ## Texts that are set apart -/

/-- When the separator follows the part, its first occurrence in both together is at the end. -/
def Separable (sep part : List Char) : Prop :=
  ∀ u v, part ++ sep = u ++ sep ++ v → v = []

/-- So the part can be read back, whatever follows. -/
theorem Separable.append_inj {sep part part' rest rest' : List Char} (h : Separable sep part)
    (h' : Separable sep part') (heq : part ++ sep ++ rest = part' ++ sep ++ rest') :
    part = part' ∧ rest = rest' := by
  -- one of the parts begins the other, with something of the separator between them
  obtain ⟨v, hv, hrest⟩ | ⟨v, hv, hrest⟩ := List.append_eq_append_iff.1 heq
  · obtain rfl := h' part v hv
    rw [List.append_nil] at hv
    exact ⟨(List.append_cancel_right hv).symm, hrest⟩
  · obtain rfl := h part' v hv
    rw [List.append_nil] at hv
    exact ⟨List.append_cancel_right hv, hrest.symm⟩

/-- A part in which the separator's first character does not occur is separable. -/
private theorem separable_of_not_mem {c : Char} {sep part : List Char} (h : c ∉ part) :
    Separable (c :: sep) part := by
  intro u v heq
  -- an occurrence of the separator is looked for on either side of the end of the part
  rw [List.append_assoc] at heq
  obtain ⟨w, rfl, hrest⟩ | ⟨w, rfl, hrest⟩ := List.append_eq_append_iff.1 heq
  · -- the lengths leave no room for anything else
    have hlength := congrArg List.length hrest
    simp only [List.length_append, List.length_cons] at hlength
    exact List.eq_nil_of_length_eq_zero (by omega)
  · cases w with
    | nil =>
      have hlength := congrArg List.length hrest
      simp only [List.length_append, List.length_cons, List.nil_append] at hlength
      exact List.eq_nil_of_length_eq_zero (by omega)
    -- it would begin in the part, where its first character is not
    | cons c' w =>
      obtain ⟨rfl, -⟩ := List.cons_eq_cons.1 hrest
      simp at h

/-- A part that is not separable can be read as a shorter one. -/
private theorem exists_of_not_separable {sep part : List Char} (h : ¬ Separable sep part) :
    ∃ u v, part ++ sep = u ++ sep ++ v ∧ u ≠ part := by
  simp only [Separable, not_forall] at h
  obtain ⟨u, v, heq, hv⟩ := h
  refine ⟨u, v, heq, ?_⟩
  rintro rfl
  exact hv (List.append_right_eq_self.1 heq.symm)

/-! ## Keys -/

namespace Scope

variable {sep : String}

/-- The domain as it is written in a key. -/
def domainText (scope : Scope) : List Char :=
  ['.'].intercalate (scope.domain.map String.toList)

/-- The characters of a key. -/
private theorem toList_key (scope : Scope) (sep : String) :
    (scope.key sep).toList =
      scope.session.text.toList ++ (sep.toList ++ (scope.sessionName.toList ++ sep.toList ++
        (scope.networkZone.toList ++ sep.toList ++ scope.domainText))) := by
  simp [key, domainText]

/-- Neither of the names can be read as a shorter one before the separator, no part of the domain
    contains a dot, and the domain is not the empty part alone. -/
structure Plain (scope : Scope) (sep : String) : Prop where
  sessionName : Separable sep.toList scope.sessionName.toList
  networkZone : Separable sep.toList scope.networkZone.toList
  domain : ∀ part ∈ scope.domain, '.' ∉ part.toList
  domain_ne : scope.domain ≠ [""]

end Scope

/-- Sessions are told apart by their first letter. -/
private theorem Session.text_append_inj {session session' : Session} {rest rest' : List Char}
    (h : session.text.toList ++ rest = session'.text.toList ++ rest') :
    session = session' ∧ rest = rest' := by
  cases session <;> cases session' <;> simp_all [Session.text]

namespace Scope

variable {sep : String} {scope scope' : Scope}

/-- A domain of this kind is read back by splitting its text at the dots, unless it is empty. -/
private theorem splitOn_domainText (hdot : ∀ part ∈ scope.domain, '.' ∉ part.toList)
    (hne : scope.domain ≠ []) :
    scope.domainText.splitOn '.' = scope.domain.map String.toList := by
  refine List.splitOn_intercalate '.' ?_ ?_
  · rintro part hpart
    obtain ⟨text, hmem, rfl⟩ := List.mem_map.1 hpart
    exact hdot text hmem
  · exact fun hnil => hne (List.map_eq_nil_iff.1 hnil)

/-- Texts of domains of this kind are different. -/
private theorem Plain.domain_inj (h : scope.Plain sep) (h' : scope'.Plain sep)
    (htext : scope.domainText = scope'.domainText) : scope.domain = scope'.domain := by
  have hinj : Function.Injective (List.map String.toList) :=
    fun _ _ => (List.map_inj_right fun _ _ => String.toList_inj.1).1
  -- the text of the empty domain is split into one empty part
  have hempty {a b : Scope} (hb : b.Plain sep) (ha : a.domain = [])
      (heq : a.domainText = b.domainText) : b.domain = [] := by
    by_contra hne
    have hsplit : [""].map String.toList = b.domain.map String.toList := by
      rw [← splitOn_domainText hb.domain hne, ← heq, domainText, ha]
      rfl
    exact hb.domain_ne (hinj hsplit).symm
  -- the empty domain is written like a blank one, which is not plain
  by_cases hnil : scope.domain = []
  · rw [hnil, hempty h' hnil htext]
  · by_cases hnil' : scope'.domain = []
    · exact absurd (hempty h hnil' htext.symm) hnil
    · apply hinj
      rw [← splitOn_domainText h.domain hnil, htext, splitOn_domainText h'.domain hnil']

/-- Different plain scopes have different keys. -/
theorem Plain.key_inj (h : scope.Plain sep) (h' : scope'.Plain sep) :
    scope.key sep = scope'.key sep ↔ scope = scope' := by
  refine ⟨fun hkey => ?_, fun heq => by rw [heq]⟩
  rw [← String.toList_inj, toList_key, toList_key] at hkey
  -- the session is read back, then the names, each up to its separator, and what is left is the
  -- domain
  obtain ⟨hsession, hkey⟩ := Session.text_append_inj hkey
  obtain ⟨hname, hkey⟩ := h.sessionName.append_inj h'.sessionName (List.append_cancel_left hkey)
  obtain ⟨hzone, hdomain⟩ := h.networkZone.append_inj h'.networkZone hkey
  obtain ⟨domain, networkZone, session, sessionName⟩ := scope
  obtain ⟨domain', networkZone', session', sessionName'⟩ := scope'
  obtain rfl : session = session' := hsession
  obtain rfl : sessionName = sessionName' := String.toList_inj.1 hname
  obtain rfl : networkZone = networkZone' := String.toList_inj.1 hzone
  obtain rfl : domain = domain' := h.domain_inj h' hdomain
  rfl

/-- A domain one of whose parts contains a dot is written like another one. -/
private theorem exists_domainText_eq {part : String} (hpart : part ∈ scope.domain)
    (hdot : '.' ∈ part.toList) :
    ∃ domain, domain ≠ scope.domain ∧
      ['.'].intercalate (domain.map String.toList) = scope.domainText := by
  by_cases hsingle : scope.domain = [part]
  · -- a single part can be divided at its dot
    obtain ⟨u, v, hsplit⟩ := List.append_of_mem hdot
    refine ⟨[.ofList u, .ofList v], fun h => ?_, ?_⟩
    · simpa using congrArg List.length (h.trans hsingle)
    · simp [domainText, hsingle, hsplit]
  · -- several parts can be put into one
    refine ⟨[.ofList scope.domainText], fun h => ?_, ?_⟩
    · rw [← h, List.mem_singleton] at hpart
      exact hsingle (by rw [← h, hpart])
    · simp

/-- Every scope that is not plain shares its key with another scope. -/
theorem exists_key_eq (h : ¬ scope.Plain sep) :
    ∃ other : Scope, other ≠ scope ∧ other.key sep = scope.key sep := by
  by_cases hname : Separable sep.toList scope.sessionName.toList
  · by_cases hzone : Separable sep.toList scope.networkZone.toList
    · -- it is the domain that can be read in two ways
      obtain ⟨domain, hne, htext⟩ : ∃ domain, domain ≠ scope.domain ∧
          ['.'].intercalate (domain.map String.toList) = scope.domainText := by
        by_cases hblank : scope.domain = [""]
        · exact ⟨[], by simp [hblank], by simp [domainText, hblank]⟩
        · by_cases hdots : ∀ part ∈ scope.domain, '.' ∉ part.toList
          · exact absurd ⟨hname, hzone, hdots, hblank⟩ h
          · simp only [not_forall, not_not] at hdots
            obtain ⟨part, hpart, hdot⟩ := hdots
            exact exists_domainText_eq hpart hdot
      refine ⟨{ scope with domain := domain }, fun heq => hne (congrArg Scope.domain heq), ?_⟩
      rw [← String.toList_inj, toList_key, toList_key]
      simp only [domainText] at htext ⊢
      rw [htext]
    · -- what is left of the zone goes to the domain
      obtain ⟨u, v, heq, hne⟩ := exists_of_not_separable hzone
      refine ⟨{ scope with networkZone := .ofList u, domain := [.ofList (v ++ scope.domainText)] },
        fun hscope => hne ?_, ?_⟩
      · rw [← congrArg Scope.networkZone hscope, String.toList_ofList]
      · rw [← String.toList_inj, toList_key, toList_key, heq]
        simp [domainText]
  · -- what is left of the session name goes to the zone
    obtain ⟨u, v, heq, hne⟩ := exists_of_not_separable hname
    refine ⟨{ scope with sessionName := .ofList u,
                         networkZone := .ofList (v ++ scope.networkZone.toList) },
      fun hscope => hne ?_, ?_⟩
    · rw [← congrArg Scope.sessionName hscope, String.toList_ofList]
    · rw [← String.toList_inj, toList_key, toList_key, heq]
      simp [domainText]

end Scope

/-! ## Publishers -/

namespace Instance

/-- The rejection of a publish takes down the route of the publisher that it is addressed to,
    whether there is one or not. -/
private theorem publisher?_dispatchPublishError (i : Instance) (s : Site) (m : Message)
    (key : PublisherKey) :
    (i.dispatchPublishError s m).1.routing.publisher? key =
      (i.routing.removePublisher (i.routing.publisherKeyFor m.header)).publisher? key := by
  simp only [dispatchPublishError]
  split
  · rfl
  · -- without a listener there is no route to take down
    next hnone =>
    rw [Routing.publisher?_removePublisher]
    split
    · next hkey => rw [hkey, hnone]
    · rfl

/-- So it does when it comes in. -/
private theorem publisher?_receive {i : Instance} {m m' : Message}
    (hsecurity : i.security m = .ok m')
    (hintake : m'.header.intake = .publishError) (s : Site) (via : EndpointRef)
    (key : PublisherKey) :
    (i.receive s via m).1.routing.publisher? key =
      (i.routing.removePublisher (i.routing.publisherKeyFor m'.header)).publisher? key := by
  rw [← publisher?_dispatchPublishError i s m' key]
  simp only [receive, dispatch, hsecurity, hintake]

end Instance

namespace Routing

/-- Publishers of different endpoints or scopes have different keys, if the scopes are plain. -/
private theorem publisherKey_inj (r : Routing) {a b : Addressing} (ha : a.scope.Plain r.separator)
    (hb : b.scope.Plain r.separator) :
    r.publisherKey a = r.publisherKey b ↔ a.endpoint.uri = b.endpoint.uri ∧ a.scope = b.scope := by
  rw [publisherKey, publisherKey, Prod.mk.injEq, ha.key_inj hb]

/-- Of two publishers with plain scopes, none meddles with the listener of the other unless both
    have the same endpoint and the same scope. If `a` is set up as a publisher, or replaced, or
    taken down, or if its publish is rejected, then what is found for `b` is what was found for it
    before, unless `a` and `b` are the same in this respect. In particular the keys of their scopes
    are different, unless the scopes are the same. -/
theorem publishers_isolated (r : Routing) (a b : Addressing)
    (ha : a.scope.Plain r.separator) (hb : b.scope.Plain r.separator) :
    (a.scope.key r.separator = b.scope.key r.separator ↔ a.scope = b.scope) ∧
      (∀ listener, (r.addPublisher a listener).publisher? (r.publisherKey b) =
        if a.endpoint.uri = b.endpoint.uri ∧ a.scope = b.scope then some listener
        else r.publisher? (r.publisherKey b)) ∧
      ((r.removePublisher (r.publisherKey a)).publisher? (r.publisherKey b) =
        if a.endpoint.uri = b.endpoint.uri ∧ a.scope = b.scope then none
        else r.publisher? (r.publisherKey b)) ∧
      ∀ (i : Instance) (s : Site) (via : EndpointRef) (m m' : Message), i.routing = r →
        i.security m = .ok m' → m'.header.intake = .publishError →
        m'.header.uriTo = a.endpoint.uri → m'.header.scope = a.scope →
        (i.receive s via m).1.routing.publisher? (r.publisherKey b) =
          if a.endpoint.uri = b.endpoint.uri ∧ a.scope = b.scope then none
          else r.publisher? (r.publisherKey b) := by
  -- plain scopes have the same key only if they are the same
  have hinj := r.publisherKey_inj ha hb
  have hremove : (r.removePublisher (r.publisherKey a)).publisher? (r.publisherKey b) =
      if a.endpoint.uri = b.endpoint.uri ∧ a.scope = b.scope then none
      else r.publisher? (r.publisherKey b) := by
    simp only [publisher?_removePublisher, eq_comm.trans hinj]
  refine ⟨ha.key_inj hb, ?_, hremove, ?_⟩
  · intro listener
    simp only [publisher?_addPublisher, hinj]
  · intro i s via m m' hrouting hsecurity hintake huri hscope
    -- the header leads to the key of the publisher that it names
    have hkey : i.routing.publisherKeyFor m'.header = r.publisherKey a := by
      rw [hrouting, publisherKeyFor, publisherKeyAt, huri, hscope]
      rfl
    rw [Instance.publisher?_receive hsecurity hintake, hkey, hrouting, hremove]

/-- Two publishers on one endpoint that differ in the last part of their domains. The publish of one
    is rejected, and the other keeps its listener. -/
theorem publishers_isolated_domain :
    let publisher (part : String) : Addressing :=
      { endpoint := ⟨0, "p"⟩, uriFrom := "p",
        scope := { domain := ["esa", part], networkZone := "ground", sessionName := "lab" } }
    let a := publisher "sat1"
    let b := publisher "sat2"
    let r := ((({ separator := "::" } : Routing).addPublisher a "one").addPublisher b "two")
    let i : Instance := { Instance.create {} .system 0 with routing := r }
    let m : Message :=
      .ofError (({ a with uriTo := "b" }.header 0 .pubSub (some 5) 0).reply 0 5 true)
        { number := 1 }
    a.scope.Plain r.separator ∧ b.scope.Plain r.separator ∧
      (i.receive { now := 0 } ⟨0, "p"⟩ m).1.routing.publisher? (r.publisherKey b) = some "two" := by
  intro publisher a b r i m
  -- the names have no colon, so the separator is found at their ends
  have hsep : r.separator.toList = [':', ':'] := by decide +kernel
  have hname (name : String) (h : ':' ∉ name.toList) :
      Separable r.separator.toList name.toList := by
    rw [hsep]
    exact separable_of_not_mem h
  have hplain (part : String) (hdot : '.' ∉ part.toList) :
      (publisher part).scope.Plain r.separator := by
    refine ⟨hname "lab" (by decide), hname "ground" (by decide), ?_,
      fun h => by simp [publisher] at h⟩
    -- nor does a part of the domain have a dot
    intro part' hmem
    rcases List.mem_cons.1 hmem with rfl | hmem
    · decide
    · rwa [List.mem_singleton.1 hmem]
  have ha := hplain "sat1" (by decide)
  have hb := hplain "sat2" (by decide)
  obtain ⟨-, -, -, hrejected⟩ := publishers_isolated r a b ha hb
  refine ⟨ha, hb, (hrejected i { now := 0 } ⟨0, "p"⟩ m m rfl rfl rfl rfl rfl).trans ?_⟩
  decide +kernel

/-- Scopes that are not plain are confused, where parts are set apart by two colons: of two
    publishers on one endpoint, the second takes over the route of the first, though the names of
    their sessions and their zones differ, and takes it down with its own. Such are also two
    publishers whose domains have one part and two, and two whose domains have no part and an empty
    one. -/
theorem publishers_confused :
    let publisher (scope : Scope) : Addressing :=
      { endpoint := ⟨0, "p"⟩, uriFrom := "p", scope := scope }
    let r : Routing := { separator := "::" }
    let Confused (scope scope' : Scope) : Prop :=
      let a := publisher scope
      let b := publisher scope'
      let both := (r.addPublisher a "one").addPublisher b "two"
      a.scope ≠ b.scope ∧ r.publisherKey a = r.publisherKey b ∧
        both.publisher? (r.publisherKey a) = some "two" ∧
        (both.removePublisher (r.publisherKey b)).publisher? (r.publisherKey a) = none
    Confused { sessionName := "a", networkZone := "b::c" }
        { sessionName := "a::b", networkZone := "c" } ∧
      Confused { domain := ["esa.sat1"] } { domain := ["esa", "sat1"] } ∧
      Confused { domain := [] } { domain := [""] } := by
  decide +kernel

end Routing

end Mal
