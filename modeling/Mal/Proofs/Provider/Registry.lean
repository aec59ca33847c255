import Mal.Bindings
import Mal.Proofs.Histories

/-!
# Bound providers over a history

A provider is bound to the URI of its address, for a service. A service is told from others by its
area, its number and the version of its area (`Service.identity`); the operation number that comes
with it on binding, on looking up and on unbinding is dropped each time. Should one of the
operations forget to drop it, it would bind what cannot be found or unbind what was not bound; so
the keys that are stored are those of whole services, and no others (`Bindings.Whole`).

## Key results

- `Bindings.provider?_perform`: what an operation does to what is found
- `Bindings.provider?_after`: what is found was bound last, and not unbound since
- `Bindings.registry_after`: the answers of all operations, and the number of bindings
-/

namespace Mal

/-! ## Services -/

namespace Service

/-- What tells a service from others: area, service number, area version. -/
def identity (s : Service) : UInt16 × UInt16 × UInt8 :=
  (s.area, s.service, s.version)

/-- The whole service with this identity. -/
def ofIdentity (id : UInt16 × UInt16 × UInt8) : Service :=
  { area := id.1, service := id.2.1, version := id.2.2 }

private theorem whole_eq_ofIdentity (s : Service) : s.whole = ofIdentity s.identity := rfl

private theorem identity_ofIdentity (id : UInt16 × UInt16 × UInt8) :
    (ofIdentity id).identity = id := rfl

private theorem ofIdentity_injective : Function.Injective ofIdentity := fun id id' h => by
  rw [← identity_ofIdentity id, h, identity_ofIdentity]

/-- Whole services are the same if nothing tells them apart. -/
private theorem whole_eq_whole_iff {s s' : Service} :
    s.whole = s'.whole ↔ s.identity = s'.identity := by
  rw [whole_eq_ofIdentity, whole_eq_ofIdentity]
  exact ofIdentity_injective.eq_iff

end Service

namespace Bindings

/-! ## Runs -/

/-- One operation on the providers that are bound. -/
inductive Op where
  | register (service : Service) (a : Address)
  | lookup (uri : String) (service : Service)
  | deregister (uri : String) (service : Service)
  | deregisterEndpoint (uri : String)

/-- What is bound after one operation. -/
def perform (b : Bindings) : Op → Bindings
  | .register service a => (b.bindProvider service a).2
  | .lookup .. => b
  | .deregister uri service => (b.unbindProvider uri service).2
  | .deregisterEndpoint uri => (b.unbindProvidersOn uri).2

/-- What is bound after operations one after another. -/
def after (b : Bindings) (ops : List Op) : Bindings :=
  ops.foldl perform b

/-- Binds this provider to its URI, for a service with this identity. -/
def Op.Binds (uri : String) (id : UInt16 × UInt16 × UInt8) (a : Address) : Op → Prop
  | register service a' => a' = a ∧ a'.uri = uri ∧ service.identity = id
  | _ => False

/-- Binds a provider to the URI for the service, or unbinds the one that is bound to it. -/
def Op.Concerns (uri : String) (id : UInt16 × UInt16 × UInt8) : Op → Prop
  | register service a => a.uri = uri ∧ service.identity = id
  | lookup .. => False
  | deregister uri' service => uri' = uri ∧ service.identity = id
  | deregisterEndpoint uri' => uri' = uri

/-- The provider was bound to the URI for the service by one of the operations, and no later one
    concerned this binding. -/
def Bound (ops : List Op) (uri : String) (id : UInt16 × UInt16 × UInt8) (a : Address) : Prop :=
  Since (Op.Binds uri id a) (fun op => ¬ op.Concerns uri id) ops

variable {b : Bindings}

/-! ## What is found -/

private theorem provider?_bindProvider (b : Bindings) (service service' : Service) (a : Address)
    (uri : String) :
    (b.bindProvider service a).2.provider? uri service' =
      if a.uri = uri ∧ service.identity = service'.identity then some a
      else b.provider? uri service' := by
  simp only [bindProvider, provider?, Directory.get?_put, Prod.mk.injEq, Service.whole_eq_whole_iff]

private theorem provider?_unbindProvider (b : Bindings) (uri uri' : String)
    (service service' : Service) :
    (b.unbindProvider uri service).2.provider? uri' service' =
      if uri = uri' ∧ service.identity = service'.identity then none
      else b.provider? uri' service' := by
  simp only [unbindProvider, provider?, Directory.get?_erase, Prod.mk.injEq,
    Service.whole_eq_whole_iff, eq_comm]

private theorem provider?_unbindProvidersOn (b : Bindings) (uri uri' : String) (service : Service) :
    (b.unbindProvidersOn uri).2.provider? uri' service =
      if uri' = uri then none else b.provider? uri' service := by
  simp only [unbindProvidersOn, provider?, Directory.get?_eraseIf]
  by_cases huri : uri' = uri
  · cases b.providers.get? (uri', service.whole) <;> simp [huri]
  · cases b.providers.get? (uri', service.whole) <;> simp [huri]

/-- After an operation, what it has bound is found, and what was found before unless it concerns the
    operation. -/
theorem provider?_perform (op : Op) (uri : String) (service : Service) (a : Address) :
    (b.perform op).provider? uri service = some a ↔
      op.Binds uri service.identity a ∨
        ¬ op.Concerns uri service.identity ∧ b.provider? uri service = some a := by
  cases op with
  | register service' a' =>
    simp only [perform, provider?_bindProvider, Op.Binds, Op.Concerns]
    -- the key that is written is the one that is looked up, or it is not
    by_cases hkey : a'.uri = uri ∧ service'.identity = service.identity <;> simp [hkey]
  | lookup uri' service' => simp [perform, Op.Binds, Op.Concerns]
  | deregister uri' service' =>
    simp only [perform, provider?_unbindProvider, Op.Binds, Op.Concerns]
    by_cases hkey : uri' = uri ∧ service'.identity = service.identity <;> simp [hkey]
  | deregisterEndpoint uri' =>
    simp only [perform, provider?_unbindProvidersOn, Op.Binds, Op.Concerns]
    by_cases huri : uri = uri'
    · simp [huri]
    · simp [huri, Ne.symm huri]

/-- What is found after a run was bound last, and not unbound since. -/
theorem provider?_after (ops : List Op) (uri : String) (service : Service) (a : Address) :
    (after {} ops).provider? uri service = some a ↔ Bound ops uri service.identity a := by
  induction ops using List.reverseRecOn with
  | nil => simp [after, provider?, Bound]
  | append_singleton ops op ih =>
    rw [Bound, since_concat, after, List.foldl_concat, provider?_perform]
    exact or_congr_right (and_congr_right fun _ => ih)

/-! ## What is stored -/

/-- All keys are those of whole services. -/
def Whole (b : Bindings) : Prop :=
  ∀ key, (b.providers.get? key).isSome = true → key.2.whole = key.2

private theorem Whole.perform (h : b.Whole) (op : Op) : (b.perform op).Whole := by
  intro key hkey
  cases op with
  | register service a =>
    simp only [Bindings.perform, bindProvider, Directory.get?_put] at hkey
    -- what is there is the new binding or an old one
    split at hkey
    · next heq =>
      subst heq
      exact Service.whole_whole service
    · exact h key hkey
  | lookup => exact h key hkey
  | deregister uri service =>
    simp only [Bindings.perform, unbindProvider, Directory.get?_erase] at hkey
    split at hkey
    · cases hkey
    · exact h key hkey
  | deregisterEndpoint uri =>
    simp only [Bindings.perform, unbindProvidersOn, Directory.get?_eraseIf] at hkey
    exact h key (Option.isSome_of_isSome_filter _ _ hkey)

private theorem whole_after (ops : List Op) : (after {} ops).Whole := by
  -- induction from the end, where the last operation is
  induction ops using List.reverseRecOn with
  | nil =>
    intro key hkey
    cases hkey
  | append_singleton ops op ih =>
    rw [after, List.foldl_concat]
    exact ih.perform op

/-- So the bindings are as many as the services that a provider is found for. -/
private theorem Whole.encard_bound (h : b.Whole) :
    {p : String × UInt16 × UInt16 × UInt8 |
      (b.provider? p.1 (.ofIdentity p.2)).isSome = true}.encard = b.providers.size := by
  have hinj : Function.Injective fun p : String × UInt16 × UInt16 × UInt8 =>
      (p.1, Service.ofIdentity p.2) := fun p p' heq =>
    Prod.ext (Prod.mk.inj heq).1 (Service.ofIdentity_injective (Prod.mk.inj heq).2)
  exact Directory.encard_bound_of_injective hinj fun key hkey =>
    ⟨(key.1, key.2.identity), Prod.ext rfl (h key hkey)⟩

/-- Unbinding all providers of an endpoint gives the number of services that one is found for. -/
private theorem Whole.encard_bound_on (h : b.Whole) (uri : String) :
    {id | (b.provider? uri (.ofIdentity id)).isSome = true}.encard =
      (b.unbindProvidersOn uri).1 := by
  -- the bindings that are taken
  let on := b.providers.eraseIf fun key _ => !decide (key.1 = uri)
  have hon (key : String × Service) :
      on.get? key = if key.1 = uri then b.providers.get? key else none := by
    simp only [on, Directory.get?_eraseIf]
    by_cases huri : key.1 = uri
    · cases b.providers.get? key <;> simp [huri]
    · cases b.providers.get? key <;> simp [huri]
  -- their number is the difference that the operation returns
  have hcount : (b.unbindProvidersOn uri).1 = on.size := by
    have hadd := b.providers.size_eraseIf_add fun key _ => decide (key.1 = uri)
    exact Nat.sub_eq_of_eq_add' hadd.symm
  have hset : {id | (b.provider? uri (.ofIdentity id)).isSome = true} =
      {id | (on.get? (uri, Service.ofIdentity id)).isSome = true} := by
    simp only [hon, if_true]
    rfl
  -- keys with the same URI differ by their service
  have hinj : Function.Injective fun id => (uri, Service.ofIdentity id) := fun id id' heq =>
    Service.ofIdentity_injective (Prod.mk.inj heq).2
  rw [hset, hcount]
  refine Directory.encard_bound_of_injective hinj fun key hkey => ?_
  rw [hon] at hkey
  split at hkey
  · next huri => exact ⟨key.2.identity, Prod.ext huri.symm (h key hkey)⟩
  · cases hkey

/-! ## Every history -/

/-- Whatever operations were performed, with whatever service keys. A look-up finds the provider
    that was last bound to the URI for the same area, service number and area version, and not
    unbound since; the operation numbers do not matter. Binding gives the binding that it replaces,
    and unbinding the one that it removes. Unbinding the providers of an endpoint removes all
    bindings of its URI and no others, and gives their number. And there are as many bindings as
    URIs and services that a provider is bound to. -/
theorem registry_after (ops : List Op) :
    let b := after {} ops
    (∀ uri service a, b.provider? uri service = some a ↔ Bound ops uri service.identity a) ∧
      (∀ service a old, (b.bindProvider service a).1 = some old ↔
        Bound ops a.uri service.identity old) ∧
      (∀ uri service old, (b.unbindProvider uri service).1 = some old ↔
        Bound ops uri service.identity old) ∧
      (∀ uri,
        (∀ uri' service a, (b.unbindProvidersOn uri).2.provider? uri' service = some a ↔
          uri' ≠ uri ∧ Bound ops uri' service.identity a) ∧
        ((b.unbindProvidersOn uri).1 : ℕ∞) = {id | ∃ a, Bound ops uri id a}.encard) ∧
      (b.providers.size : ℕ∞) =
        {p : String × UInt16 × UInt16 × UInt8 | ∃ a, Bound ops p.1 p.2 a}.encard := by
  intro b
  have hfound := provider?_after ops
  have hwhole : b.Whole := whole_after ops
  have hbound (uri : String) (id : UInt16 × UInt16 × UInt8) :
      (∃ a, Bound ops uri id a) ↔ (b.provider? uri (.ofIdentity id)).isSome = true := by
    rw [Option.isSome_iff_exists]
    exact exists_congr fun a => (hfound uri (.ofIdentity id) a).symm
  -- look-ups, the answers of binding and unbinding, and the two counts
  refine ⟨hfound, fun service a => hfound a.uri service, hfound, fun uri => ⟨?_, ?_⟩, ?_⟩
  · intro uri' service a
    rw [provider?_unbindProvidersOn, ← hfound uri' service a]
    by_cases huri : uri' = uri <;> simp [huri, b]
  · simp only [hbound]
    exact (hwhole.encard_bound_on uri).symm
  · simp only [hbound]
    exact hwhole.encard_bound.symm

/-- A provider that was bound under one operation is found under another and unbound under a
    third. -/
example :
    let key (operation : UInt16) : Service := { area := 4, service := 1, operation, version := 1 }
    let a : Address := { endpoint := ⟨0, "p"⟩, uri := "p", handler := .refusing "a" }
    let b := after {} [.register (key 3) a]
    (b.provider? "p" (key 7)).map Address.uri = some "p" ∧
      (b.unbindProvider "p" (key 9)).2.providers.size = 0 := by
  decide +kernel

end Bindings

end Mal
