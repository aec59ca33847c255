import Mal.Proofs.Routing.Routes

/-!
# Routing tables and their index

The notify routes of an endpoint are taken down all at once by way of an index, the list of the
subscription ids that have a route. The two are changed separately, so what the operations have to
keep is that they agree: an id is in the list of an endpoint exactly if a route leads from it, and
no list is empty (`Routing.Consistent`). Every table that operations lead to from an empty one is
consistent (`Routing.consistent_after`).

In a consistent table nothing is taken down in vain: taking down routes that do not exist leaves the
table as it was, down to the order of its entries (`Routing.removeNotify_eq_self`).

## Key results

- `Routing.subscribed_addNotify`, `subscribed_removeNotify`, `subscribed_removeNotifyOn`: what the
  operations do to the index
- `Routing.consistent_after`: index and routes agree after every run
-/

namespace Mal

namespace Routing

/-- The subscription ids on an endpoint. -/
def subscribed (r : Routing) (uri : String) : List String :=
  (r.subscriptions.get? uri).getD []

/-! ## Routes -/

/-- The routes of all subscription ids on the endpoint are taken down. -/
theorem notify?_removeNotifyOn (r : Routing) (uri uri' id' : String) :
    (r.removeNotifyOn uri).notify? uri' id' =
      if uri' = uri ∧ id' ∈ r.subscribed uri then none else r.notify? uri' id' :=
  r.notify?_removeNotify uri (r.subscribed uri) uri' id'

/-! ## The index -/

/-- An id is listed once, at the place where it first came in. -/
theorem subscribed_addNotify (r : Routing) (uri id listener uri' : String) :
    (r.addNotify uri id listener).subscribed uri' =
      if uri = uri' ∧ id ∉ r.subscribed uri then r.subscribed uri' ++ [id]
      else r.subscribed uri' := by
  simp only [addNotify, subscribed, Directory.get?_put]
  by_cases huri : uri = uri'
  · subst huri
    by_cases hid : id ∈ (r.subscriptions.get? uri).getD [] <;> simp [hid]
  · simp [huri]

/-- The given ids are struck off. -/
theorem subscribed_removeNotify (r : Routing) (uri : String) (ids : List String) (uri' : String) :
    (r.removeNotify uri ids).subscribed uri' =
      if uri' = uri then (r.subscribed uri).filter (· ∉ ids) else r.subscribed uri' := by
  simp only [removeNotify, subscribed]
  by_cases huri : uri' = uri
  · subst huri
    -- an empty list is taken out of the index, so that none is read as an empty one
    cases hget : r.subscriptions.get? uri' with
    | none => simp [hget]
    | some listed =>
      simp only [Option.getD_some, if_true]
      split
      · next hempty => rw [Directory.get?_erase_self, List.isEmpty_iff.1 hempty, Option.getD_none]
      · rw [Directory.get?_put_self, Option.getD_some]
  · -- the lists of other endpoints stay
    rw [if_neg huri]
    cases hget : r.subscriptions.get? uri with
    | none => rfl
    | some listed =>
      simp only [Option.getD_some]
      split
      · rw [Directory.get?_erase, if_neg huri]
      · rw [Directory.get?_put, if_neg (Ne.symm huri)]

theorem subscribed_removeNotifyOn (r : Routing) (uri uri' : String) :
    (r.removeNotifyOn uri).subscribed uri' = if uri' = uri then [] else r.subscribed uri' := by
  simp only [removeNotifyOn, subscribed, Directory.get?_erase]
  split <;> rfl

/-! ## Runs -/

/-- One operation on a routing table. -/
inductive Op where
  | addPublisher (a : Addressing) (listener : String)
  | removePublisher (key : PublisherKey)
  | removePublishersOn (uri : String)
  | addNotify (uri id listener : String)
  | removeNotify (uri : String) (ids : List String)
  | removeNotifyOn (uri : String)

/-- The table after one operation. -/
def perform (r : Routing) : Op → Routing
  | .addPublisher a listener => r.addPublisher a listener
  | .removePublisher key => r.removePublisher key
  | .removePublishersOn uri => r.removePublishersOn uri
  | .addNotify uri id listener => r.addNotify uri id listener
  | .removeNotify uri ids => r.removeNotify uri ids
  | .removeNotifyOn uri => r.removeNotifyOn uri

/-- The table after operations one after another. -/
def after (r : Routing) (ops : List Op) : Routing :=
  ops.foldl perform r

/-- Index and notify routes agree. -/
structure Consistent (r : Routing) : Prop where
  /-- The ids that are listed are those that a route leads from. -/
  listed : ∀ uri id, id ∈ r.subscribed uri ↔ (r.notify? uri id).isSome = true
  /-- An endpoint without ids is not listed. -/
  nonempty : ∀ uri, r.subscriptions.get? uri ≠ some []
  /-- No id is listed twice. -/
  nodup : ∀ uri, (r.subscribed uri).Nodup

namespace Consistent

variable {r : Routing}

theorem empty (separator : String) : Consistent { separator := separator } where
  listed _ _ := by simp [subscribed, notify?]
  nonempty _ := by simp
  nodup _ := by simp [subscribed]

private theorem addNotify (h : r.Consistent) (uri id listener : String) :
    (r.addNotify uri id listener).Consistent where
  listed uri' id' := by
    have hlisted := h.listed uri' id'
    rw [subscribed_addNotify, notify?_addNotify]
    -- the route of this id, of another id on the endpoint, or on another endpoint
    by_cases huri : uri = uri'
    · subst huri
      by_cases hid : id = id'
      · subst hid
        by_cases hmem : id ∈ r.subscribed uri <;> simp [hmem]
      · have hother : (uri, id) ≠ (uri, id') := fun heq => hid (congrArg Prod.snd heq)
        rw [if_neg hother, ← hlisted]
        split
        · simp [Ne.symm hid]
        · rfl
    · have hother : (uri, id) ≠ (uri', id') := fun heq => huri (congrArg Prod.fst heq)
      rw [if_neg hother, if_neg (fun hnew => huri hnew.1), hlisted]
  nonempty uri' := by
    -- an id is put at the end of its list, or was in it
    simp only [Routing.addNotify, Directory.get?_put]
    split
    · split
      · next hmem =>
        intro hnil
        rw [Option.some.inj hnil] at hmem
        cases hmem
      · simp
    · exact h.nonempty uri'
  nodup uri' := by
    rw [subscribed_addNotify]
    split
    · -- a new id is none of those that were listed
      next hnew =>
      obtain ⟨rfl, hid⟩ := hnew
      exact List.nodup_append.2 ⟨h.nodup uri, by simp, by
        intro a ha b hb heq
        obtain rfl := List.mem_singleton.1 hb
        exact hid (heq ▸ ha)⟩
    · exact h.nodup uri'

private theorem removeNotify (h : r.Consistent) (uri : String) (ids : List String) :
    (r.removeNotify uri ids).Consistent where
  listed uri' id' := by
    rw [subscribed_removeNotify, notify?_removeNotify]
    by_cases huri : uri' = uri
    · subst huri
      by_cases hid : id' ∈ ids <;> simp [hid, h.listed]
    · simp [huri, h.listed]
  nonempty uri' := by
    simp only [Routing.removeNotify]
    cases hget : r.subscriptions.get? uri with
    | none => exact h.nonempty uri'
    | some listed =>
      simp only []
      split
      · rw [Directory.get?_erase]
        split
        · exact (Option.some_ne_none _).symm
        · exact h.nonempty uri'
      · -- a list that would be empty is not kept
        next hkept =>
        rw [Directory.get?_put]
        split
        · intro hnil
          exact hkept (List.isEmpty_iff.2 (Option.some.inj hnil))
        · exact h.nonempty uri'
  nodup uri' := by
    rw [subscribed_removeNotify]
    split
    · exact (h.nodup uri).filter _
    · exact h.nodup uri'

private theorem removeNotifyOn (h : r.Consistent) (uri : String) :
    (r.removeNotifyOn uri).Consistent where
  listed uri' id' := by
    rw [subscribed_removeNotifyOn, notify?_removeNotifyOn]
    by_cases huri : uri' = uri
    · subst huri
      by_cases hid : id' ∈ r.subscribed uri'
      · simp [hid]
      · -- what is not listed has no route to begin with
        have hnone := mt (h.listed uri' id').2 hid
        simp [hid, hnone]
    · simp [huri, h.listed]
  nonempty uri' := by
    simp only [Routing.removeNotifyOn, Directory.get?_erase]
    split
    · exact (Option.some_ne_none _).symm
    · exact h.nonempty uri'
  nodup uri' := by
    rw [subscribed_removeNotifyOn]
    split
    · exact List.nodup_nil
    · exact h.nodup uri'

/-- Every operation keeps index and routes in agreement; publishers have no part in it. -/
theorem perform (h : r.Consistent) (op : Op) : (r.perform op).Consistent := by
  cases op with
  | addPublisher | removePublisher | removePublishersOn => exact ⟨h.listed, h.nonempty, h.nodup⟩
  | addNotify uri id listener => exact h.addNotify uri id listener
  | removeNotify uri ids => exact h.removeNotify uri ids
  | removeNotifyOn uri => exact h.removeNotifyOn uri

theorem after (h : r.Consistent) (ops : List Op) : (r.after ops).Consistent := by
  induction ops generalizing r with
  | nil => exact h
  | cons op rest ih => exact ih (h.perform op)

end Consistent

/-- Index and routes agree in every table that operations lead to. -/
theorem consistent_after (separator : String) (ops : List Op) :
    (after { separator := separator } ops).Consistent :=
  (Consistent.empty separator).after ops

/-! ## Nothing is taken down in vain -/

/-- Without a route there is nothing to take down. -/
theorem removeNotify_eq_self {r : Routing} (hr : r.Consistent) {uri id : String}
    (h : r.notify? uri id = none) : r.removeNotify uri [id] = r := by
  have hunlisted : id ∉ r.subscribed uri := by
    rw [hr.listed, h]
    exact Bool.false_ne_true
  have hnotify : r.notify.erase (uri, id) = r.notify := Directory.erase_of_get?_eq_none h
  -- nothing in the list is struck off
  have hkept : (r.subscribed uri).filter (fun id' => id' ∉ [id]) = r.subscribed uri := by
    refine List.filter_eq_self.2 fun id' hmem => ?_
    have hne : id' ≠ id := fun heq => hunlisted (heq ▸ hmem)
    simp [hne]
  simp only [subscribed] at hkept
  simp only [removeNotify, List.foldl_cons, List.foldl_nil, hnotify, hkept]
  cases hget : r.subscriptions.get? uri with
  | none => rfl
  | some listed =>
    -- the list of the endpoint is put back as it was
    cases listed with
    | nil => exact absurd hget (hr.nonempty uri)
    | cons => simp only [Option.getD_some, List.isEmpty_cons, Bool.false_eq_true, if_false,
        Directory.put_of_get?_eq_some hget]

/-- Without a route there is nothing to take down. -/
theorem removePublisher_eq_self {r : Routing} {key : PublisherKey} (h : r.publisher? key = none) :
    r.removePublisher key = r := by
  rw [removePublisher, Directory.erase_of_get?_eq_none h]

/-- A route that is taken down at once has left no trace, whatever it has replaced. -/
theorem removeNotify_addNotify (r : Routing) (uri id listener : String) :
    (r.addNotify uri id listener).removeNotify uri [id] = r.removeNotify uri [id] := by
  let ids := (r.subscriptions.get? uri).getD []
  have hkept : (if id ∈ ids then ids else ids ++ [id]).filter (· ∉ [id]) =
      ids.filter (· ∉ [id]) := by
    -- the id was listed before, or it has just been put at the end
    split
    · rfl
    · simp
  simp only [removeNotify, addNotify, List.foldl_cons, List.foldl_nil, Directory.erase_put,
    Directory.put_put, Directory.get?_put_self, Option.getD_some, hkept, ids]
  cases hget : r.subscriptions.get? uri with
  | none =>
    -- the list that was made for the id is taken away again
    simp [Directory.erase_of_get?_eq_none hget]
  | some listed => rfl

theorem removePublisher_addPublisher (r : Routing) (a : Addressing) (listener : String) :
    (r.addPublisher a listener).removePublisher (r.publisherKey a) =
      r.removePublisher (r.publisherKey a) := by
  simp only [removePublisher, addPublisher, Directory.erase_put]

end Routing

end Mal
