import Mal.Proofs.Routing.Tables
import Mathlib.Data.List.Basic

/-!
# Routing tables as two maps

For whoever looks routes up, a routing table is two plain maps, one of notify routes and one of
publishers. Each operation writes under some keys, a listener or nothing (`Op.notifyWrite?`,
`Op.publisherWrite?`), and what is found under a key is what the last of the operations that concern
it has written (`Routing.lastWritten`).

Taking out all notify routes of an endpoint goes by the index alone. That it takes out every route,
and each once, is what the agreement of index and routes is for.

## Key results

- `Routing.Consistent.notify?_perform`, `Routing.Consistent.notify?_after`, and the same for
  publishers: what operations do to the maps
- `Routing.Consistent.notifyTaken`, `Routing.publishersTaken`: taking out all routes of an endpoint
- `Routing.maps_after`: all this for every table that operations lead to
-/

namespace Mal

namespace Routing

/-! ## Writes -/

/-- What an operation writes under the key of a notify route; `none` if it does not concern the
    key. -/
def Op.notifyWrite? (key : RouteKey) : Op → Option (Option String)
  | addNotify uri id listener => if (uri, id) = key then some (some listener) else none
  | removeNotify uri ids => if key.1 = uri ∧ key.2 ∈ ids then some none else none
  | removeNotifyOn uri => if key.1 = uri then some none else none
  | addPublisher .. | removePublisher _ | removePublishersOn _ => none

/-- What an operation writes under the key of a publisher; `none` if it does not concern the key. -/
def Op.publisherWrite? (separator : String) (key : PublisherKey) : Op → Option (Option String)
  | addPublisher a listener =>
    if (a.endpoint.uri, a.scope.key separator) = key then some (some listener) else none
  | removePublisher key' => if key = key' then some none else none
  | removePublishersOn uri => if key.1 = uri then some none else none
  | addNotify .. | removeNotify .. | removeNotifyOn _ => none

/-- What the last of some operations has written that concern a key, and `before` if none of them
    does. -/
def lastWritten (write? : Op → Option (Option String)) (before : Option String) (ops : List Op) :
    Option String :=
  (ops.filterMap write?).getLast?.getD before

private theorem lastWritten_cons (write? : Op → Option (Option String)) (before : Option String)
    (op : Op) (ops : List Op) :
    lastWritten write? before (op :: ops) = lastWritten write? ((write? op).getD before) ops := by
  unfold lastWritten
  cases hwrite : write? op with
  | none => rw [List.filterMap_cons_none hwrite, Option.getD_none]
  | some written =>
    rw [List.filterMap_cons_some hwrite, List.getLast?_cons, Option.getD_some, Option.getD_some]

variable {r : Routing}

/-- The separator is set once and for all. -/
private theorem separator_perform (r : Routing) (op : Op) :
    (r.perform op).separator = r.separator := by
  cases op <;> rfl

namespace Consistent

/-- An operation changes what is found under a key as it writes. -/
theorem notify?_perform (h : r.Consistent) (op : Op) (uri id : String) :
    (r.perform op).notify? uri id = (op.notifyWrite? (uri, id)).getD (r.notify? uri id) := by
  cases op with
  | addPublisher | removePublisher | removePublishersOn => rfl
  | addNotify uri' id' listener =>
    refine (notify?_addNotify ..).trans ?_
    simp only [Op.notifyWrite?]
    split <;> rfl
  | removeNotify uri' ids =>
    refine (notify?_removeNotify ..).trans ?_
    simp only [Op.notifyWrite?]
    split <;> rfl
  | removeNotifyOn uri' =>
    refine (notify?_removeNotifyOn ..).trans ?_
    -- the routes are taken down by the list of the endpoint
    simp only [Op.notifyWrite?]
    by_cases huri : uri = uri'
    · subst huri
      by_cases hlisted : id ∈ r.subscribed uri
      · simp [hlisted]
      · -- what is not listed has no route that could be left over
        simpa [hlisted] using mt (h.listed uri id).2 hlisted
    · simp [huri]

/-- What is found under a key is what the last operation that concerns it has written. -/
theorem notify?_after (h : r.Consistent) (ops : List Op) (uri id : String) :
    (r.after ops).notify? uri id =
      lastWritten (Op.notifyWrite? (uri, id)) (r.notify? uri id) ops := by
  induction ops generalizing r with
  | nil => rfl
  | cons op rest ih =>
    rw [lastWritten_cons, ← h.notify?_perform op uri id]
    exact ih (h.perform op)

end Consistent

/-- The same for publishers. -/
theorem publisher?_perform (r : Routing) (op : Op) (key : PublisherKey) :
    (r.perform op).publisher? key =
      (op.publisherWrite? r.separator key).getD (r.publisher? key) := by
  cases op with
  | addNotify | removeNotify | removeNotifyOn => rfl
  | addPublisher a listener =>
    refine (publisher?_addPublisher ..).trans ?_
    simp only [Op.publisherWrite?, publisherKey]
    by_cases hkey : (a.endpoint.uri, a.scope.key r.separator) = key
    · simp [hkey]
    · simp [hkey]
  | removePublisher key' =>
    refine (publisher?_removePublisher ..).trans ?_
    simp only [Op.publisherWrite?]
    split <;> rfl
  | removePublishersOn uri =>
    refine (Directory.get?_eraseIf ..).trans ?_
    simp only [Op.publisherWrite?, publisher?]
    -- the publishers of an endpoint are searched for by their keys
    by_cases huri : key.1 = uri
    · cases r.publishers.get? key <;> simp [huri]
    · cases r.publishers.get? key <;> simp [huri]

theorem publisher?_after (r : Routing) (ops : List Op) (key : PublisherKey) :
    (r.after ops).publisher? key =
      lastWritten (Op.publisherWrite? r.separator key) (r.publisher? key) ops := by
  induction ops generalizing r with
  | nil => rfl
  | cons op rest ih =>
    rw [lastWritten_cons, ← r.publisher?_perform op key, ← r.separator_perform op]
    exact ih (r.perform op)

/-! ## Taking out everything on an endpoint -/

/-- Taking out the notify routes of an endpoint gives each of them once, leaves none of them behind,
    and leaves all else as it is. -/
structure NotifyTaken (r : Routing) (uri : String) : Prop where
  once : ((r.notifyOn uri).map Prod.fst).Nodup
  taken (id listener : String) :
    (id, listener) ∈ r.notifyOn uri ↔ r.notify? uri id = some listener
  left (uri' id : String) :
    (r.removeNotifyOn uri).notify? uri' id = if uri' = uri then none else r.notify? uri' id
  index (uri' : String) :
    (r.removeNotifyOn uri).subscriptions.get? uri' =
      if uri' = uri then none else r.subscriptions.get? uri'
  publishers : (r.removeNotifyOn uri).publishers = r.publishers

/-- Taking out the publishers of an endpoint gives the listener of each of them once, leaves none of
    them behind, and leaves all else as it is. -/
structure PublishersTaken (r : Routing) (uri : String) : Prop where
  /-- The listeners are given in some order of their keys. -/
  taken : ∃ keys : List PublisherKey, keys.Nodup ∧
    (∀ key, key ∈ keys ↔ key.1 = uri ∧ (r.publisher? key).isSome = true) ∧
    (r.publishersOn uri).map some = keys.map r.publisher?
  left (key : PublisherKey) :
    (r.removePublishersOn uri).publisher? key = if key.1 = uri then none else r.publisher? key
  notify : (r.removePublishersOn uri).notify = r.notify
  index : (r.removePublishersOn uri).subscriptions = r.subscriptions

/-- The ids that notify routes are given for are those that are listed. -/
private theorem Consistent.map_fst_notifyOn (h : r.Consistent) (uri : String) :
    (r.notifyOn uri).map Prod.fst = r.subscribed uri := by
  -- every id that is listed has a route
  have hrouted (id : String) (hid : id ∈ r.subscribed uri) :
      ((r.notify.get? (uri, id)).map fun listener => (id, listener)).map Prod.fst = some id := by
    obtain ⟨listener, hlistener⟩ := Option.isSome_iff_exists.1 ((h.listed uri id).1 hid)
    simp only [notify?] at hlistener
    rw [hlistener]
    rfl
  show (List.filterMap _ (r.subscribed uri)).map Prod.fst = r.subscribed uri
  rw [List.map_filterMap, List.filterMap_congr hrouted, List.filterMap_some]

/-- Where index and routes agree, going by the index takes out everything. -/
theorem Consistent.notifyTaken (h : r.Consistent) (uri : String) : r.NotifyTaken uri where
  once := h.map_fst_notifyOn uri ▸ h.nodup uri
  taken id listener := by
    show (id, listener) ∈ List.filterMap _ (r.subscribed uri) ↔ _
    rw [List.mem_filterMap]
    constructor
    · -- what is given is a route of the endpoint
      rintro ⟨id', -, hroute⟩
      obtain ⟨listener', hlistener, heq⟩ := Option.map_eq_some_iff.1 hroute
      cases heq
      exact hlistener
    · -- and a route of the endpoint is listed, so it is given
      intro hroute
      refine ⟨id, (h.listed uri id).2 (by rw [hroute]; rfl), ?_⟩
      simp only [notify?] at hroute
      rw [hroute]
      rfl
  left uri' id := by
    refine (h.notify?_perform (.removeNotifyOn uri) uri' id).trans ?_
    simp only [Op.notifyWrite?]
    split <;> rfl
  index uri' := Directory.get?_erase ..
  publishers := rfl

/-- Publishers have no index; their keys are searched. -/
theorem publishersTaken (r : Routing) (uri : String) : r.PublishersTaken uri where
  taken := by
    let on := r.publishers.entries.filter fun e => e.1.1 = uri
    have hmem (key : PublisherKey) (listener : String) :
        (key, listener) ∈ on ↔ key.1 = uri ∧ r.publisher? key = some listener := by
      simp only [on, List.mem_filter, decide_eq_true_eq, Directory.mem_entries]
      exact and_comm
    -- keys do not occur twice, and each stands for its own entry
    refine ⟨on.map Prod.fst, r.publishers.nodup.sublist (List.filter_sublist.map _), ?_, ?_⟩
    · intro key
      rw [List.mem_map, Option.isSome_iff_exists]
      constructor
      · rintro ⟨⟨key', listener⟩, hon, rfl⟩
        obtain ⟨huri, hfound⟩ := (hmem key' listener).1 hon
        exact ⟨huri, listener, hfound⟩
      · rintro ⟨huri, listener, hfound⟩
        exact ⟨(key, listener), (hmem key listener).2 ⟨huri, hfound⟩, rfl⟩
    · show (on.map Prod.snd).map some = _
      rw [List.map_map, List.map_map]
      refine List.map_congr_left fun e he => ?_
      exact ((hmem e.1 e.2).1 he).2.symm
  left key := by
    refine (r.publisher?_perform (.removePublishersOn uri) key).trans ?_
    simp only [Op.publisherWrite?]
    split <;> rfl
  notify := rfl
  index := rfl

/-! ## Every table -/

/-- Every table that operations lead to has these properties. A pair of an endpoint and an id is a
    key of the notify routes exactly if the id is listed for the endpoint, and no list is empty.
    What is found in either map is what the last operation that concerns the key has written. And
    if everything on an endpoint is taken out, nothing is missed and nothing else is touched. -/
theorem maps_after (separator : String) (ops : List Op) :
    let r := after { separator := separator } ops
    (∀ uri id, (uri, id) ∈ r.notify.keys ↔
        ∃ ids, r.subscriptions.get? uri = some ids ∧ id ∈ ids) ∧
      (∀ uri, r.subscriptions.get? uri ≠ some []) ∧
      (∀ uri id, r.notify? uri id = lastWritten (Op.notifyWrite? (uri, id)) none ops) ∧
      (∀ key, r.publisher? key = lastWritten (Op.publisherWrite? separator key) none ops) ∧
      ∀ uri, r.NotifyTaken uri ∧ r.PublishersTaken uri := by
  intro r
  have hempty : Consistent { separator := separator } := Consistent.empty separator
  have hr : r.Consistent := consistent_after separator ops
  -- index and routes, no empty lists, the two maps, and the removals
  refine ⟨?_, hr.nonempty, ?_, ?_, ?_⟩
  · intro uri id
    have hkey : (uri, id) ∈ r.notify.keys ↔ (r.notify? uri id).isSome = true :=
      (r.notify.contains_iff_mem_keys (uri, id)).symm
    rw [hkey, ← hr.listed uri id, subscribed]
    cases r.subscriptions.get? uri <;> simp
  · exact fun uri id => hempty.notify?_after ops uri id
  · exact fun key => publisher?_after { separator := separator } ops key
  · exact fun uri => ⟨hr.notifyTaken uri, r.publishersTaken uri⟩

/-- A route is replaced, another one is taken down along with an id that is not known and twice, and
    what is left is taken out at once. -/
example :
    let r := after { separator := "::" }
      [.addNotify "c" "x" "old", .addNotify "c" "y" "other", .addNotify "c" "x" "app",
        .addNotify "d" "x" "far", .removeNotify "c" ["y", "z", "y"]]
    r.notifyOn "c" = [("x", "app")] ∧ (r.removeNotifyOn "c").notify.keys = [("d", "x")] := by
  decide +kernel

end Routing

end Mal
