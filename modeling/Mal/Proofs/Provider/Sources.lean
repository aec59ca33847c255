import Mal.Proofs.Correlation.Terminating
import Mal.Proofs.Histories
import Mal.Provider.Relay

/-!
# Sources of relayed interactions over a history

A relayed reply finds its way back by a local id, so what is recorded under an id must not be
replaced while it is needed. The ids come from an allocator, which is handed whatever its clock
reads, and comes back to ids that it has given out before when the clock stands still or goes back.
What keeps the sources apart is that the allocator passes over the ids in the table.

The history of a table (`Relay.History`) keeps what was done and what was answered. What the table
holds is told from the answers alone: under an id stands the source of the last addition that was
given the id, unless it was removed since (`Relay.Recorded`).

## Key results

- `Relay.add_eq_some`: what an addition does
- `Relay.Faithful.perform`: an operation keeps table and history in agreement
- `Relay.sources_apart`: what every history leads to
-/

namespace Mal.Relay

/-! ## Histories -/

/-- One operation on a table of sources, or a change of its clock. -/
inductive Op where
  | add (source : Source)
  | resolve (id : TransactionId)
  | remove (id : TransactionId)
  | setClock (seconds : UInt64)

/-- A call with its answer. -/
inductive Event where
  /-- The source is known by the id from now on. -/
  | added (source : Source) (id : TransactionId)
  /-- The search for an id does not end. -/
  | unanswered (source : Source)
  | resolved (id : TransactionId) (found : Option Source)
  | removed (id : TransactionId) (found : Option Source)
  deriving DecidableEq

/-- A table, what its clock reads, and what has happened so far, oldest first. -/
structure History where
  relay : Relay
  seconds : UInt64
  events : List Event := []

/-- Goes on by one operation. -/
def History.perform (h : History) : Op → History
  | .add source =>
    match h.relay.add h.seconds source with
    | some (id, relay) => { h with relay := relay, events := h.events ++ [.added source id] }
    | none => { h with events := h.events ++ [.unanswered source] }
  | .resolve id => { h with events := h.events ++ [.resolved id (h.relay.resolve id)] }
  | .remove id =>
    { h with
      relay := (h.relay.remove id).2
      events := h.events ++ [.removed id (h.relay.remove id).1] }
  | .setClock seconds => { h with seconds := seconds }

/-- The history of operations one after another on a new table. -/
def after (allocator : Allocator) (seconds : UInt64) (ops : List Op) : History :=
  ops.foldl History.perform { relay := { allocator := allocator }, seconds := seconds }

/-- Whether what is recorded under an id is still recorded after the event. -/
def Event.Keeps (id : TransactionId) : Event → Prop
  | added _ id' => id' ≠ id
  | removed id' _ => id' ≠ id
  | unanswered _ | resolved .. => True

/-- The last addition that was given the id was that of the source, and the id was not removed
    since. -/
def Recorded (events : List Event) (id : TransactionId) (source : Source) : Prop :=
  Since (· = .added source id) (Event.Keeps id) events

/-- Whether something was added. -/
def Event.isAddition : Event → Bool
  | added .. => true
  | _ => false

/-- Whether something was removed. -/
def Event.isRemoval : Event → Bool
  | removed _ found => found.isSome
  | _ => false

/-! ## Operations -/

variable {r r' : Relay} {seconds : UInt64} {source : Source} {id : TransactionId} {h : History}

/-- A source is recorded under an id under which nothing was recorded. -/
theorem add_eq_some (hadd : r.add seconds source = some (id, r')) :
    r.resolve id = none ∧ r'.sources = r.sources.put id source := by
  obtain ⟨⟨id', allocator⟩, hnext, heq⟩ := Option.map_eq_some_iff.1 hadd
  obtain ⟨rfl, rfl⟩ := Prod.mk.inj heq
  have hfree : (r.resolve id').isSome = false := Allocator.not_inUse_of_search hnext
  exact ⟨Option.isNone_iff_eq_none.1 (Option.isSome_eq_false_iff.1 hfree), rfl⟩

private theorem resolve_of_add (hadd : r.add seconds source = some (id, r'))
    (other : TransactionId) :
    r'.resolve other = if id = other then some source else r.resolve other := by
  rw [resolve, (add_eq_some hadd).2, Directory.get?_put]
  rfl

private theorem size_of_add (hadd : r.add seconds source = some (id, r')) :
    r'.size = r.size + 1 := by
  obtain ⟨hfree, hput⟩ := add_eq_some hadd
  rw [size, hput]
  exact Directory.size_put_of_get?_eq_none source hfree

/-- With fewer sources than a magnitude has ids, there is an id for one more. -/
private theorem isSome_add (hsize : r.size < 2 ^ 24) (seconds : UInt64) (source : Source) :
    (r.add seconds source).isSome = true := by
  have hbound : {i | r.sources.contains i = true}.encard = r.size := r.sources.encard_bound
  -- the ids that are in use are as many as the sources
  have hfew : {i | r.sources.contains i = true}.encard < 2 ^ 24 := by
    rw [hbound]
    exact_mod_cast hsize
  rw [add, Option.isSome_map]
  exact Allocator.isSome_next hfew

private theorem resolve_remove (r : Relay) (id other : TransactionId) :
    (r.remove id).2.resolve other = if other = id then none else r.resolve other :=
  Directory.get?_erase ..

/-- A removal takes out at most one source. -/
private theorem size_remove (r : Relay) (id : TransactionId) :
    (r.remove id).2.size + (if (r.remove id).1.isSome then 1 else 0) = r.size := by
  cases hfound : r.resolve id with
  | none =>
    -- without a source nothing is removed
    have hsame : r.sources.erase id = r.sources := Directory.erase_of_get?_eq_none hfound
    simp [remove, hfound, size, hsame]
  | some source =>
    have hsize := Directory.size_erase_of_get?_eq_some hfound
    simpa [remove, hfound, size] using hsize

/-! ## Tables and their histories -/

private theorem recorded_concat {events : List Event} {e : Event} :
    Recorded (events ++ [e]) id source ↔
      e = .added source id ∨ e.Keeps id ∧ Recorded events id source :=
  since_concat

namespace History

/-- The table holds what the events say. -/
structure Faithful (h : History) : Prop where
  resolve (id : TransactionId) (source : Source) :
    h.relay.resolve id = some source ↔ Recorded h.events id source
  size : h.relay.size + h.events.countP Event.isRemoval = h.events.countP Event.isAddition

/-- An event that leaves the table as it is. -/
private theorem Faithful.note (hfaithful : h.Faithful) {e : Event} (hkeeps : ∀ id, e.Keeps id)
    (hadds : e.isAddition = false) (hremoves : e.isRemoval = false) :
    Faithful { h with events := h.events ++ [e] } where
  resolve id source := by
    -- the event is no addition, so it records nothing
    have hother : e ≠ .added source id := by
      rintro rfl
      cases hadds
    simp only [recorded_concat, hother, hkeeps id, true_and, false_or]
    exact hfaithful.resolve id source
  size := by
    simpa [List.countP_append, hadds, hremoves] using hfaithful.size

private theorem Faithful.perform (hfaithful : h.Faithful) (op : Op) : (h.perform op).Faithful := by
  have hsize := hfaithful.size
  cases op with
  | add source =>
    simp only [History.perform]
    cases hadd : h.relay.add h.seconds source with
    | none => exact hfaithful.note (fun _ => trivial) rfl rfl
    | some added =>
      obtain ⟨id, relay⟩ := added
      constructor
      · intro id' source'
        -- the last event is the addition itself
        rw [recorded_concat, resolve_of_add hadd, ← hfaithful.resolve]
        by_cases hid : id = id'
        · simp [hid, Event.Keeps]
        · simp [hid, Event.Keeps]
      · have hadds : [Event.added source id].countP Event.isAddition = 1 := rfl
        have hremoves : [Event.added source id].countP Event.isRemoval = 0 := rfl
        -- the id is new, so no other source makes room for this one
        rw [List.countP_append, List.countP_append, hadds, hremoves, size_of_add hadd]
        omega
  | resolve id => exact hfaithful.note (fun _ => trivial) rfl rfl
  | remove id =>
    have hremoved := h.relay.size_remove id
    simp only [History.perform]
    constructor
    · intro id' source'
      -- the last event is the removal itself
      rw [recorded_concat, resolve_remove, ← hfaithful.resolve]
      by_cases hid : id' = id
      · simp [hid, Event.Keeps]
      · simp [hid, Ne.symm hid, Event.Keeps]
    · -- it counts as a removal if it returned a source
      have hcount : [Event.removed id (h.relay.remove id).1].countP Event.isRemoval =
          if (h.relay.remove id).1.isSome then 1 else 0 := List.countP_singleton
      have hadds : [Event.removed id (h.relay.remove id).1].countP Event.isAddition = 0 := rfl
      show (h.relay.remove id).2.size + _ = _
      rw [List.countP_append, List.countP_append, hcount, hadds]
      omega
  | setClock seconds => exact ⟨hfaithful.resolve, hsize⟩

end History

/-- Every history of a new table is in agreement with the table. -/
private theorem faithful_after (allocator : Allocator) (seconds : UInt64) (ops : List Op) :
    (after allocator seconds ops).Faithful := by
  induction ops using List.reverseRecOn with
  | nil => exact ⟨fun id source => by simp [after, resolve, Recorded], rfl⟩
  | append_singleton ops op ih =>
    rw [after, List.foldl_concat]
    exact ih.perform op

/-! ## Every history -/

/-- Whatever operations were performed on a new table, from whatever state its allocator is in, and
    whatever its clock was set to in between. Under each id stands the source of the last addition
    that was given the id, if it was not removed since, and nothing otherwise. An addition is given
    an id under which nothing is recorded, and changes nothing under any other id; it is given one
    if there are fewer than `2^24` sources. A removal gives what is recorded under its id, a second
    one nothing, and nothing is changed under any other id. And the sources are as many as were
    added, less those that were removed. -/
theorem sources_apart (allocator : Allocator) (seconds : UInt64) (ops : List Op) :
    let h := after allocator seconds ops
    (∀ id source, h.relay.resolve id = some source ↔ Recorded h.events id source) ∧
      (∀ source id relay, h.relay.add h.seconds source = some (id, relay) →
        (∀ old, ¬ Recorded h.events id old) ∧ relay.resolve id = some source ∧
          ∀ other, other ≠ id → relay.resolve other = h.relay.resolve other) ∧
      (h.relay.size < 2 ^ 24 → ∀ source, (h.relay.add h.seconds source).isSome = true) ∧
      (∀ id,
        (∀ source, (h.relay.remove id).1 = some source ↔ Recorded h.events id source) ∧
        ((h.relay.remove id).2.remove id).1 = none ∧
        ∀ other, other ≠ id → (h.relay.remove id).2.resolve other = h.relay.resolve other) ∧
      h.relay.size + h.events.countP Event.isRemoval = h.events.countP Event.isAddition := by
  intro h
  have hfaithful : h.Faithful := faithful_after allocator seconds ops
  -- look-ups, additions, whether there is an id, removals, and the size
  refine ⟨hfaithful.resolve, ?_, fun hsize => isSome_add hsize h.seconds, ?_, hfaithful.size⟩
  · intro source id relay hadd
    have hresolve := resolve_of_add hadd
    refine ⟨fun old hold => ?_, by rw [hresolve, if_pos rfl], fun other hother => ?_⟩
    · -- the id was free, so nothing was recorded under it
      rw [← hfaithful.resolve, (add_eq_some hadd).1] at hold
      cases hold
    · rw [hresolve, if_neg (Ne.symm hother)]
  · intro id
    have hresolve := h.relay.resolve_remove id
    refine ⟨hfaithful.resolve id, ?_, fun other hother => ?_⟩
    · show (h.relay.remove id).2.resolve id = none
      rw [hresolve, if_pos rfl]
    · rw [hresolve, if_neg hother]

/-- On a clock that has gone back to the epoch, one source has the last id of its magnitude; the
    next one wraps, and gets the first id of magnitude 0. -/
theorem sources_apart_wrapped :
    let near : Source := { uri := "near", transaction := 9001 }
    let far : Source := { uri := "far", transaction := 9001 }
    let h := after { epoch := 0, magnitude := 0x1000000, offset := 0xFFFFFE } 1
      [.add near, .setClock 0]
    h.relay.size < 2 ^ 24 ∧
    (h.relay.add h.seconds near).isSome = true ∧
    ∃ relay, h.relay.add h.seconds far = some (0, relay) ∧
      (∀ old, ¬ Recorded h.events 0 old) ∧ relay.resolve 0 = some far ∧
        relay.resolve 0x1FFFFFF = h.relay.resolve 0x1FFFFFF ∧
        h.relay.resolve 0x1FFFFFF = some near := by
  intro near far h
  obtain ⟨-, hadded, hanswered, -⟩ :=
    sources_apart { epoch := 0, magnitude := 0x1000000, offset := 0xFFFFFE } 1
      [.add near, .setClock 0]
  have hsize : h.relay.size < 2 ^ 24 := by decide +kernel
  have hid : (h.relay.add h.seconds far).map Prod.fst = some 0 := by decide +kernel
  obtain ⟨⟨id, relay⟩, hadd, rfl⟩ := Option.map_eq_some_iff.1 hid
  obtain ⟨hfree, hfound, hothers⟩ := hadded far 0 relay hadd
  exact ⟨hsize, hanswered hsize near, relay, hadd, hfree, hfound, hothers 0x1FFFFFF (by decide),
    by decide +kernel⟩

end Mal.Relay
