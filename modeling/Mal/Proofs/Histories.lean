import Mathlib.Data.Set.Card
import Mal.Directory

/-!
# Directories over a history

What is in a table depends on everything that was done to it, and most of what was done does not
matter any more: under a key stands what was put there last, if nothing has taken it out since.
`Since` says this of a history of events, and `since_concat` is how it goes from one event to the
next.

A directory has as many entries as keys under which something is found, so its size is the size of a
set that does not speak of entries (`Directory.encard_bound`).
-/

namespace Mal

/-! ## Histories -/

/-- Some event of the history has brought something about, and all later ones have let it stand. -/
def Since {ε : Type} (brings keeps : ε → Prop) (history : List ε) : Prop :=
  ∃ before e after, history = before ++ e :: after ∧ brings e ∧ ∀ later ∈ after, keeps later

section
variable {ε : Type} {brings keeps : ε → Prop}

/-- Nothing stands before the first event. -/
@[simp] theorem not_since_nil : ¬ Since brings keeps [] := by
  rintro ⟨before, e, after, hhistory, -⟩
  simp at hhistory

/-- What stands after an event was brought about by it, or stood before and was let stand. -/
theorem since_concat {history : List ε} {e : ε} :
    Since brings keeps (history ++ [e]) ↔ brings e ∨ keeps e ∧ Since brings keeps history := by
  constructor
  · rintro ⟨before, e', after, hhistory, hbrings, hkeeps⟩
    -- the event that brings it about is the last one, or has the last one after it
    obtain rfl | ⟨after, last, rfl⟩ := List.eq_nil_or_concat' after
    · obtain ⟨-, hlast⟩ := List.append_inj' hhistory rfl
      cases hlast
      exact .inl hbrings
    · -- the one that brought it about stands before the last event, which has let it stand
      rw [← List.cons_append, ← List.append_assoc] at hhistory
      obtain ⟨rfl, hlast⟩ := List.append_inj' hhistory rfl
      cases hlast
      simp only [List.mem_append, List.mem_singleton] at hkeeps
      exact .inr ⟨hkeeps _ (.inr rfl), before, e', after, rfl, hbrings,
        fun later hlater => hkeeps later (.inl hlater)⟩
  · rintro (hbrings | ⟨hkept, before, e', after, rfl, hbrings, hkeeps⟩)
    · exact ⟨history, e, [], rfl, hbrings, fun _ hlater => by cases hlater⟩
    · refine ⟨before, e', after ++ [e], by simp, hbrings, fun later hlater => ?_⟩
      -- the last event lets it stand, and so do those before it
      obtain hlater | hlater := List.mem_append.1 hlater
      · exact hkeeps later hlater
      · obtain rfl := List.mem_singleton.1 hlater
        exact hkept

end

/-! ## Sizes -/

namespace Directory

variable {κ α : Type} [DecidableEq κ] {d : Directory κ α} {k : κ} {v : α}

/-- A directory has one entry for each key under which something is found. -/
theorem encard_bound (d : Directory κ α) : {k | (d.get? k).isSome = true}.encard = d.size := by
  -- the keys of the entries are the keys under which something is found, each in one entry
  have hkeys : {k | (d.get? k).isSome = true} = (d.keys.toFinset : Set κ) := by
    ext k
    rw [List.coe_toFinset]
    exact d.contains_iff_mem_keys k
  have hnodup : d.keys.Nodup := d.nodup
  rw [hkeys, Set.encard_coe_eq_coe_finsetCard, List.toFinset_card_of_nodup hnodup, keys, size,
    List.length_map]

/-- The same with the keys written in another way, each in one. -/
theorem encard_bound_of_injective {ι : Type} {key : ι → κ} (hinj : Function.Injective key)
    (hkey : ∀ k, (d.get? k).isSome = true → ∃ i, key i = k) :
    {i | (d.get? (key i)).isSome = true}.encard = d.size := by
  rw [← d.encard_bound]
  exact Set.encard_preimage_of_injective_subset_range hinj hkey

omit [DecidableEq κ] in
/-- Every entry is either kept or erased. -/
theorem size_eraseIf_add (d : Directory κ α) (p : κ → α → Bool) :
    (d.eraseIf p).size + (d.eraseIf fun k v => !p k v).size = d.size := by
  simp only [size, eraseIf, Bool.not_not]
  rw [Nat.add_comm]
  exact (List.length_eq_length_filter_add _).symm

/-- An entry under a new key is one entry more. -/
theorem size_put_of_get?_eq_none (v : α) (h : d.get? k = none) : (d.put k v).size = d.size + 1 := by
  -- storing goes through the list and adds at its end if it does not meet the key
  have hstore (l : List (κ × α)) (hl : find k l = none) : (store k v l).length = l.length + 1 := by
    induction l with
    | nil => rfl
    | cons e rest ih =>
      simp only [find] at hl
      split at hl
      · cases hl
      · next hne => simp [store, hne, ih hl]
  exact hstore d.entries h

/-- Taking out what is there leaves one entry less. -/
theorem size_erase_of_get?_eq_some (h : d.get? k = some v) : (d.erase k).size + 1 = d.size := by
  have herased : d.entries.filter (fun e => decide (e.1 = k)) = [(k, v)] :=
    filter_entries_eq_singleton h (by simp) fun k' v' _ hk' => by simpa using hk'
  rw [← d.size_eraseIf_add fun k' _ => decide (k' = k)]
  simp only [erase, size, eraseIf, Bool.not_not, herased, List.length_singleton]

end Directory

end Mal
