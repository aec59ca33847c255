/-!
# Directories: finite maps that remember their order

A `Directory` maps keys to values and keeps its keys in the order in which they first came in.
Putting a value under a key that is present replaces the value in place. That no key occurs twice is
a proof field, so every directory is a map: `get?` is its view, and the lemmas below say what each
operation does to that view.

* `get?_put`      the last value put under a key is the one found
* `get?_erase`    an erased key is not found, all others are as before
* `get?_eraseIf`  erasing by a condition erases exactly the entries that meet it

Where an operation undoes another or has nothing to do, the directory is the same down to the order
of its keys (`erase_put`, `put_put`, `erase_of_get?_eq_none`, `put_of_get?_eq_some`).
-/

namespace Mal

/-- A finite map that remembers the order in which its keys came in. -/
structure Directory (κ α : Type) where
  entries : List (κ × α)
  /-- No key occurs twice. -/
  nodup : (entries.map Prod.fst).Nodup

namespace Directory

/-- A directory is its entries. -/
theorem eq_of_entries {κ α : Type} {d d' : Directory κ α} (h : d.entries = d'.entries) :
    d = d' := by
  cases d
  cases d'
  cases h
  rfl

variable {κ α : Type} [DecidableEq κ]

/-! ## Operations on the underlying list -/

/-- The value of the first pair with key `k`. -/
def find (k : κ) : List (κ × α) → Option α
  | [] => none
  | (k', v) :: rest => if k' = k then some v else find k rest

/-- Replaces the value of the first pair with key `k`, or adds a pair at the end. -/
def store (k : κ) (v : α) : List (κ × α) → List (κ × α)
  | [] => [(k, v)]
  | (k', v') :: rest => if k' = k then (k, v) :: rest else (k', v') :: store k v rest

private theorem find_eq_none_of_not_mem {k : κ} {l : List (κ × α)} (h : k ∉ l.map Prod.fst) :
    find k l = none := by
  induction l with
  | nil => rfl
  | cons p rest ih =>
    simp only [List.map_cons, List.mem_cons, not_or] at h
    simp [find, Ne.symm h.1, ih h.2]

private theorem mem_keys_of_find {k : κ} {v : α} {l : List (κ × α)} (h : find k l = some v) :
    k ∈ l.map Prod.fst := by
  induction l with
  | nil => simp [find] at h
  | cons p rest ih =>
    simp only [find] at h
    split at h
    · next heq => simp [heq]
    · exact List.mem_cons_of_mem _ (ih h)

private theorem isSome_find {k : κ} {l : List (κ × α)} :
    (find k l).isSome = true ↔ k ∈ l.map Prod.fst := by
  constructor
  · intro h
    obtain ⟨v, hv⟩ := Option.isSome_iff_exists.1 h
    exact mem_keys_of_find hv
  · intro h
    induction l with
    | nil => simp at h
    | cons e rest ih =>
      simp only [find]
      split
      · rfl
      · next hne =>
        simp only [List.map_cons, List.mem_cons] at h
        exact ih (h.resolve_left fun heq => hne heq.symm)

private theorem find_eq_some_iff {k : κ} {v : α} {l : List (κ × α)} (h : (l.map Prod.fst).Nodup) :
    find k l = some v ↔ (k, v) ∈ l := by
  induction l with
  | nil => simp [find]
  | cons e rest ih =>
    simp only [List.map_cons, List.nodup_cons] at h
    simp only [find, List.mem_cons]
    split
    · next heq =>
      -- the key does not occur again, so the pair can only be the first
      have hrest : (k, v) ∉ rest := fun hm => h.1 (heq ▸ List.mem_map_of_mem hm)
      subst heq
      simp only [hrest, or_false, Option.some.injEq]
      constructor
      · rintro rfl; rfl
      · intro he; rw [← he]
    · next hne =>
      rw [ih h.2]
      constructor
      · exact .inr
      · rintro (he | hm)
        · exact absurd (by rw [← he]) hne
        · exact hm

private theorem mem_keys_store {k x : κ} {v : α} {l : List (κ × α)} :
    x ∈ (store k v l).map Prod.fst ↔ x = k ∨ x ∈ l.map Prod.fst := by
  induction l with
  | nil => simp [store]
  | cons p rest ih =>
    simp only [store]
    split
    · next heq => subst heq; simp
    · simp only [List.map_cons, List.mem_cons, ih]; grind

private theorem nodup_store {k : κ} {v : α} {l : List (κ × α)} (h : (l.map Prod.fst).Nodup) :
    ((store k v l).map Prod.fst).Nodup := by
  induction l with
  | nil => simp [store]
  | cons p rest ih =>
    simp only [List.map_cons, List.nodup_cons] at h
    simp only [store]
    split
    · next heq => subst heq; simpa using h
    · next hne =>
      simp only [List.map_cons, List.nodup_cons, mem_keys_store]
      exact ⟨by simp [hne, h.1], ih h.2⟩

private theorem find_store {k x : κ} {v : α} {l : List (κ × α)} :
    find x (store k v l) = if k = x then some v else find x l := by
  induction l with
  | nil => simp [store, find]
  | cons p rest ih =>
    simp only [store]
    split
    · next heq => subst heq; simp only [find]; split <;> rfl
    · simp only [find, ih]; grind

private theorem find_filter {p : κ → α → Bool} {x : κ} {l : List (κ × α)}
    (h : (l.map Prod.fst).Nodup) :
    find x (l.filter fun e => p e.1 e.2) = (find x l).filter (p x) := by
  induction l with
  | nil => rfl
  | cons e rest ih =>
    simp only [List.map_cons, List.nodup_cons] at h
    by_cases hx : e.1 = x
    · subst hx
      by_cases hp : p e.1 e.2
      · simp [find, hp, Option.filter]
      · have : find e.1 rest = none := find_eq_none_of_not_mem h.1
        simp [hp, find, ih h.2, this, Option.filter]
    · by_cases hp : p e.1 e.2 <;> simp [find, hp, hx, ih h.2]

/-! ## Operations -/

/-- The directory without entries. -/
def empty : Directory κ α := ⟨[], List.nodup_nil⟩

instance : Inhabited (Directory κ α) := ⟨empty⟩

/-- The value under a key. -/
def get? (d : Directory κ α) (k : κ) : Option α := find k d.entries

/-- Whether a key is present. -/
def contains (d : Directory κ α) (k : κ) : Bool := (d.get? k).isSome

/-- Puts a value under a key, replacing what was there. -/
def put (d : Directory κ α) (k : κ) (v : α) : Directory κ α :=
  ⟨store k v d.entries, nodup_store d.nodup⟩

/-- Keeps the entries that do not meet the condition. -/
def eraseIf (d : Directory κ α) (p : κ → α → Bool) : Directory κ α :=
  ⟨d.entries.filter fun e => !p e.1 e.2,
   d.nodup.sublist (List.filter_sublist.map _)⟩

/-- Removes the entry under a key. -/
def erase (d : Directory κ α) (k : κ) : Directory κ α :=
  d.eraseIf fun k' _ => k' = k

/-- Number of entries. -/
def size (d : Directory κ α) : Nat := d.entries.length

/-- The keys, in the order in which they came in. -/
def keys (d : Directory κ α) : List κ := d.entries.map Prod.fst

/-- The values, in the order in which their keys came in. -/
def values (d : Directory κ α) : List α := d.entries.map Prod.snd

/-! ## What the operations do to `get?` -/

@[simp] theorem get?_empty (k : κ) : (empty : Directory κ α).get? k = none := rfl

theorem get?_put (d : Directory κ α) (k x : κ) (v : α) :
    (d.put k v).get? x = if k = x then some v else d.get? x := find_store

@[simp] theorem get?_put_self (d : Directory κ α) (k : κ) (v : α) :
    (d.put k v).get? k = some v := by simp [get?_put]

theorem get?_eraseIf (d : Directory κ α) (p : κ → α → Bool) (x : κ) :
    (d.eraseIf p).get? x = (d.get? x).filter fun v => !p x v :=
  find_filter (p := fun k v => !p k v) d.nodup

theorem get?_erase (d : Directory κ α) (k x : κ) :
    (d.erase k).get? x = if x = k then none else d.get? x := by
  rw [erase, get?_eraseIf]
  by_cases h : x = k
  · cases d.get? x <;> simp [h]
  · cases d.get? x <;> simp [h]

@[simp] theorem get?_erase_self (d : Directory κ α) (k : κ) : (d.erase k).get? k = none := by
  simp [get?_erase]

/-- The entries are the keys with the values found under them. -/
theorem mem_entries (d : Directory κ α) (k : κ) (v : α) : (k, v) ∈ d.entries ↔ d.get? k = some v :=
  find_eq_some_iff d.nodup |>.symm

/-- A condition that holds of one entry alone picks out this entry. -/
theorem filter_entries_eq_singleton {d : Directory κ α} {k : κ} {v : α} {p : κ × α → Bool}
    (h : d.get? k = some v) (hp : p (k, v) = true)
    (hothers : ∀ k' v', d.get? k' = some v' → p (k', v') = true → k' = k) :
    d.entries.filter p = [(k, v)] := by
  have hall : ∀ e ∈ d.entries.filter p, e = (k, v) := by
    rintro ⟨k', v'⟩ he
    obtain ⟨hmem, hpe⟩ := List.mem_filter.1 he
    have hget := (mem_entries d k' v').1 hmem
    obtain rfl := hothers k' v' hget hpe
    rw [h] at hget
    cases hget
    rfl
  have hmem : (k, v) ∈ d.entries.filter p := List.mem_filter.2 ⟨(mem_entries d k v).2 h, hp⟩
  have hentries : d.entries.Nodup :=
    List.Pairwise.of_map Prod.fst (fun _ _ hne he => hne (he ▸ rfl)) d.nodup
  have hnodup : (d.entries.filter p).Nodup := hentries.filter p
  match hl : d.entries.filter p with
  | [] => rw [hl] at hmem; cases hmem
  | [e] => rw [hall e (by rw [hl]; exact .head _)]
  | e :: e' :: rest =>
    have he := hall e (by rw [hl]; exact .head _)
    have he' := hall e' (by rw [hl]; exact .tail _ (.head _))
    rw [hl, he, he'] at hnodup
    simp at hnodup

/-! ## Operations that leave no trace -/

/-- Erasing takes down what was put. -/
theorem erase_put (d : Directory κ α) (k : κ) (v : α) : (d.put k v).erase k = d.erase k := by
  refine eq_of_entries ?_
  show (store k v d.entries).filter _ = d.entries.filter _
  induction d.entries with
  | nil => simp [store]
  | cons e rest ih =>
    obtain ⟨k', v'⟩ := e
    simp only [store]
    split
    · next heq => simp [heq]
    · next hne => simp only [List.filter_cons, ih]

/-- The last value put under a key replaces the one before. -/
theorem put_put (d : Directory κ α) (k : κ) (v w : α) : (d.put k v).put k w = d.put k w := by
  refine eq_of_entries ?_
  show store k w (store k v d.entries) = store k w d.entries
  induction d.entries with
  | nil => simp [store]
  | cons e rest ih =>
    obtain ⟨k', v'⟩ := e
    by_cases hk : k' = k
    · simp [store, hk]
    · simp [store, hk, ih]

/-- Nothing is erased under an absent key. -/
theorem erase_of_get?_eq_none {d : Directory κ α} {k : κ} (h : d.get? k = none) :
    d.erase k = d := by
  refine eq_of_entries (List.filter_eq_self.2 fun e hmem => ?_)
  have hne : e.1 ≠ k := by
    rintro rfl
    cases h.symm.trans ((d.mem_entries e.1 e.2).1 hmem)
  simp [hne]

/-- Putting the value that is there changes nothing. -/
theorem put_of_get?_eq_some {d : Directory κ α} {k : κ} {v : α} (h : d.get? k = some v) :
    d.put k v = d := by
  refine eq_of_entries ?_
  change find k d.entries = some v at h
  show store k v d.entries = d.entries
  revert h
  induction d.entries with
  | nil => intro h; cases h
  | cons e rest ih =>
    obtain ⟨k', v'⟩ := e
    intro h
    by_cases hk : k' = k
    · simp only [find, if_pos hk] at h
      cases h
      simp [store, hk]
    · simp only [find, if_neg hk] at h
      simp [store, hk, ih h]

theorem contains_iff_mem_keys (d : Directory κ α) (k : κ) : d.contains k = true ↔ k ∈ d.keys :=
  isSome_find

end Directory

end Mal
