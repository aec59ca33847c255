import Mathlib.Data.List.Chain
import Mal.Proofs.Correlation.Ids

/-!
# Ids over a whole history of calls

An allocator is made once and then asked for ids for as long as its owner lives. A `Call` is one
such request, with everything that the allocator does not decide: what the clock reads whenever the
offset wraps, which ids are in use meanwhile, and for how many turns the call is looked at. The
number of turns is free, so a call may go on for longer than `turnBound`; one that has not ended by
then is the last of its history.

## Key results

- `mem_stands_wellFormed`: magnitude and offset are in their bounds at every turn of a history
- `isChain_issued`: one id after another is greater if the clock advances between wraps
- `WellFormed.search_crowded`: a search that finds the rest of its magnitude in use
- `issued_unique_and_growing`: what every history of calls hands out
-/

namespace Mal.Allocator

/-- One call for an id, with what it finds around it. -/
structure Call where
  /-- What the clock reads at the `n`-th wrap of the call. -/
  clock : Nat → UInt64
  /-- Which ids are in use while the call lasts. -/
  inUse : TransactionId → Bool
  /-- For how many turns the call is looked at. -/
  turns : Nat

/-- What a call hands out and where the allocator stands then, if the call ends within its turns. -/
def Call.outcome? (c : Call) (a : Allocator) : Option (TransactionId × Allocator) :=
  search c.clock c.inUse c.turns 0 a

/-- A call that is looked at for `turnBound` turns is `next`. -/
theorem Call.outcome?_turnBound (a : Allocator) (clock : Nat → UInt64)
    (inUse : TransactionId → Bool) :
    Call.outcome? { clock := clock, inUse := inUse, turns := turnBound } a =
      a.next clock inUse :=
  rfl

/-- One turn: where the allocator stands before it, and what the clock reads. -/
structure Turn where
  before : Allocator
  seconds : UInt64

/-- Where the allocator stands after a turn. -/
def Turn.after (t : Turn) : Allocator :=
  t.before.turn t.seconds

/-- The turns that a search takes until it has found a free id. -/
def turnsOf (clock : Nat → UInt64) (inUse : TransactionId → Bool) :
    (turns wrapped : Nat) → Allocator → List Turn
  | 0, _, _ => []
  | turns + 1, wrapped, a =>
    let t : Turn := { before := a, seconds := clock wrapped }
    t :: if inUse t.after.id then
        turnsOf clock inUse turns (if a.wraps then wrapped + 1 else wrapped) t.after
      else []

/-- The turns that a call takes. -/
def Call.turnsOf (c : Call) (a : Allocator) : List Turn :=
  Allocator.turnsOf c.clock c.inUse c.turns 0 a

/-- The ids that a history of calls hands out, each beside its call. -/
def issued : Allocator → List Call → List (Call × TransactionId)
  | _, [] => []
  | a, c :: calls =>
    match c.outcome? a with
    | none => []
    | some (i, b) => (c, i) :: issued b calls

/-- The turns that a history of calls takes, those of a call that does not end included. -/
def turnsTaken : Allocator → List Call → List Turn
  | _, [] => []
  | a, c :: calls =>
    c.turnsOf a ++
      match c.outcome? a with
      | none => []
      | some (_, b) => turnsTaken b calls

/-- Everywhere that an allocator stands in the course of a history, its start included. -/
def stands (a : Allocator) (calls : List Call) : List Allocator :=
  a :: (turnsTaken a calls).map Turn.after

variable {a b : Allocator} {c : Call} {t : Turn} {i : TransactionId} {calls : List Call}
  {clock : Nat → UInt64} {inUse : TransactionId → Bool} {turns wrapped : Nat}

/-! ### Bounds -/

/-- A search starts each of its turns within the bounds. -/
private theorem WellFormed.of_mem_turnsOf (h : a.WellFormed)
    (ht : t ∈ Allocator.turnsOf clock inUse turns wrapped a) : t.before.WellFormed := by
  -- over the turns; the allocator is a different one after each
  induction turns generalizing wrapped a with
  | zero => cases ht
  | succ turns ih =>
    rw [Allocator.turnsOf] at ht
    cases ht with
    | head => exact h
    | tail _ hrest =>
      split at hrest
      · -- a later turn is one of the search that goes on from the next stand
        exact ih (h.turn _) hrest
      · cases hrest

/-- A search leaves the allocator within the bounds, whatever the clock reads. -/
private theorem WellFormed.of_search (h : a.WellFormed)
    (hsearch : search clock inUse turns wrapped a = some (i, b)) : b.WellFormed := by
  induction turns generalizing wrapped a with
  | zero => cases hsearch
  | succ turns ih =>
    simp only [search] at hsearch
    split at hsearch
    · -- the id is in use, so the search goes on
      exact ih (h.turn _) hsearch
    · cases hsearch
      exact h.turn _

/-- Each turn of a history starts within the bounds. -/
private theorem WellFormed.of_mem_turnsTaken (h : a.WellFormed) (ht : t ∈ turnsTaken a calls) :
    t.before.WellFormed := by
  induction calls generalizing a with
  | nil => cases ht
  | cons c calls ih =>
    rw [turnsTaken, List.mem_append] at ht
    cases ht with
    | inl hcall => exact h.of_mem_turnsOf hcall
    | inr hlater =>
      split at hlater
      · -- a call that does not end is the last one
        cases hlater
      · next i b houtcome => exact ih (h.of_search houtcome) hlater

/-- An allocator is within its bounds wherever it stands. -/
theorem mem_stands_wellFormed (h : a.WellFormed) (hb : b ∈ stands a calls) : b.WellFormed := by
  cases hb with
  | head => exact h
  | tail _ hmem =>
    obtain ⟨t, ht, rfl⟩ := List.mem_map.mp hmem
    exact (h.of_mem_turnsTaken ht).turn t.seconds

/-- With magnitude and offset in their bounds, an id is less than `2^64` as a sum of numbers. -/
private theorem WellFormed.sum_lt (h : a.WellFormed) :
    a.magnitude.toNat + a.offset.toNat < 2 ^ 64 := by
  have hid := h.id_toNat
  have hword := a.id.toNat_lt
  omega

/-! ### Ids -/

/-- An id that a history hands out is in use for nobody else at that call. -/
private theorem not_inUse_of_mem_issued {p : Call × TransactionId} (hp : p ∈ issued a calls) :
    p.1.inUse p.2 = false := by
  induction calls generalizing a with
  | nil => cases hp
  | cons c calls ih =>
    rw [issued] at hp
    split at hp
    · -- nothing is handed out by a call that does not end, nor after it
      cases hp
    · next i b houtcome =>
      cases hp with
      | head => exact not_inUse_of_search houtcome
      | tail _ hrest => exact ih hrest

/-- Reading later at every wrap of a search is reading later at each of its turns. -/
private theorem searchReadsLater_of_turnsOf
    (h : ∀ t ∈ Allocator.turnsOf clock inUse turns wrapped a, t.before.ReadsLater t.seconds) :
    SearchReadsLater clock inUse turns wrapped a := by
  induction turns generalizing wrapped a with
  | zero => trivial
  | succ turns ih =>
    rw [Allocator.turnsOf] at h
    have hfirst : a.ReadsLater (clock wrapped) := h _ List.mem_cons_self
    refine ⟨hfirst, fun huse => ?_⟩
    apply ih
    intro t ht
    -- a turn of the rest of the search is a turn of the search
    apply h t
    apply List.mem_cons_of_mem
    show t ∈ if inUse (a.turn (clock wrapped)).id then _ else _
    rw [if_pos huse]
    exact ht

/-- If the clock reads later at every wrap, each id is greater than the one before it, and the first
    is greater than where the allocator stood. -/
theorem isChain_issued (h : a.WellFormed)
    (hlater : ∀ t ∈ turnsTaken a calls, t.before.ReadsLater t.seconds) :
    List.IsChain (· < ·) (a.id :: (issued a calls).map Prod.snd) := by
  induction calls generalizing a with
  | nil => exact List.isChain_singleton _
  | cons c calls ih =>
    rw [issued]
    split
    · -- without an id there is no further link
      exact List.isChain_singleton _
    · next i b houtcome =>
      simp only [turnsTaken, houtcome, List.mem_append] at hlater
      have hreads : SearchReadsLater c.clock c.inUse c.turns 0 a :=
        searchReadsLater_of_turnsOf fun t ht => hlater t (Or.inl ht)
      obtain ⟨hb, hid, hlt⟩ := h.lt_search hreads houtcome
      have hrest := ih hb fun t ht => hlater t (Or.inr ht)
      -- the next search goes on from the id just handed out
      rw [hid] at hrest
      exact List.isChain_cons_cons.mpr ⟨hlt, hrest⟩

/-! ### Passing over ids in use -/

/-- The allocator `n` offsets further on in its present magnitude. -/
def forward (a : Allocator) (n : Nat) : Allocator :=
  { a with offset := a.offset + UInt64.ofNat n }

@[simp] theorem forward_zero (a : Allocator) : a.forward 0 = a := by
  simp [forward]

/-- Offsets short of the span add up as numbers. -/
private theorem WellFormed.forward_offset (h : a.WellFormed) {n : Nat}
    (hn : a.offset.toNat + n < 2 ^ 24) :
    (a.forward n).offset.toNat = a.offset.toNat + n := by
  have hlt := h.offset_lt
  show (a.offset + UInt64.ofNat n).toNat = _
  rw [UInt64.toNat_add, UInt64.toNat_ofNat']
  omega

private theorem WellFormed.forward (h : a.WellFormed) {n : Nat} (hn : a.offset.toNat + n < 2 ^ 24) :
    (a.forward n).WellFormed where
  magnitude_mod := h.magnitude_mod
  offset_lt := by
    rw [h.forward_offset hn]
    exact hn

/-- The allocator does not wrap before the last offset of its magnitude. -/
private theorem WellFormed.wraps_forward (h : a.WellFormed) {n : Nat}
    (hn : a.offset.toNat + n + 1 < 2 ^ 24) : (a.forward n).wraps = false := by
  have hn' : a.offset.toNat + n < 2 ^ 24 := Nat.lt_of_succ_lt hn
  rw [Bool.eq_false_iff, ne_eq, (h.forward hn').wraps_iff, h.forward_offset hn']
  omega

/-- A turn before the last offset of a magnitude goes one offset further on. -/
private theorem WellFormed.turn_forward (h : a.WellFormed) {n : Nat} (seconds : UInt64)
    (hn : a.offset.toNat + n + 1 < 2 ^ 24) :
    (a.forward n).turn seconds = a.forward (n + 1) := by
  unfold Allocator.turn
  rw [if_neg (by simp [h.wraps_forward hn])]
  simp only [Allocator.forward, UInt64.ofNat_add, UInt64.add_assoc]
  rfl

/-- While all ids of the present magnitude are in use, a search goes from each to the next. -/
private theorem WellFormed.turnsOf_forward (h : a.WellFormed) {n : Nat}
    (hn : a.offset.toNat + n < 2 ^ 24) (huse : ∀ k ≤ n, inUse (a.forward k).id = true) :
    Allocator.turnsOf clock inUse (n + turns) wrapped a =
      (List.range n).map (fun k => { before := a.forward k, seconds := clock wrapped }) ++
        Allocator.turnsOf clock inUse turns wrapped (a.forward n) := by
  induction n generalizing turns with
  | zero => simp
  | succ n ih =>
    have hn' : a.offset.toNat + n < 2 ^ 24 := by omega
    have hwraps := h.wraps_forward hn
    have hturn := h.turn_forward (clock wrapped) hn
    have hused := huse (n + 1) (Nat.le_refl _)
    -- the turns up to the last but one come first, then the one that ends at offset `n + 1`
    rw [Nat.add_right_comm, Nat.add_assoc, ih hn' fun k hk => huse k (Nat.le_succ_of_le hk),
      List.range_succ, List.map_append, List.append_assoc, Allocator.turnsOf]
    simp [Turn.after, hturn, hused, hwraps]

/-- A search comes out as one that starts behind the ids it finds in use. -/
private theorem WellFormed.search_forward (h : a.WellFormed) {n : Nat}
    (hn : a.offset.toNat + n < 2 ^ 24) (huse : ∀ k ≤ n, inUse (a.forward k).id = true) :
    search clock inUse (n + turns) wrapped a =
      search clock inUse turns wrapped (a.forward n) := by
  induction n generalizing turns with
  | zero => simp
  | succ n ih =>
    have hn' : a.offset.toNat + n < 2 ^ 24 := by omega
    have hwraps := h.wraps_forward hn
    have hturn := h.turn_forward (clock wrapped) hn
    have hused := huse (n + 1) (Nat.le_refl _)
    rw [Nat.add_right_comm, Nat.add_assoc, ih hn' fun k hk => huse k (Nat.le_succ_of_le hk), search]
    simp [hturn, hused, hwraps]

/-- The allocator with the magnitude of a clock reading, at its first offset. -/
def renewed (a : Allocator) (seconds : UInt64) : Allocator :=
  { a with magnitude := magnitudeAt seconds a.epoch, offset := 0 }

/-- The turn at the last offset of a magnitude renews it. -/
private theorem WellFormed.turn_last (h : a.WellFormed) {n : Nat} (seconds : UInt64)
    (hn : a.offset.toNat + n = 2 ^ 24 - 1) :
    (a.forward n).turn seconds = a.renewed seconds := by
  have hlt : a.offset.toNat + n < 2 ^ 24 := by omega
  -- at the last offset the next turn wraps
  have hwraps : (a.forward n).wraps = true := by
    rw [(h.forward hlt).wraps_iff, h.forward_offset hlt]
    exact hn
  rw [Allocator.turn, if_pos hwraps]
  rfl

/-- With the rest of its magnitude in use, a search hands out the first id of the next one. -/
theorem WellFormed.search_crowded (h : a.WellFormed) {n : Nat}
    (hn : a.offset.toNat + n = 2 ^ 24 - 1) (huse : ∀ k ≤ n, inUse (a.forward k).id = true)
    (hfree : inUse (a.renewed (clock wrapped)).id = false) :
    search clock inUse (n + 1) wrapped a =
      some ((a.renewed (clock wrapped)).id, a.renewed (clock wrapped)) := by
  rw [h.search_forward (by omega) huse, search, h.turn_last (clock wrapped) hn]
  simp [hfree]

/-- Such a search reads the clock once, in its last turn. -/
private theorem WellFormed.readsLater_of_crowded (h : a.WellFormed) {n : Nat}
    (hn : a.offset.toNat + n = 2 ^ 24 - 1) (huse : ∀ k ≤ n, inUse (a.forward k).id = true)
    (hlater : a.magnitude.toNat < a.sinceEpoch (clock wrapped) * 2 ^ 24 ∧
      a.sinceEpoch (clock wrapped) < 2 ^ 40)
    (ht : t ∈ Allocator.turnsOf clock inUse (n + 1) wrapped a) : t.before.ReadsLater t.seconds := by
  rw [h.turnsOf_forward (by omega) huse, List.mem_append, List.mem_map] at ht
  -- the turns over the ids in use do not wrap, so nothing is read there
  cases ht with
  | inl hpassed =>
    obtain ⟨k, hk, rfl⟩ := hpassed
    have hk := List.mem_range.mp hk
    have hwraps : (a.forward k).wraps = false := h.wraps_forward (by omega)
    intro hwrapped
    rw [hwraps] at hwrapped
    cases hwrapped
  -- the last turn wraps, and the clock reads later there
  | inr hlast =>
    simp only [Allocator.turnsOf, ite_self, List.mem_singleton] at hlast
    rw [hlast]
    exact fun _ => hlater

/-! ### Every history -/

/-- Whatever calls are made on an allocator from its start on, and whatever the clock reads: the low
    24 bits of the magnitude are zero and the offset is at most `2^24 - 1` wherever the allocator
    stands, so that their sum fits a machine word; no id is handed out that is in use at its call;
    and if at each wrap the seconds since the epoch are later than those of the present magnitude,
    and fit the bits above the offset, the ids of the whole history are strictly increasing. -/
theorem issued_unique_and_growing (epoch first : UInt64) (calls : List Call) :
    (∀ b ∈ stands (start epoch first) calls,
      b.magnitude.toNat % 2 ^ 24 = 0 ∧ b.offset.toNat ≤ 2 ^ 24 - 1 ∧
        b.magnitude.toNat + b.offset.toNat < 2 ^ 64 ∧
        b.id.toNat = b.magnitude.toNat + b.offset.toNat) ∧
    (∀ p ∈ issued (start epoch first) calls, p.1.inUse p.2 = false) ∧
    ((∀ t ∈ turnsTaken (start epoch first) calls, t.before.wraps = true →
        t.before.magnitude.toNat < t.before.sinceEpoch t.seconds * 2 ^ 24 ∧
          t.before.sinceEpoch t.seconds < 2 ^ 40) →
      ((issued (start epoch first) calls).map Prod.snd).Pairwise (· < ·)) := by
  have hstart := WellFormed.start epoch first
  refine ⟨fun b hb => ?_, fun p hp => not_inUse_of_mem_issued hp, fun hlater => ?_⟩
  · have hb := mem_stands_wellFormed hstart hb
    exact ⟨hb.magnitude_mod, Nat.le_sub_one_of_lt hb.offset_lt, hb.sum_lt, hb.id_toNat⟩
  · have hchain := isChain_issued hstart hlater
    exact (List.isChain_iff_pairwise.mp hchain).of_cons

/-- A call that finds no id in use. -/
def Call.undisturbed : Call :=
  { clock := fun _ => 1, inUse := fun _ => false, turns := 1 }

/-- A call that finds all ids of magnitude 0 in use, one second after the epoch. -/
def Call.crowded : Call :=
  { clock := fun _ => 1, inUse := fun i => decide (i < 0x1000000), turns := 0xFFFFFF }

/-- The second of three calls passes over all that is left of its magnitude, and wraps. -/
theorem issued_unique_and_growing_crowded :
    (∀ t ∈ turnsTaken (start 0 0) [.undisturbed, .crowded, .undisturbed],
      t.before.wraps = true →
        t.before.magnitude.toNat < t.before.sinceEpoch t.seconds * 2 ^ 24 ∧
          t.before.sinceEpoch t.seconds < 2 ^ 40) ∧
    (issued (start 0 0) [.undisturbed, .crowded, .undisturbed]).map Prod.snd =
      [1, 0x1000000, 0x1000001] ∧
    ((issued (start 0 0) [.undisturbed, .crowded, .undisturbed]).map Prod.snd).Pairwise
      (· < ·) := by
  let a : Allocator := { epoch := 0, magnitude := 0, offset := 1 }
  let b : Allocator := { epoch := 0, magnitude := 0x1000000, offset := 0 }
  have hwf : a.WellFormed := ⟨rfl, by decide⟩
  -- the second call wraps, and finds the first id of the next magnitude
  have hrenewed : a.renewed 1 = b := by decide
  have hundisturbed : ∀ d : Allocator, d.wraps = false →
      ∀ t ∈ Call.undisturbed.turnsOf d, t.before.ReadsLater t.seconds := by
    intro d hwraps t ht hwrapped
    cases ht with
    | head =>
      rw [hwraps] at hwrapped
      cases hwrapped
    | tail _ hrest => cases hrest
  have hfirst : Call.undisturbed.outcome? (start 0 0) = some (1, a) := rfl
  have hthird : Call.undisturbed.outcome? b = some (0x1000001, b.forward 1) := rfl
  -- said of any call, since a search of that length is not to be evaluated
  have hrun : ∀ crowded : Call, crowded.outcome? a = some (0x1000000, b) →
      (∀ t ∈ crowded.turnsOf a, t.before.ReadsLater t.seconds) →
      (∀ t ∈ turnsTaken (start 0 0) [.undisturbed, crowded, .undisturbed],
        t.before.ReadsLater t.seconds) ∧
      (issued (start 0 0) [.undisturbed, crowded, .undisturbed]).map Prod.snd =
        [1, 0x1000000, 0x1000001] := by
    intro crowded hsecond hcrowded
    constructor
    · intro t ht
      simp only [turnsTaken, hfirst, hsecond, hthird, List.append_nil, List.mem_append] at ht
      obtain ht | ht | ht := ht
      · exact hundisturbed _ rfl t ht
      · exact hcrowded t ht
      · exact hundisturbed _ rfl t ht
    · simp only [issued, hfirst, hsecond, hthird, List.map_cons, List.map_nil]
  obtain ⟨n, hspan, hturns⟩ :
      ∃ n, a.offset.toNat + n = 2 ^ 24 - 1 ∧ Call.crowded.turns = n + 1 :=
    ⟨0xFFFFFE, by decide, by decide⟩
  -- all ids of magnitude 0 are below `2 ^ 24`
  have hused : ∀ k ≤ n, Call.crowded.inUse (a.forward k).id = true := by
    intro k hk
    have hk' : a.offset.toNat + k < 2 ^ 24 := by omega
    show decide ((a.forward k).id < 0x1000000) = true
    rw [decide_eq_true_iff, UInt64.lt_iff_toNat_lt, (hwf.forward hk').id_toNat,
      hwf.forward_offset hk']
    show 0 + (a.offset.toNat + k) < 0x1000000
    omega
  have hsecond : Call.crowded.outcome? a = some (0x1000000, b) := by
    have hfree : Call.crowded.inUse (a.renewed (Call.crowded.clock 0)).id = false := by
      show Call.crowded.inUse (a.renewed 1).id = false
      rw [hrenewed]
      decide
    rw [Call.outcome?, hturns, hwf.search_crowded hspan hused hfree]
    exact congrArg (fun d => some (d.id, d)) hrenewed
  have hcrowded : ∀ t ∈ Call.crowded.turnsOf a, t.before.ReadsLater t.seconds := by
    intro t ht
    rw [Call.turnsOf, hturns] at ht
    exact hwf.readsLater_of_crowded hspan hused (by decide) ht
  obtain ⟨hlater, hids⟩ := hrun _ hsecond hcrowded
  exact ⟨hlater, hids, (issued_unique_and_growing 0 0 _).2.2 hlater⟩

end Mal.Allocator
