import Mathlib.Data.Set.Card
import Mal.Proofs.Correlation.Issued

/-!
# The search for a free id ends

A search for an id goes on until it meets one that is not in use. `Finds` is that search without a
bound on its turns, and `search` is the same search given up after some number of them
(`search_eq_some_iff`).

No quantity goes down from turn to turn: the offset restarts, and the magnitude goes wherever the
clock is. But an offset that has restarted then runs through all `2^24` ids of one magnitude, and
restarting takes less than `2^24` turns. So fewer than `2^24` ids in use cannot keep a search from
ending. With a clock that stands still, `2^24` ids in use can.

## Key results

- `search_eq_some_iff`: what a search finds, it finds in some number of turns
- `exists_finds`, `isSome_next`: searches that end
- `Finds.mem_idsAt`: under a clock that stands still, a search stays in its magnitude
- `WellFormed.next_eq_none_iff`: there `next` only gives up what would never end
- `next_returns`: how long a search takes, and which searches never end
-/

namespace Mal.Allocator

/-- A search from `a` on finds an id in its `n`-th turn, and leaves the allocator there. `wrapped`
    is how often the offset has wrapped before. -/
inductive Finds (clock : Nat → UInt64) (inUse : TransactionId → Bool) :
    (wrapped : Nat) → Allocator → (n : Nat) → TransactionId × Allocator → Prop
  | free {wrapped : Nat} {a : Allocator} :
      inUse (a.turn (clock wrapped)).id = false →
      Finds clock inUse wrapped a 1 ((a.turn (clock wrapped)).id, a.turn (clock wrapped))
  | passed {wrapped : Nat} {a : Allocator} {n : Nat} {found : TransactionId × Allocator} :
      inUse (a.turn (clock wrapped)).id = true →
      Finds clock inUse (if a.wraps then wrapped + 1 else wrapped) (a.turn (clock wrapped)) n
        found →
      Finds clock inUse wrapped a (n + 1) found

/-- The ids of a magnitude. -/
def idsAt (magnitude : UInt64) : Set TransactionId :=
  {i | ∃ offset ≤ offsetSpan, i = magnitude + offset}

variable {a : Allocator} {found : TransactionId × Allocator} {clock : Nat → UInt64}
  {inUse : TransactionId → Bool} {wrapped : Nat}

/-! ### Searches with and without a bound -/

/-- A search that is given up after some turns finds what the search without a bound finds until
    then. -/
theorem search_eq_some_iff {turns : Nat} :
    search clock inUse turns wrapped a = some found ↔
      ∃ n ≤ turns, Finds clock inUse wrapped a n found := by
  induction turns generalizing wrapped a with
  | zero =>
    constructor
    · intro h
      cases h
    · rintro ⟨n, hn, hfinds⟩
      -- without turns nothing is found
      cases hfinds <;> omega
  | succ turns ih =>
    simp only [search]
    cases huse : inUse (a.turn (clock wrapped)).id with
    | false =>
      -- the id is free, so both find it in this turn
      simp only [Bool.false_eq_true, if_false, Option.some.injEq]
      constructor
      · rintro rfl
        exact ⟨1, by omega, .free huse⟩
      · rintro ⟨n, -, hfinds⟩
        cases hfinds with
        | free => rfl
        | passed hused => cases huse.symm.trans hused
    | true =>
      -- it is in use, so both go on from it, with one turn less
      simp only [if_true]
      rw [ih]
      constructor
      · rintro ⟨n, hn, hfinds⟩
        exact ⟨n + 1, by omega, .passed huse hfinds⟩
      · rintro ⟨n, hn, hfinds⟩
        cases hfinds with
        | free hfree => cases huse.symm.trans hfree
        | passed _ hrest => exact ⟨_, by omega, hrest⟩

/-- What `next` gives is found in one of the first `2^25` turns. -/
private theorem next_eq_some_iff :
    a.next clock inUse = some found ↔ ∃ n ≤ 2 ^ 25, Finds clock inUse 0 a n found :=
  search_eq_some_iff

/-! ### The ids of a magnitude -/

/-- A magnitude has `2^24` ids. -/
private theorem encard_idsAt (magnitude : UInt64) : (idsAt magnitude).encard = 2 ^ 24 := by
  -- the ids of a magnitude are numbered by their offsets
  have himage : idsAt magnitude =
      (fun n => magnitude + UInt64.ofNat n) '' (Finset.range (2 ^ 24) : Set Nat) := by
    ext i
    simp only [idsAt, Set.mem_ofPred_eq, Set.mem_image, Finset.coe_range, Set.mem_Iio]
    constructor
    · rintro ⟨offset, hoffset, rfl⟩
      rw [UInt64.le_iff_toNat_le] at hoffset
      exact ⟨offset.toNat, Nat.lt_succ_of_le hoffset, by rw [UInt64.ofNat_toNat]⟩
    · rintro ⟨n, hn, rfl⟩
      refine ⟨UInt64.ofNat n, ?_, rfl⟩
      rw [UInt64.le_iff_toNat_le, UInt64.toNat_ofNat']
      show n % 2 ^ 64 ≤ 2 ^ 24 - 1
      omega
  -- different offsets below `2 ^ 24` are different words
  have hinj :
      Set.InjOn (fun n => magnitude + UInt64.ofNat n) (Finset.range (2 ^ 24) : Set Nat) := by
    intro m hm n hn heq
    simp only [Finset.coe_range, Set.mem_Iio] at hm hn
    have hoffsets := congrArg UInt64.toNat ((UInt64.add_right_inj magnitude).1 heq)
    rw [UInt64.toNat_ofNat', UInt64.toNat_ofNat'] at hoffsets
    omega
  rw [himage, hinj.encard_image, Set.encard_coe_eq_coe_finsetCard, Finset.card_range]
  rfl

/-- Fewer ids in use than a magnitude has leave one of its ids free. -/
private theorem exists_free_idsAt (hfew : {i | inUse i = true}.encard < 2 ^ 24)
    (magnitude : UInt64) :
    ∃ i ∈ idsAt magnitude, inUse i = false := by
  by_contra hnone
  -- else all ids of the magnitude would be in use, which are too many
  have hused : idsAt magnitude ⊆ {i | inUse i = true} := by
    intro i hi
    by_contra hfree
    exact hnone ⟨i, hi, Bool.eq_false_iff.2 hfree⟩
  have hcard := Set.encard_le_encard hused
  rw [encard_idsAt] at hcard
  exact absurd hfew (not_lt.2 hcard)

/-! ### Turns

The allocator is not taken to be well-formed here: a search may start from any state.
-/

/-- The next turn wraps if the next offset, taken as a word, is out of the span. -/
private theorem wraps_iff_lt (a : Allocator) :
    a.wraps = true ↔ 2 ^ 24 - 1 < (a.offset.toNat + 1) % 2 ^ 64 := by
  have hnext : (a.offset + 1).toNat = (a.offset.toNat + 1) % 2 ^ 64 := UInt64.toNat_add ..
  rw [wraps, decide_eq_true_iff, gt_iff_lt, UInt64.lt_iff_toNat_lt, hnext]
  rfl

/-- A turn within the span goes one offset further on. -/
private theorem turn_eq_forward (seconds : UInt64) (h : a.offset.toNat + 1 < 2 ^ 24) :
    a.turn seconds = a.forward 1 := by
  have hwraps : ¬ a.wraps = true := by
    rw [wraps_iff_lt]
    omega
  rw [turn, if_neg hwraps]
  rfl

/-- Any other turn restarts the offset. -/
private theorem turn_offset_eq_zero (seconds : UInt64) (h : 2 ^ 24 ≤ a.offset.toNat + 1) :
    (a.turn seconds).offset = 0 := by
  unfold turn
  split
  · rfl
  · next hwraps =>
    -- without a wrap the offset was the last of all words
    have hlt := a.offset.toNat_lt
    rw [wraps_iff_lt] at hwraps
    apply UInt64.toNat_inj.1
    show (a.offset + 1).toNat = 0
    rw [UInt64.toNat_add]
    show (a.offset.toNat + 1) % 2 ^ 64 = 0
    omega

/-- The turn at the last offset of the span renews the magnitude. -/
private theorem turn_eq_renewed (seconds : UInt64) (h : a.offset.toNat + 1 = 2 ^ 24) :
    a.turn seconds = a.renewed seconds := by
  have hwraps : a.wraps = true := by
    rw [wraps_iff_lt]
    omega
  rw [turn, if_pos hwraps]
  rfl

/-- A turn leads to an id of its magnitude. -/
private theorem id_turn_mem (a : Allocator) (seconds : UInt64) :
    (a.turn seconds).id ∈ idsAt (a.turn seconds).magnitude := by
  refine ⟨(a.turn seconds).offset, ?_, rfl⟩
  unfold turn
  split
  · exact UInt64.zero_le
  · next hwraps => exact UInt64.not_lt.1 (by simpa [wraps] using hwraps)

/-- A turn stays in its magnitude if the clock reads it at a wrap. -/
private theorem turn_magnitude {seconds : UInt64} (h : magnitudeAt seconds a.epoch = a.magnitude) :
    (a.turn seconds).magnitude = a.magnitude := by
  unfold turn
  split
  · exact h
  · rfl

@[simp] theorem turn_epoch (a : Allocator) (seconds : UInt64) :
    (a.turn seconds).epoch = a.epoch := by
  unfold turn
  split <;> rfl

private theorem forward_forward (a : Allocator) (m n : Nat) :
    (a.forward m).forward n = a.forward (m + n) := by
  simp only [forward, UInt64.ofNat_add, UInt64.add_assoc]

private theorem forward_offset_toNat {n : Nat} (h : a.offset.toNat + n < 2 ^ 24) :
    (a.forward n).offset.toNat = a.offset.toNat + n := by
  show (a.offset + UInt64.ofNat n).toNat = _
  rw [UInt64.toNat_add, UInt64.toNat_ofNat']
  omega

/-! ### Searches that end -/

/-- A free id further on in the same magnitude is found, unless another one is found before it. -/
private theorem exists_finds_ahead {k : Nat} (hspan : a.offset.toNat + (k + 1) < 2 ^ 24)
    (hfree : inUse (a.forward (k + 1)).id = false) :
    ∃ n ≤ k + 1, ∃ found, Finds clock inUse wrapped a n found := by
  -- the free id comes one offset nearer with each turn
  induction k generalizing a wrapped with
  | zero =>
    have hturn := turn_eq_forward (clock wrapped) hspan
    exact ⟨1, Nat.le_refl _, _, .free (by rw [hturn]; exact hfree)⟩
  | succ k ih =>
    have hturn : a.turn (clock wrapped) = a.forward 1 := turn_eq_forward _ (by omega)
    have hoffset : (a.forward 1).offset.toNat = a.offset.toNat + 1 :=
      forward_offset_toNat (by omega)
    cases huse : inUse (a.turn (clock wrapped)).id with
    | false => exact ⟨1, by omega, _, .free huse⟩
    | true =>
      -- seen from the next offset, the free id is the same
      have hahead : inUse ((a.forward 1).forward (k + 1)).id = false := by
        rw [forward_forward, Nat.add_comm 1]
        exact hfree
      obtain ⟨n, hn, found, hfinds⟩ := ih (by omega) hahead
      rw [← hturn] at hfinds
      exact ⟨n + 1, by omega, found, .passed huse hfinds⟩

/-- A turn that restarts the offset has all ids of a magnitude before it. -/
private theorem exists_finds_of_restart (hrestart : (a.turn (clock wrapped)).offset = 0)
    (hfree : ∃ i ∈ idsAt (a.turn (clock wrapped)).magnitude, inUse i = false) :
    ∃ n ≤ 2 ^ 24, ∃ found, Finds clock inUse wrapped a n found := by
  obtain ⟨i, ⟨offset, hoffset, rfl⟩, hfree⟩ := hfree
  cases huse : inUse (a.turn (clock wrapped)).id with
  | false => exact ⟨1, by omega, _, .free huse⟩
  | true =>
    rw [UInt64.le_iff_toNat_le] at hoffset
    change offset.toNat ≤ 2 ^ 24 - 1 at hoffset
    -- the first id is in use, so the free one is further on
    obtain ⟨k, hk⟩ : ∃ k, offset.toNat = k + 1 := by
      refine Nat.exists_eq_succ_of_ne_zero fun hzero => ?_
      obtain rfl : offset = 0 := UInt64.toNat_inj.1 hzero
      rw [id, hrestart, hfree] at huse
      cases huse
    have hahead : inUse ((a.turn (clock wrapped)).forward (k + 1)).id = false := by
      rw [← hk, id, forward, hrestart, UInt64.zero_add, UInt64.ofNat_toNat]
      exact hfree
    have hspan : (a.turn (clock wrapped)).offset.toNat + (k + 1) < 2 ^ 24 := by
      rw [hrestart, ← hk]
      show 0 + offset.toNat < 2 ^ 24
      omega
    obtain ⟨n, hn, found, hfinds⟩ := exists_finds_ahead hspan hahead
    exact ⟨n + 1, by omega, found, .passed huse hfinds⟩

/-- If every magnitude that the clock may lead to has a free id, a search ends within one magnitude
    of the next wrap. -/
theorem exists_finds
    (hfree : ∀ n, ∃ i ∈ idsAt (magnitudeAt (clock n) a.epoch), inUse i = false) {rest : Nat}
    (hrest : a.offset.toNat + 1 + rest = 2 ^ 24) :
    ∃ n ≤ rest + 2 ^ 24, ∃ found, Finds clock inUse wrapped a n found := by
  -- the offsets that are left before the wrap bound the turns
  induction rest generalizing a wrapped with
  | zero =>
    -- the last offset of the magnitude: the next turn wraps
    have hturn : a.turn (clock wrapped) = a.renewed (clock wrapped) := turn_eq_renewed _ hrest
    obtain ⟨n, hn, hfinds⟩ :
        ∃ n ≤ 2 ^ 24, ∃ found, Finds clock inUse wrapped a n found :=
      exists_finds_of_restart (by rw [hturn]; rfl) (by rw [hturn]; exact hfree wrapped)
    exact ⟨n, by omega, hfinds⟩
  | succ rest ih =>
    have hspan : a.offset.toNat + 1 < 2 ^ 24 := by omega
    have hturn : a.turn (clock wrapped) = a.forward 1 := turn_eq_forward _ hspan
    have hoffset : (a.forward 1).offset.toNat = a.offset.toNat + 1 := forward_offset_toNat hspan
    cases huse : inUse (a.turn (clock wrapped)).id with
    | false => exact ⟨1, by omega, _, .free huse⟩
    -- the id is in use, and one offset less is left
    | true =>
      obtain ⟨n, hn, found, hfinds⟩ := ih (a := a.forward 1) hfree (by omega)
      rw [← hturn] at hfinds
      exact ⟨n + 1, by omega, found, .passed huse hfinds⟩

/-- So with fewer ids in use than a magnitude has, `next` gives an id. -/
theorem isSome_next (hfew : {i | inUse i = true}.encard < 2 ^ 24) :
    (a.next clock inUse).isSome = true := by
  obtain ⟨n, hn, found, hfinds⟩ :
      ∃ n ≤ 2 ^ 25, ∃ found, Finds clock inUse 0 a n found := by
    -- an offset beyond the span restarts at once
    by_cases hspan : a.offset.toNat < 2 ^ 24
    · obtain ⟨rest, hrest⟩ : ∃ rest, a.offset.toNat + 1 + rest = 2 ^ 24 :=
        ⟨2 ^ 24 - 1 - a.offset.toNat, by omega⟩
      obtain ⟨n, hn, hfinds⟩ := exists_finds (fun n => exists_free_idsAt hfew _) hrest
      exact ⟨n, by omega, hfinds⟩
    · have hrestart : (a.turn (clock 0)).offset = 0 := turn_offset_eq_zero _ (by omega)
      obtain ⟨n, hn, hfinds⟩ := exists_finds_of_restart hrestart (exists_free_idsAt hfew _)
      exact ⟨n, by omega, hfinds⟩
  have hnext : a.next clock inUse = some found := next_eq_some_iff.2 ⟨n, hn, hfinds⟩
  rw [hnext]
  rfl

/-! ### Searches that do not end -/

/-- What is found while the clock reads the present magnitude at each wrap is a free id of this
    magnitude. -/
theorem Finds.mem_idsAt {n : Nat} (h : Finds clock inUse wrapped a n found)
    (hstill : ∀ n, magnitudeAt (clock n) a.epoch = a.magnitude) :
    found.1 ∈ idsAt a.magnitude ∧ inUse found.1 = false := by
  induction h with
  -- the id found is one of the magnitude that the turn leads to, which is the present one
  | @free wrapped a hfree =>
    have hmem := id_turn_mem a (clock wrapped)
    rw [turn_magnitude (hstill wrapped)] at hmem
    exact ⟨hmem, hfree⟩
  | @passed wrapped a n found huse hrest ih =>
    rw [turn_epoch, turn_magnitude (hstill wrapped)] at ih
    exact ih hstill

/-- Once all ids of the clock's magnitude are in use, a search can only end before the next wrap. -/
private theorem Finds.lt_of_used {seconds : UInt64} {n : Nat}
    (h : Finds (fun _ => seconds) inUse wrapped a n found)
    (hused : ∀ i ∈ idsAt (magnitudeAt seconds a.epoch), inUse i = true)
    (hoffset : a.offset.toNat < 2 ^ 24) : a.offset.toNat + n < 2 ^ 24 := by
  induction h with
  | @free wrapped a hfree =>
    by_cases hspan : a.offset.toNat + 1 < 2 ^ 24
    · exact hspan
    · -- the id found at the wrap would be in use
      have hturn : a.turn seconds = a.renewed seconds := turn_eq_renewed _ (by omega)
      have hmem := id_turn_mem a seconds
      rw [hturn] at hmem hfree
      cases (hused _ hmem).symm.trans hfree
  | @passed wrapped a n found huse hrest ih =>
    -- before the wrap each turn goes one offset further on
    by_cases hspan : a.offset.toNat + 1 < 2 ^ 24
    · have hturn : a.turn seconds = a.forward 1 := turn_eq_forward _ hspan
      have hnext : (a.forward 1).offset.toNat = a.offset.toNat + 1 := forward_offset_toNat hspan
      rw [hturn] at ih
      have hlt := ih hused (by omega)
      omega
    · -- after a wrap all ids of the magnitude are still to come, and all are in use
      have hturn : a.turn seconds = a.renewed seconds := turn_eq_renewed _ (by omega)
      rw [hturn] at hrest
      have hstill : magnitudeAt seconds (a.renewed seconds).epoch =
          (a.renewed seconds).magnitude := by simp only [renewed]
      obtain ⟨hmem, hfree⟩ := hrest.mem_idsAt fun _ => hstill
      cases (hused _ hmem).symm.trans hfree

/-- While the clock stands still, giving up after `turnBound` turns is giving up for good: the
    search without a bound does not end. -/
theorem WellFormed.next_eq_none_iff (h : a.WellFormed) (seconds : UInt64) :
    a.next (fun _ => seconds) inUse = none ↔
      ∀ n found, ¬ Finds (fun _ => seconds) inUse 0 a n found := by
  constructor
  · intro hnone n found hfinds
    -- what is found within the bound is given
    have hwithin (m : Nat) (hm : m ≤ 2 ^ 25) (found : TransactionId × Allocator)
        (hfinds : Finds (fun _ => seconds) inUse 0 a m found) : False := by
      have hnext : a.next (fun _ => seconds) inUse = some found :=
        next_eq_some_iff.2 ⟨m, hm, hfinds⟩
      rw [hnone] at hnext
      cases hnext
    have hlt := h.offset_lt
    by_cases hused : ∀ i ∈ idsAt (magnitudeAt seconds a.epoch), inUse i = true
    · -- the clock's ids are used up, so the search ends before the wrap, or never
      have hbefore := hfinds.lt_of_used hused hlt
      exact hwithin n (by omega) found hfinds
    · -- a free id of the clock's magnitude is found in time
      simp only [not_forall, Bool.not_eq_true] at hused
      obtain ⟨i, hi, hfree⟩ := hused
      obtain ⟨rest, hrest⟩ : ∃ rest, a.offset.toNat + 1 + rest = 2 ^ 24 :=
        ⟨2 ^ 24 - 1 - a.offset.toNat, by omega⟩
      obtain ⟨m, hm, found, hfinds⟩ := exists_finds (fun _ => ⟨i, hi, hfree⟩) hrest
      exact hwithin m (by omega) found hfinds
  · intro hnever
    refine Option.eq_none_iff_forall_ne_some.2 fun found hnext => ?_
    obtain ⟨n, -, hfinds⟩ := next_eq_some_iff.1 hnext
    exact hnever n found hfinds

/-! ### How long a search takes -/

/-- Whatever the state of an allocator, whatever the clock reads at each wrap and whichever ids are
    in use: if they are fewer than `2^24`, then `next` gives an id, which the search without a bound
    finds in one of its first `2^25` turns. A magnitude has `2^24` ids. If all of them are in use
    and the clock still reads the present magnitude whenever the offset wraps, then the search does
    not end, however many turns it takes. -/
theorem next_returns (a : Allocator) (clock : Nat → UInt64) (inUse : TransactionId → Bool) :
    ({i | inUse i = true}.encard < 2 ^ 24 →
      ∃ n ≤ 2 ^ 25, ∃ i b, Finds clock inUse 0 a n (i, b) ∧ inUse i = false ∧
        a.next clock inUse = some (i, b)) ∧
    (idsAt a.magnitude).encard = 2 ^ 24 ∧
    ((∀ n, magnitudeAt (clock n) a.epoch = a.magnitude) →
      (∀ i ∈ idsAt a.magnitude, inUse i = true) →
      ∀ n i b, ¬ Finds clock inUse 0 a n (i, b)) := by
  refine ⟨fun hfew => ?_, encard_idsAt a.magnitude, fun hstill hused n i b hfinds => ?_⟩
  · have hsome : (a.next clock inUse).isSome = true := isSome_next hfew
    obtain ⟨⟨i, b⟩, hnext⟩ := Option.isSome_iff_exists.1 hsome
    obtain ⟨n, hn, hfinds⟩ := next_eq_some_iff.1 hnext
    exact ⟨n, hn, i, b, hfinds, not_inUse_of_search hnext, hnext⟩
  · obtain ⟨hmem, hfree⟩ := hfinds.mem_idsAt hstill
    rw [hused i hmem] at hfree
    cases hfree

/-- At the epoch, on a clock that stands still. With all ids of magnitude 0 in use but the first, a
    search passes over all others, wraps and ends; with the first in use as well it does not end. -/
theorem next_returns_crowded :
    let crowded : TransactionId → Bool := fun i => decide (0 < i ∧ i < 0x1000000)
    let full : TransactionId → Bool := fun i => decide (i < 0x1000000)
    {i | crowded i = true}.encard < 2 ^ 24 ∧
    (∃ n ≤ 2 ^ 25, ∃ i b, Finds (fun _ => 0) crowded 0 (start 0 0) n (i, b) ∧
      crowded i = false ∧ (start 0 0).next (fun _ => 0) crowded = some (i, b)) ∧
    magnitudeAt 0 (start 0 0).epoch = (start 0 0).magnitude ∧
    (∀ i ∈ idsAt (start 0 0).magnitude, full i = true) ∧
    ∀ n i b, ¬ Finds (fun _ => 0) full 0 (start 0 0) n (i, b) := by
  intro crowded full
  -- these are the ids below the span
  have hfull : ∀ i ∈ idsAt 0, full i = true := by
    rintro i ⟨offset, hoffset, rfl⟩
    rw [UInt64.le_iff_toNat_le] at hoffset
    change offset.toNat ≤ 2 ^ 24 - 1 at hoffset
    show decide (0 + offset < 0x1000000) = true
    rw [decide_eq_true_iff, UInt64.zero_add, UInt64.lt_iff_toNat_lt]
    show offset.toNat < 2 ^ 24
    omega
  have hcrowded : {i | crowded i = true} ⊆ idsAt 0 := by
    intro i hi
    have hlt : i < 0x1000000 := (decide_eq_true_iff.1 hi).2
    refine ⟨i, ?_, (UInt64.zero_add i).symm⟩
    rw [UInt64.lt_iff_toNat_lt] at hlt
    rw [UInt64.le_iff_toNat_le]
    exact Nat.le_of_lt_succ hlt
  -- the first id of the magnitude is free in the one case
  have hfirst : 0 ∈ idsAt 0 ∧ 0 ∉ {i | crowded i = true} :=
    ⟨⟨0, by decide, rfl⟩, fun h => absurd (decide_eq_true_iff.1 h).1 (by decide)⟩
  have hfew : {i | crowded i = true}.encard < 2 ^ 24 := by
    have hfinite : (idsAt 0).Finite := Set.finite_of_encard_eq_coe (encard_idsAt 0)
    rw [← encard_idsAt 0]
    exact (hfinite.subset hcrowded).encard_lt_encard ⟨hcrowded, fun h => hfirst.2 (h hfirst.1)⟩
  obtain ⟨hends, -, -⟩ := next_returns (start 0 0) (fun _ => 0) crowded
  obtain ⟨-, -, hnever⟩ := next_returns (start 0 0) (fun _ => 0) full
  exact ⟨hfew, hends hfew, rfl, hfull, hnever (fun _ => rfl) hfull⟩

end Mal.Allocator
