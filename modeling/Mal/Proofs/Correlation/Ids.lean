import Mathlib.Algebra.Group.Nat.Defs
import Mal.Correlation.Allocator

/-!
# Transaction ids grow

A magnitude is a multiple of `2^24` and an offset is below it, so an id is their sum as numbers and
not only as machine words. A turn that does not wrap makes the id one greater. A turn that wraps
makes it greater if the clock reads a later second than the one the present magnitude was made at; a
reading counts from the epoch and has to fit the 40 bits that a magnitude has for it.

## Key results

- `WellFormed.turn`, `WellFormed.search`: magnitudes and offsets stay in their bounds
- `WellFormed.lt_turn`, `WellFormed.lt_search`: an id is greater than all ids before it
-/

namespace Mal.Allocator

/-- Magnitude and offset have bits of their own. -/
structure WellFormed (a : Allocator) : Prop where
  magnitude_mod : a.magnitude.toNat % 2 ^ 24 = 0
  offset_lt : a.offset.toNat < 2 ^ 24

/-- Seconds since the epoch at a clock reading; readings before the epoch count as the epoch. -/
def sinceEpoch (a : Allocator) (seconds : UInt64) : Nat :=
  seconds.toNat - a.epoch.toNat

/-- If the next turn wraps, the clock reads a later second than the present magnitude stands for. -/
def ReadsLater (a : Allocator) (seconds : UInt64) : Prop :=
  a.wraps = true →
    a.magnitude.toNat < a.sinceEpoch seconds * 2 ^ 24 ∧ a.sinceEpoch seconds < 2 ^ 40

/-- At every wrap of a search the clock reads a later second. -/
def SearchReadsLater (clock : Nat → UInt64) (inUse : TransactionId → Bool) :
    (turns wrapped : Nat) → Allocator → Prop
  | 0, _, _ => True
  | turns + 1, wrapped, a =>
    a.ReadsLater (clock wrapped) ∧
      let next := a.turn (clock wrapped)
      (inUse next.id = true →
        SearchReadsLater clock inUse turns (if a.wraps then wrapped + 1 else wrapped) next)

variable {a b : Allocator} {i : TransactionId}

/-- A search whose first turn finds a free id without wrapping reads no clock. -/
theorem searchReadsLater_of_free {clock : Nat → UInt64} {inUse : TransactionId → Bool}
    (turns : Nat) {wrapped : Nat} (hwraps : a.wraps = false)
    (hfree : inUse (a.turn (clock wrapped)).id = false) :
    SearchReadsLater clock inUse turns wrapped a := by
  cases turns with
  | zero => trivial
  | succ turns =>
    -- neither a wrap nor a second turn can come
    refine ⟨fun h => ?_, fun h => ?_⟩
    · rw [hwraps] at h
      cases h
    · rw [hfree] at h
      cases h

/-- A magnitude is a multiple of `2^24`, also where bits are lost. -/
private theorem magnitudeAt_toNat (a : Allocator) (seconds : UInt64) :
    (magnitudeAt seconds a.epoch).toNat = a.sinceEpoch seconds * 2 ^ 24 % 2 ^ 64 := by
  -- the difference of the readings does not go below zero
  have hreading : (if seconds ≤ a.epoch then 0 else seconds - a.epoch).toNat =
      a.sinceEpoch seconds := by
    unfold sinceEpoch
    split
    · next hle =>
      have hle : seconds.toNat ≤ a.epoch.toNat := hle
      simp only [UInt64.toNat_zero]
      omega
    · next hlt =>
      have hle : a.epoch ≤ seconds := by
        have hlt : ¬ seconds.toNat ≤ a.epoch.toNat := hlt
        show a.epoch.toNat ≤ seconds.toNat
        omega
      rw [UInt64.toNat_sub_of_le _ _ hle]
  rw [magnitudeAt, UInt64.toNat_shiftLeft, hreading, Nat.shiftLeft_eq]
  rfl

/-- An allocator starts within the bounds. -/
theorem WellFormed.start (epoch seconds : UInt64) : (Allocator.start epoch seconds).WellFormed where
  magnitude_mod := by
    have hmagnitude := magnitudeAt_toNat (Allocator.start epoch seconds) seconds
    show (magnitudeAt seconds epoch).toNat % 2 ^ 24 = 0
    -- bits lost at the top are multiples of `2^64`
    have hepoch : (Allocator.start epoch seconds).epoch = epoch := rfl
    rw [hepoch] at hmagnitude
    omega
  offset_lt := Nat.two_pow_pos 24

/-- An id is the sum of its parts; the sum does not overflow. -/
theorem WellFormed.id_toNat (h : a.WellFormed) :
    a.id.toNat = a.magnitude.toNat + a.offset.toNat := by
  have hmod := h.magnitude_mod
  have hlt := h.offset_lt
  have hword := a.magnitude.toNat_lt
  rw [id, UInt64.toNat_add]
  omega

/-- The next turn wraps at the largest offset. -/
theorem WellFormed.wraps_iff (h : a.WellFormed) : a.wraps = true ↔ a.offset.toNat = 2 ^ 24 - 1 := by
  have hlt := h.offset_lt
  -- the offset is far from the top, so counting up does not overflow
  have hnext : (a.offset + 1).toNat = a.offset.toNat + 1 := by
    rw [UInt64.toNat_add]
    show (a.offset.toNat + 1) % 2 ^ 64 = _
    omega
  have hspan : offsetSpan.toNat = 2 ^ 24 - 1 := rfl
  rw [wraps, decide_eq_true_iff, gt_iff_lt, UInt64.lt_iff_toNat_lt, hnext, hspan]
  omega

/-- A turn keeps magnitude and offset in their bounds. -/
theorem WellFormed.turn (h : a.WellFormed) (seconds : UInt64) : (a.turn seconds).WellFormed := by
  unfold Allocator.turn
  split
  · next hwraps =>
    -- a wrap starts a magnitude, with the offset at its beginning
    refine ⟨?_, Nat.two_pow_pos 24⟩
    have hmagnitude := a.magnitudeAt_toNat seconds
    show (magnitudeAt seconds a.epoch).toNat % 2 ^ 24 = 0
    omega
  · next hwraps =>
    -- without a wrap the offset is not the largest yet
    refine ⟨h.magnitude_mod, ?_⟩
    have hlt := h.offset_lt
    rw [h.wraps_iff] at hwraps
    show (a.offset + 1).toNat < 2 ^ 24
    rw [UInt64.toNat_add]
    show (a.offset.toNat + 1) % 2 ^ 64 < 2 ^ 24
    omega

/-- A turn leads to a greater id. -/
theorem WellFormed.lt_turn (h : a.WellFormed) {seconds : UInt64} (hlater : a.ReadsLater seconds) :
    a.id.toNat < (a.turn seconds).id.toNat := by
  rw [h.id_toNat, (h.turn seconds).id_toNat]
  have hlt := h.offset_lt
  unfold Allocator.turn
  split
  · next hwraps =>
    -- the clock has gone on, so the new magnitude is above all ids of the present one
    obtain ⟨hless, hbits⟩ := hlater hwraps
    have hmagnitude := a.magnitudeAt_toNat seconds
    have hmod := h.magnitude_mod
    show a.magnitude.toNat + a.offset.toNat < (magnitudeAt seconds a.epoch).toNat + 0
    omega
  · next hwraps =>
    -- in the same magnitude the offset counts up
    rw [h.wraps_iff] at hwraps
    show a.magnitude.toNat + a.offset.toNat < a.magnitude.toNat + (a.offset + 1).toNat
    rw [UInt64.toNat_add]
    show _ < a.magnitude.toNat + (a.offset.toNat + 1) % 2 ^ 64
    omega

/-- A search ends at a greater id, and at an allocator that stands there. -/
theorem WellFormed.lt_search {clock : Nat → UInt64} {inUse : TransactionId → Bool}
    {turns wrapped : Nat} (h : a.WellFormed) (hlater : SearchReadsLater clock inUse turns wrapped a)
    (hsearch : search clock inUse turns wrapped a = some (i, b)) :
    b.WellFormed ∧ b.id = i ∧ a.id.toNat < i.toNat := by
  induction turns generalizing wrapped a with
  | zero => cases hsearch
  | succ turns ih =>
    obtain ⟨hreads, hrest⟩ := hlater
    have hturn := h.lt_turn hreads
    simp only [search] at hsearch
    split at hsearch
    · -- an id in use is passed over, and the search goes on from it
      next huse =>
      obtain ⟨hb, hid, hlt⟩ := ih (h.turn _) (hrest huse) hsearch
      exact ⟨hb, hid, Nat.lt_trans hturn hlt⟩
    · cases hsearch
      exact ⟨h.turn _, rfl, hturn⟩

end Mal.Allocator
