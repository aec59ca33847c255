import Mal.Message.Header

/-!
# Transaction id allocation

An id is a magnitude plus an offset. The magnitude is the number of seconds since an epoch, shifted
left by 24 bits; the offset counts up from 0 to `2^24 - 1`. When the offset would pass its span, the
magnitude is computed anew from the clock and the offset restarts at 0, so ids grow as long as the
clock does. Ids that are still in use are passed over, which covers a clock that has not moved since
the last wrap.

`Allocator.next` gives up after `turnBound` turns. With a clock that stands still during the call
that is no restriction: by then every id of the present magnitude has been tried, and the turns
after it would only try the same ids again.
-/

namespace Mal

/-- Where the allocation of transaction ids has got to. -/
structure Allocator where
  /-- Seconds since 1970 at which magnitude 0 begins. -/
  epoch : UInt64
  magnitude : UInt64
  offset : UInt64
  deriving DecidableEq

namespace Allocator

/-- Largest offset added to a magnitude. -/
def offsetSpan : UInt64 := 0xFFFFFF

/-- Number of bits that seconds are shifted by. -/
def magnitudeShift : UInt64 := 24

/-- The magnitude at a clock reading. Readings before the epoch count as the epoch, and bits shifted
    past the top are lost. -/
def magnitudeAt (seconds epoch : UInt64) : UInt64 :=
  (if seconds ≤ epoch then 0 else seconds - epoch) <<< magnitudeShift

/-- An allocator made at a clock reading. -/
def start (epoch seconds : UInt64) : Allocator :=
  { epoch := epoch, magnitude := magnitudeAt seconds epoch, offset := 0 }

/-- The id at the present position. -/
def id (a : Allocator) : TransactionId :=
  a.magnitude + a.offset

/-- Whether the next turn wraps around. -/
def wraps (a : Allocator) : Bool :=
  a.offset + 1 > offsetSpan

/-- Moves on by one offset, reading `seconds` off the clock if the offset wraps. -/
def turn (a : Allocator) (seconds : UInt64) : Allocator :=
  if a.wraps then { a with magnitude := magnitudeAt seconds a.epoch, offset := 0 }
  else { a with offset := a.offset + 1 }

/-- Turns until an id is free, at most `turns` times. `clock n` is what the clock reads at the
    `n`-th wrap. -/
def search (clock : Nat → UInt64) (inUse : TransactionId → Bool) :
    (turns wrapped : Nat) → Allocator → Option (TransactionId × Allocator)
  | 0, _, _ => none
  | turns + 1, wrapped, a =>
    let next := a.turn (clock wrapped)
    if inUse next.id then search clock inUse turns (if a.wraps then wrapped + 1 else wrapped) next
    else some (next.id, next)

/-- Number of turns after which a search is given up, `2^25`: the rest of one magnitude and all of
    another. -/
def turnBound : Nat := 0x2000000

/-- The next id that is not in use, and where the allocator stands then. -/
def next (a : Allocator) (clock : Nat → UInt64) (inUse : TransactionId → Bool) :
    Option (TransactionId × Allocator) :=
  search clock inUse turnBound 0 a

/-- An id that was handed out was not in use. -/
theorem not_inUse_of_search {clock : Nat → UInt64} {inUse : TransactionId → Bool}
    {turns wrapped : Nat} {a b : Allocator} {i : TransactionId}
    (h : search clock inUse turns wrapped a = some (i, b)) : inUse i = false := by
  induction turns generalizing wrapped a with
  | zero => simp [search] at h
  | succ n ih =>
    simp only [search] at h
    split at h
    · exact ih h
    · next hfree =>
      simp only [Option.some.injEq, Prod.mk.injEq] at h
      obtain ⟨rfl, _⟩ := h
      simpa using hfree

end Allocator

end Mal
