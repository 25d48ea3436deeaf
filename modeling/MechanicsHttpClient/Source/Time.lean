import Mathlib.Algebra.Group.Nat.Defs
import Mathlib.Data.Nat.Notation

/-!
# std::time: clock readings and durations

`Instant` is the Linux representation: seconds in an i64 and nanoseconds below
one second, held here as one count of nanoseconds. `Duration` has u64 seconds.
`Instant + Duration` panics when the sum is not representable; the model makes
that `none`. tokio deadlines are computed with a saturating far future and
never panic, so the runtime keeps them as plain numbers.
-/

namespace MechanicsHttpClient.Source

def nanosPerSec : Nat := 1000000000

def instantLimit : Nat := 2 ^ 63 * nanosPerSec

def durationLimit : Nat := 2 ^ 64 * nanosPerSec

structure Instant where
  nanos : Nat
  inRange : nanos < instantLimit
  deriving DecidableEq

structure Duration where
  nanos : Nat
  inRange : nanos < durationLimit
  deriving DecidableEq

/-- What a modelled function can unwind with. `loopBound` is no Rust panic: it
would be the bound put on a modelled loop, and no execution reaches it. -/
inductive Panic where
  | sliceOutOfBounds | instantOverflow | loopBound
  deriving DecidableEq, Repr

def Duration.fromSecs (secs : UInt64) : Duration :=
  ⟨secs.toNat * nanosPerSec, by
    unfold durationLimit
    exact Nat.mul_lt_mul_of_pos_right secs.toNat_lt (by decide)⟩

def Duration.fromMillis (millis : UInt64) : Duration :=
  ⟨millis.toNat * 1000000, by
    have small := millis.toNat_lt
    unfold durationLimit nanosPerSec
    omega⟩

/-- `Instant::checked_add`, whose `none` is the panic of `Instant + Duration`. -/
def Instant.checkedAdd (t : Instant) (d : Duration) : Option Instant :=
  if h : t.nanos + d.nanos < instantLimit then some ⟨t.nanos + d.nanos, h⟩ else none

theorem Instant.checkedAdd_eq_some {t e : Instant} {d : Duration} :
    t.checkedAdd d = some e ↔ e.nanos = t.nanos + d.nanos := by
  unfold Instant.checkedAdd
  constructor
  · intro h
    split at h
    · cases h
      rfl
    · cases h
  · intro h
    have bound : t.nanos + d.nanos < instantLimit := h ▸ e.inRange
    rw [dif_pos bound]
    cases e
    simp_all

theorem Instant.checkedAdd_eq_none {t : Instant} {d : Duration} :
    t.checkedAdd d = none ↔ instantLimit ≤ t.nanos + d.nanos := by
  unfold Instant.checkedAdd
  split
  · simp
    omega
  · simp
    omega

end MechanicsHttpClient.Source
