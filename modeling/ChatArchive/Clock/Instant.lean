import ChatArchive.Clock.Civil
/-!
Instants on the UTC time line, counted in seconds from 1970-01-01T00:00:00Z plus nanoseconds.
The representable years run from -262143 to 262142. A leap second is written as nanoseconds from
10^9 up to 2·10^9 and is allowed only in the last second of a minute. A zoned instant adds a
fixed offset east of UTC, less than a day in either direction, which moves the wall clock and
not the instant.
-/
namespace ChatArchive.Clock

def minSecs : Int := -8334601228800

def maxSecs : Int := 8210266876799

/-- Seconds and nanoseconds that name an instant. -/
def Valid (secs : Int) (nanos : Nat) : Prop :=
  minSecs ≤ secs ∧ secs ≤ maxSecs ∧ nanos < 2000000000 ∧ (1000000000 ≤ nanos → secs % 60 = 59)

instance (secs : Int) (nanos : Nat) : Decidable (Valid secs nanos) := by
  unfold Valid; infer_instance

structure Instant where
  secs : Int
  nanos : Nat
  valid : Valid secs nanos

namespace Instant

def ofUnix? (secs : Int) (nanos : Nat) : Option Instant :=
  if h : Valid secs nanos then some ⟨secs, nanos, h⟩ else none

def isLeap (t : Instant) : Bool := 1000000000 ≤ t.nanos

def subsecNanos (t : Instant) : Nat := t.nanos % 1000000000

/-- The instant `d` seconds later. Leaving a leap second forward starts from the second it
extends, leaving it backward from the second after it; a shift by zero keeps it. `none` when the
result falls outside the representable years. -/
def shift? (t : Instant) (d : Int) : Option Instant :=
  let (s, n) :=
    if t.isLeap then
      if 0 < d then (t.secs, t.nanos - 1000000000)
      else if d < 0 then (t.secs + 1, t.nanos - 1000000000)
      else (t.secs, t.nanos)
    else (t.secs, t.nanos)
  ofUnix? (s + d) n

end Instant

structure Zoned where
  instant : Instant
  offset : Int
  offset_bound : offset.natAbs < 86400

namespace Zoned

def utc (t : Instant) : Zoned := ⟨t, 0, by decide⟩

/-- The wall-clock reading: seconds since the epoch of the local calendar, and nanoseconds. -/
def wall (z : Zoned) : Int × Nat := (z.instant.secs + z.offset, z.instant.nanos)

end Zoned

end ChatArchive.Clock
