import ChatArchive.Clock.Text
/-!
Tick counts: signed 64-bit counts of 100-nanosecond intervals since 0001-01-01T00:00:00Z. The
Unix epoch lies 621355968000000000 ticks later. Seconds are the floor of the quotient, so a count
before the epoch has a positive sub-second part.
-/
namespace ChatArchive.Clock

def epochTicks : Int := 621355968000000000

def ticksPerSecond : Int := 10000000

def toU32? (n : Int) : Option Nat :=
  if 0 ≤ n ∧ n < Int.pow 2 32 then some n.toNat else none

/-- The instant of a tick count; `none` when the count less the epoch offset leaves the signed
64-bit range, or when its nanoseconds are no unsigned 32-bit number. -/
def Instant.ofTicks? (ticks : Int64) : Option Instant :=
  let since := ticks.toInt - epochTicks
  if since < -Int.pow 2 63 then none
  else (toU32? (since % ticksPerSecond * 100)).bind (Instant.ofUnix? (since / ticksPerSecond))

def ticksText (ticks : Int64) : String :=
  match Instant.ofTicks? ticks with
  | some t => (Zoned.utc t).report
  | none => toString ticks.toInt

end ChatArchive.Clock
