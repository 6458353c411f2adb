import ChatArchive.Clock.Instant

namespace ChatArchive.Clock

def padded (width : Nat) (n : Nat) : String :=
  let s := toString n
  String.ofList (List.replicate (width - s.length) '0') ++ s

/-- A year: four digits within 0..9999, otherwise a sign and at least four digits. -/
def yearText (y : Int) : String :=
  if 0 ≤ y ∧ y ≤ 9999 then padded 4 y.toNat
  else (if y < 0 then "-" else "+") ++ padded 4 y.natAbs

/-- The fraction of a second: none, or 3, 6 or 9 digits, the fewest that are exact. -/
def fractionText (nanos : Nat) : String :=
  if nanos = 0 then ""
  else if nanos % 1000000 = 0 then "." ++ padded 3 (nanos / 1000000)
  else if nanos % 1000 = 0 then "." ++ padded 6 (nanos / 1000)
  else "." ++ padded 9 nanos

structure Wall where
  date : Date
  hour : Nat
  minute : Nat
  second : Nat
  nanos : Nat

def Wall.ofLocal (secs : Int) (nanos : Nat) : Wall :=
  let days := secs / 86400
  let sod := (secs % 86400).toNat
  let leap := if 1000000000 ≤ nanos then 1 else 0
  ⟨Date.ofDays days, sod / 3600, sod / 60 % 60, sod % 60 + leap, nanos % 1000000000⟩

def Wall.dateText (w : Wall) : String :=
  yearText w.date.year ++ "-" ++ padded 2 w.date.month ++ "-" ++ padded 2 w.date.day

def Wall.clockText (w : Wall) : String :=
  padded 2 w.hour ++ ":" ++ padded 2 w.minute ++ ":" ++ padded 2 w.second

def offsetText (zulu : Bool) (offset : Int) : String :=
  if zulu && offset = 0 then "Z"
  else
    let m := offset.natAbs / 60
    (if offset < 0 then "-" else "+") ++ padded 2 (m / 60) ++ ":" ++ padded 2 (m % 60)

namespace Zoned

def rfc3339 (z : Zoned) : String :=
  let w := Wall.ofLocal z.wall.1 z.wall.2
  w.dateText ++ "T" ++ w.clockText ++ fractionText w.nanos ++ offsetText false z.offset

def stamp (z : Zoned) : String :=
  let w := Wall.ofLocal z.wall.1 z.wall.2
  w.dateText ++ "T" ++ w.clockText ++ fractionText w.nanos ++ offsetText true z.offset

/-- `YYYY-MM-DD HH:MM:SS UTC`, the instant read in UTC whatever its offset. -/
def report (z : Zoned) : String :=
  let w := Wall.ofLocal z.instant.secs z.instant.nanos
  w.dateText ++ " " ++ w.clockText ++ " UTC"

end Zoned

end ChatArchive.Clock
