import ChatArchive.Numeral.Double

namespace ChatArchive.Numeral

structure Decimal where
  digits : Nat
  exponent : Int
  deriving DecidableEq, Repr

inductive Tie where
  | toEven
  | up
  deriving DecidableEq, Repr

namespace Decimal

def cmpScaled (a : Nat) (i : Int) (n : Nat) (j : Int) : Ordering :=
  compare (a * Nat.pow 10 i.toNat * Nat.pow 2 (-j).toNat) (n * Nat.pow 2 j.toNat * Nat.pow 10 (-i).toNat)

structure Binary where
  m : Nat
  q : Int
  narrowBelow : Bool
  deriving DecidableEq, Repr

def Binary.ofDouble (x : Double) : Binary :=
  ⟨x.significand, x.binaryExponent, x.fraction = 0 && 1 < x.biasedExponent⟩

/-- Whether `d` lies among the reals that round to `x`, ties going to the even significand. -/
def Binary.readsBack (x : Binary) (d : Decimal) : Bool :=
  let lo := if x.narrowBelow then 4 * x.m - 1 else 4 * x.m - 2
  let hi := 4 * x.m + 2
  let incl := x.m % 2 == 0
  let cl := cmpScaled d.digits d.exponent lo (x.q - 2)
  let ch := cmpScaled d.digits d.exponent hi (x.q - 2)
  (cl == .gt || (incl && cl == .eq)) && (ch == .lt || (incl && ch == .eq))

/-- The least `k` with `m · 2 ^ q < 10 ^ k`, for `m > 0`: a guess from the binary logarithm,
then the largest of the four candidates around it that is still not above the number. -/
def Binary.scale (x : Binary) : Int :=
  let guess : Int := (((x.m.log2 : Int) + x.q) * 30103) / 100000
  let below (k : Int) : Bool := cmpScaled 1 k x.m x.q != .gt
  if below (guess + 2) then guess + 3
  else if below (guess + 1) then guess + 2
  else if below guess then guess + 1
  else guess

def Binary.floorOn (x : Binary) (e : Int) : Nat :=
  (x.m * Nat.pow 2 x.q.toNat * Nat.pow 10 (-e).toNat) / (Nat.pow 2 (-x.q).toNat * Nat.pow 10 e.toNat)

def strip : Nat → Decimal → Decimal
  | 0, d => d
  | fuel + 1, d =>
    if d.digits ≠ 0 ∧ d.digits % 10 = 0 then strip fuel ⟨d.digits / 10, d.exponent + 1⟩ else d

def Binary.onGrid (x : Binary) (tie : Tie) (k : Int) (n : Nat) : Option Decimal :=
  let e := k - n
  let lo := x.floorOn e
  let dLo : Decimal := ⟨lo, e⟩
  let dHi : Decimal := ⟨lo + 1, e⟩
  let okLo := x.readsBack dLo
  let okHi := x.readsBack dHi
  if okLo && okHi then
    -- compare twice the value with the sum of the two neighbours
    match cmpScaled (2 * lo + 1) e x.m (x.q + 1) with
    | .gt => some dLo
    | .lt => some dHi
    | .eq => match tie with
      | .toEven => if lo % 2 = 0 then some dLo else some dHi
      | .up => some dHi
  else if okLo then some dLo
  else if okHi then some dHi
  else none

def Binary.search (x : Binary) (tie : Tie) (k : Int) : Nat → Nat → Option Decimal
  | 0, _ => none
  | fuel + 1, n =>
    match x.onGrid tie k n with
    | some d => some d
    | none => x.search tie k fuel (n + 1)

def Binary.exact (x : Binary) : Decimal :=
  if 0 ≤ x.q then ⟨x.m * Nat.pow 2 x.q.toNat, 0⟩ else ⟨x.m * Nat.pow 5 (-x.q).toNat, x.q⟩

/-- The shortest decimal that reads back as `x`, for `m > 0`, with trailing zeros stripped.
Seventeen digits always suffice; the exact value stands behind the search all the same. -/
def Binary.shortest (x : Binary) (tie : Tie) : Decimal :=
  let found := (x.search tie x.scale 17 1).getD x.exact
  strip 400 found

end Decimal

def Double.shortest (x : Double) (tie : Tie) : Decimal :=
  (Decimal.Binary.ofDouble x).shortest tie

end ChatArchive.Numeral
