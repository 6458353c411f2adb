/-!
Binary64 numbers held by their bit pattern: one sign bit, eleven exponent bits and fifty-two
fraction bits. A number built from an integer, a ratio or a decimal is the representable number
nearest to it, a tie going to the even fraction; a single-precision pattern widens exactly.
Equality of `Double` is equality of patterns, so `0.0` and `-0.0` differ and a NaN equals itself;
`eqZero` is the numeric test against zero.
-/
namespace ChatArchive.Numeral

/-- A binary64 number, kept as its bit pattern. -/
structure Double where
  bits : UInt64
  deriving DecidableEq, Repr

namespace Double

def ofFields (negative : Bool) (biased fraction : Nat) : Double :=
  ⟨UInt64.ofNat ((if negative then Nat.pow 2 63 else 0) + (biased % Nat.pow 2 11) * Nat.pow 2 52 + fraction % Nat.pow 2 52)⟩

def zero (negative : Bool) : Double := ofFields negative 0 0

def infinity (negative : Bool) : Double := ofFields negative 0x7FF 0

def negative (x : Double) : Bool := x.bits.toNat / Nat.pow 2 63 = 1

def biasedExponent (x : Double) : Nat := x.bits.toNat / Nat.pow 2 52 % Nat.pow 2 11

def fraction (x : Double) : Nat := x.bits.toNat % Nat.pow 2 52

def isNaN (x : Double) : Bool := x.biasedExponent = 0x7FF && x.fraction != 0

def isInfinite (x : Double) : Bool := x.biasedExponent = 0x7FF && x.fraction = 0

def isFinite (x : Double) : Bool := x.biasedExponent != 0x7FF

def eqZero (x : Double) : Bool := x.biasedExponent = 0 && x.fraction = 0

def significand (x : Double) : Nat :=
  if x.biasedExponent = 0 then x.fraction else x.fraction + Nat.pow 2 52

def binaryExponent (x : Double) : Int :=
  if x.biasedExponent = 0 then -1074 else (x.biasedExponent : Int) - 1075

def scaleDown (num den : Nat) (e : Int) : Nat × Nat :=
  if 0 ≤ e then (num, den * Nat.pow 2 e.toNat) else (num * Nat.pow 2 (-e).toNat, den)

def roundHalfEven (n d : Nat) : Nat :=
  let q := n / d
  let r := n % d
  if d < 2 * r then q + 1
  else if 2 * r < d then q
  else if q % 2 = 0 then q else q + 1

def ofRatio (negative : Bool) (num den : Nat) : Double :=
  if num = 0 then zero negative
  else
    let e0 : Int := (num.log2 : Int) - den.log2 - 52
    let s := scaleDown num den e0
    let e1 := if s.1 / s.2 < Nat.pow 2 52 then e0 - 1 else e0
    let e := max e1 (-1074)
    let t := scaleDown num den e
    let q := roundHalfEven t.1 t.2
    let carry := q = Nat.pow 2 53
    let q := if carry then Nat.pow 2 52 else q
    let e := if carry then e + 1 else e
    if 971 < e then infinity negative
    else if q < Nat.pow 2 52 then ofFields negative 0 q
    else ofFields negative (e + 1075).toNat (q - Nat.pow 2 52)

def ofInt (n : Int) : Double := ofRatio (n < 0) n.natAbs 1

def decimalLength (n : Nat) : Nat := (Nat.toDigits 10 n).length

/-- The number nearest to `m · 10 ^ e` with the given sign. Exponents far outside the range
of binary64 go straight to zero or infinity, so no huge power is computed. -/
def ofDecimal (negative : Bool) (m : Nat) (e : Int) : Double :=
  if m = 0 then zero negative
  else if 310 < e + decimalLength m then infinity negative
  else if e + decimalLength m < -330 then zero negative
  else if 0 ≤ e then ofRatio negative (m * Nat.pow 10 e.toNat) 1
  else ofRatio negative m (Nat.pow 10 (-e).toNat)

def ofSingleBits (w : UInt32) : Double :=
  let n := w.toNat
  let negative := n / Nat.pow 2 31 = 1
  let biased := n / Nat.pow 2 23 % Nat.pow 2 8
  let fraction := n % Nat.pow 2 23
  if biased = 0xFF then ofFields negative 0x7FF (fraction * Nat.pow 2 29)
  else if biased = 0 then ofRatio negative fraction (Nat.pow 2 149)
  else ofFields negative (biased + 896) (fraction * Nat.pow 2 29)

def neg (x : Double) : Double := ⟨x.bits ^^^ 0x8000000000000000⟩

def ratio (x : Double) : Nat × Nat :=
  let q := x.binaryExponent
  if 0 ≤ q then (x.significand * Nat.pow 2 q.toNat, 1) else (x.significand, Nat.pow 2 (-q).toNat)

def mul (x y : Double) : Double :=
  let (a, b) := x.ratio
  let (c, d) := y.ratio
  ofRatio (x.negative != y.negative) (a * c) (b * d)

def div (x y : Double) : Double :=
  let (a, b) := x.ratio
  let (c, d) := y.ratio
  ofRatio (x.negative != y.negative) (a * d) (b * c)

def nan : Double := ofFields false 0x7FF (Nat.pow 2 51)

def signedRatio (x : Double) : Int × Nat :=
  let (a, b) := x.ratio
  (if x.negative then -(a : Int) else a, b)

/-- The sum, rounded to nearest. An exact zero sum is negative only when both addends are
negative zeros; infinities of opposite signs give NaN. -/
def add (x y : Double) : Double :=
  if x.isNaN || y.isNaN then nan
  else if x.isInfinite then (if y.isInfinite && x.negative != y.negative then nan else x)
  else if y.isInfinite then y
  else
    let (a, b) := x.signedRatio
    let (c, d) := y.signedRatio
    let num := a * d + c * b
    if num = 0 then zero (x.negative && y.negative)
    else ofRatio (num < 0) num.natAbs (b * d)

def sub (x y : Double) : Double := add x y.neg

def times (x y : Double) : Double :=
  if x.isNaN || y.isNaN then nan
  else if x.isInfinite || y.isInfinite then
    if x.eqZero || y.eqZero then nan else infinity (x.negative != y.negative)
  else mul x y

/-- The quotient, rounded to nearest; a nonzero number over zero is an infinity, and zero over
zero or an infinity over an infinity is NaN. -/
def quotient (x y : Double) : Double :=
  if x.isNaN || y.isNaN then nan
  else if x.isInfinite then (if y.isInfinite then nan else infinity (x.negative != y.negative))
  else if y.isInfinite then zero (x.negative != y.negative)
  else if y.eqZero then (if x.eqZero then nan else infinity (x.negative != y.negative))
  else div x y

end Double

end ChatArchive.Numeral
