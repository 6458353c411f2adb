import ChatArchive.Numeral.Extended

namespace ChatArchive.Store

open ChatArchive.Numeral

def isSpaceByte (b : UInt8) : Bool := b = 32 || (9 ≤ b && b ≤ 13)

def isDigitByte (b : UInt8) : Bool := 48 ≤ b && b ≤ 57

def digitValue (b : UInt8) : Nat := b.toNat - 48

/-- The significand at which further digits stop being kept: `(2 ^ 64 - 1 - 9) / 10`. -/
def keepLimit : Nat := (Nat.pow 2 64 - 1 - 9) / 10

inductive RealForm where
  | integer
  | decimal
  | prefixDecimal
  | other
  deriving DecidableEq, Repr

structure RealScan where
  negative : Bool := false
  significand : Nat := 0
  shift : Int := 0
  digits : Nat := 0
  pointSeen : Bool := false
  exponentSeen : Bool := false
  exponentNegative : Bool := false
  exponent : Nat := 0
  exponentValid : Bool := true

def RealScan.wholeDigits (r : RealScan) : List UInt8 → RealScan × List UInt8
  | b :: rest =>
    if isDigitByte b then
      let s := r.significand * 10 + digitValue b
      let r := { r with significand := s, digits := r.digits + 1 }
      if keepLimit ≤ s then
        let skipped := rest.takeWhile isDigitByte
        ({ r with shift := r.shift + skipped.length }, rest.drop skipped.length)
      else r.wholeDigits rest
    else (r, b :: rest)
  | [] => (r, [])

def RealScan.fractionDigits (r : RealScan) : List UInt8 → RealScan × List UInt8
  | b :: rest =>
    if isDigitByte b then
      if r.significand < keepLimit then
        { r with significand := r.significand * 10 + digitValue b, shift := r.shift - 1,
                 digits := r.digits + 1 }.fractionDigits rest
      else r.fractionDigits rest
    else (r, b :: rest)
  | [] => (r, [])

def RealScan.exponentDigits (r : RealScan) : List UInt8 → RealScan × List UInt8
  | b :: rest =>
    if isDigitByte b then
      let e := if r.exponent < 10000 then r.exponent * 10 + digitValue b else 10000
      { r with exponent := e, exponentValid := true }.exponentDigits rest
    else (r, b :: rest)
  | [] => (r, [])

def signOf : List UInt8 → Bool × List UInt8
  | 45 :: rest => (true, rest)
  | 43 :: rest => (false, rest)
  | bs => (false, bs)

def RealScan.read (bs : List UInt8) : RealScan × List UInt8 :=
  let (negative, bs) := signOf bs
  let (r, bs) := ({ negative := negative } : RealScan).wholeDigits bs
  let (r, bs) := match bs with
    | 46 :: rest => ({ r with pointSeen := true }).fractionDigits rest
    | _ => (r, bs)
  match bs with
  | b :: rest =>
    if b = 101 || b = 69 then
      let r := { r with exponentSeen := true, exponentValid := false }
      let (eneg, rest) := signOf rest
      let (r, rest) := ({ r with exponentNegative := eneg }).exponentDigits rest
      (r, rest.dropWhile isSpaceByte)
    else (r, (b :: rest).dropWhile isSpaceByte)
  | [] => (r, [])

def RealScan.form (r : RealScan) (left : List UInt8) : RealForm :=
  if left.isEmpty && 0 < r.digits && r.exponentValid then
    if r.pointSeen || r.exponentSeen then .decimal else .integer
  else if (r.pointSeen || r.exponentSeen) && ((r.pointSeen && r.exponentSeen) || r.exponentValid) &&
      0 < r.digits then .prefixDecimal
  else .other

def iterateWhile {α : Type} (p : α → Bool) (f : α → α) : Nat → α → α
  | 0, x => x
  | fuel + 1, x => if p x then iterateWhile p f fuel (f x) else x

def normalize (s : Nat) (e : Int) : Nat × Int :=
  let (s, e) := iterateWhile (fun (s, e) => 0 < e && s < (Nat.pow 2 64 - 1 - 0x7ff) / 10)
    (fun (s, e) => (s * 10, e - 1)) 20 (s, e)
  iterateWhile (fun (s, e) => e < 0 && s % 10 = 0) (fun (s, e) => (s / 10, e + 1)) 20 (s, e)

def scaleBy (c : Extended) (step : Nat) (r : Extended) (n : Nat) : Extended × Nat :=
  (Nat.repeat (fun x => x.mul c) (n / step) r, n % step)

def largestFinite : Extended := ⟨Nat.pow 2 53 - 1, 971⟩

def scaledMagnitude (s : Nat) (e : Int) : Double :=
  if e = 0 then Double.ofRatio false s 1
  else
    let r := Extended.ofNat s
    let r :=
      if 0 < e then
        let (r, n) := scaleBy (Extended.tenPow 100) 100 r e.toNat
        let (r, n) := scaleBy (Extended.tenPow 10) 10 r n
        (scaleBy (Extended.tenPow 1) 1 r n).1
      else
        let (r, n) := scaleBy (Extended.tenPowNeg 100) 100 r e.natAbs
        let (r, n) := scaleBy (Extended.tenPowNeg 10) 10 r n
        (scaleBy (Extended.tenPowNeg 1) 1 r n).1
    if largestFinite.lt r then Double.infinity false else r.toDouble false

def RealScan.value (r : RealScan) : Double :=
  if r.significand = 0 then Double.zero r.negative
  else
    let e : Int := (if r.exponentNegative then -(r.exponent : Int) else r.exponent) + r.shift
    let (s, e) := normalize r.significand e
    let x := scaledMagnitude s e
    if r.negative then x.neg else x

/-- Read a real from text: its value (zero when none is read) and the form of the text. -/
def readReal (bs : List UInt8) : Double × RealForm :=
  let bs := bs.dropWhile isSpaceByte
  if bs.isEmpty then (Double.zero false, .other)
  else
    let (r, left) := RealScan.read bs
    (r.value, r.form left)

inductive IntegerForm where
  | exact
  | trailing
  | empty
  | overflow
  deriving DecidableEq, Repr

def IntegerForm.lenient : IntegerForm → Bool
  | .exact | .trailing | .empty => true
  | .overflow => false

/-- Read an integer from text: its value, saturated at the ends of the 64-bit range, and the
form of the text. -/
def readInteger (bs : List UInt8) : Int × IntegerForm :=
  let bs := bs.dropWhile isSpaceByte
  let (negative, bs) := signOf bs
  let zeros := !(bs.takeWhile (fun b => b = 48)).isEmpty
  let bs := bs.dropWhile (fun b => b = 48)
  let ds := bs.takeWhile isDigitByte
  let left := bs.drop ds.length
  let u := ds.foldl (fun acc b => acc * 10 + digitValue b) 0
  let value : Int :=
    if u ≤ Nat.pow 2 63 - 1 then (if negative then -(u : Int) else u)
    else if negative then -Int.pow 2 63 else Int.pow 2 63 - 1
  let form : IntegerForm :=
    if ds.isEmpty && !zeros then .empty
    else if left.all isSpaceByte then .exact
    else .trailing
  let form :=
    if ds.length < 19 then form
    else if Nat.pow 2 63 < u || (u = Nat.pow 2 63 && !negative) then .overflow
    else form
  (value, form)

def Double.toInt64 (x : Double) : Int :=
  if x.isNaN then -Int.pow 2 63
  else
    let (a, b) := x.ratio
    let mag : Nat := a / b
    if x.negative then
      if 9223372036854774784 * b < a then -Int.pow 2 63 else -(mag : Int)
    else if 9223372036854774784 * b < a then Int.pow 2 63 - 1 else mag

def Double.ofInteger (n : Int) : Double := Double.ofRatio (n < 0) n.natAbs 1

def sameAsInteger (x : Double) (i : Int) : Bool :=
  x.eqZero || (x == Double.ofInteger i && -Int.pow 2 51 ≤ i && i < Int.pow 2 51)

def scaleWhile (p : Extended → Bool) (c : Extended) (step : Int) :
    Nat → Extended × Int → Extended × Int
  | 0, x => x
  | fuel + 1, (r, exp) => if p r then scaleWhile p c step fuel (r.mul c, exp + step) else (r, exp)

def engineDigits (x : Double) : Nat × Int :=
  let r := Extended.ofDouble x
  let atLeast (k : Extended) (v : Extended) : Bool := !v.lt k
  let below (k : Extended) (v : Extended) : Bool := v.lt k
  let (r, exp) :=
    if atLeast (Extended.tenPow 19) r then
      let s := scaleWhile (atLeast (Extended.tenPow 119)) (Extended.tenPowNeg 100) 100 40 (r, 0)
      let s := scaleWhile (atLeast (Extended.tenPow 29)) (Extended.tenPowNeg 10) 10 40 s
      scaleWhile (atLeast (Extended.tenPow 19)) (Extended.tenPowNeg 1) 1 40 s
    else
      let s := scaleWhile (below (Extended.tenPowNeg 97)) (Extended.tenPow 100) (-100) 40 (r, 0)
      let s := scaleWhile (below (Extended.tenPow 7)) (Extended.tenPow 10) (-10) 40 s
      scaleWhile (below (Extended.tenPow 17)) (Extended.tenPow 1) (-1) 40 s
  (r.truncate, exp)

def decimalDigits (n : Nat) : List Nat := (Nat.toDigits 10 n).map fun c => c.toNat - 48

def incrementDigits (ds : List Nat) : List Nat × Bool :=
  let (out, carry) := ds.foldr (fun d (acc, carry) =>
    if carry then (if d = 9 then (0 :: acc, true) else ((d + 1) :: acc, false))
    else (d :: acc, false)) ([], true)
  if carry then (1 :: out, true) else (out, false)

/-- The digits a real is written with, rounded half up to fifteen and without trailing zeros,
and the position of the decimal point after the first of them. -/
def writtenDigits (x : Double) : List Nat × Int :=
  let (v, exp) := engineDigits x
  let ds := decimalDigits v
  let point : Int := ds.length + exp
  let (kept, point) :=
    if ds.length ≤ 15 then (ds, point)
    else if 5 ≤ ds.getD 15 0 then
      let (up, grew) := incrementDigits (ds.take 15)
      (up, if grew then point + 1 else point)
    else (ds.take 15, point)
  ((kept.reverse.dropWhile (· = 0)).reverse, point)

def digitText (ds : List Nat) : String := String.ofList (ds.map fun d => Char.ofNat (48 + d))

def realText (x : Double) : String :=
  let sign := if x.negative && !x.eqZero then "-" else ""
  if x.isNaN then "NaN"
  else if x.isInfinite then sign ++ "Inf"
  else if x.eqZero then "0.0"
  else
    let (ds, point) := writtenDigits x
    let ds := if ds.isEmpty then [0] else ds
    let exp := point - 1
    if exp < -4 ∨ 14 < exp then
      let rest := ds.drop 1
      let e := exp.natAbs
      sign ++ digitText (ds.take 1) ++ "." ++ (if rest.isEmpty then "0" else digitText rest) ++
        "e" ++ (if exp < 0 then "-" else "+") ++ (if e < 10 then "0" else "") ++ toString e
    else if point ≤ 0 then
      sign ++ "0." ++ String.ofList (List.replicate (-point).toNat '0') ++ digitText ds
    else
      let whole := ds.take point.toNat ++ List.replicate (point.toNat - ds.length) 0
      let frac := ds.drop point.toNat
      sign ++ digitText whole ++ "." ++ (if frac.isEmpty then "0" else digitText frac)

end ChatArchive.Store
